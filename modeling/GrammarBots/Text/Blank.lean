import GrammarBots.Text.Basic

/-!
# White space

The characters that trimming removes are those of the Unicode property `White_Space`.  The class
is wider than the blanks of ASCII: it holds the no-break space, the ideographic space and both
line and paragraph separators.
-/

namespace GrammarBots.Text

/-- The code points of the Unicode property `White_Space`. -/
def isBlank (c : Char) : Bool :=
  let n := c.toNat
  (9 ≤ n && n ≤ 13) || n == 32 || n == 0x85 || n == 0xA0 || n == 0x1680 ||
    (0x2000 ≤ n && n ≤ 0x200A) || n == 0x2028 || n == 0x2029 || n == 0x202F || n == 0x205F ||
    n == 0x3000

/-- The text without white space at either end. -/
def trim (t : Text) : Text := trimBoth isBlank t

end GrammarBots.Text

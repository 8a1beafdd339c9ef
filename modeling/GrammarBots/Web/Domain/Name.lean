import GrammarBots.Web.Domain.Direction
import GrammarBots.Web.Domain.Mapping
import GrammarBots.Web.Domain.Punycode

/-!
# Domain names

A domain name is labels with points between them.  For the host that it names, a label with
characters outside of ASCII is written as `xn--` and its Punycode; `Domain.toAscii?` gives that form
of a name, or nothing if the name cannot be one.
-/

namespace GrammarBots.Domain

/-! ### Joiners -/

/-- Whether the character before calls for a joiner: the sign that takes a vowel away. -/
def isVirama (c : Char) : Bool := Text.combiningClass c == 9

/-- Whether a character does not stand between the joined letters around it. -/
def isTransparent (c : Char) : Bool := Text.isNonspacing c || c.toNat == 0x1E94B

/-- Whether a text continues a joined line, transparent characters aside. -/
def meetsJoin (table : Array (Nat × Nat)) (t : Text) : Bool :=
  (t.dropWhile isTransparent).head?.any (Text.isIn table)

/-- Whether the joiners in a text stand where they make a difference; `before` is what precedes it,
last character first. -/
def joinsWell (before : Text) : Text → Bool
  | [] => true
  | c :: rest =>
    let afterVirama := before.head?.any isVirama
    let parts := meetsJoin DirectionTable.joinedToNext before &&
      meetsJoin DirectionTable.joinedToPrevious rest
    (c != '\u200D' || afterVirama) && (c != '\u200C' || afterVirama || parts) &&
      joinsWell (c :: before) rest

/-! ### Labels -/

/-- Whether a text has characters of ASCII alone. -/
def isAscii (t : Text) : Bool := t.all fun c => c.toNat < 0x80

/-- What marks a label in Punycode. -/
def punycodeMark : Text := "xn--".toList

/-- The label that a label in its plain form stands for, once its Punycode is read.  Punycode is not
used for what needs none. -/
def readLabel? (label : Text) : Option Text :=
  if Text.startsWith punycodeMark label then do
    let code := label.drop punycodeMark.length
    if !isAscii code ∨ code.getLast? = some '-' ∨ 2000 < code.length then none
    let decoded ← Punycode.decode? code
    if isAscii decoded ∨ !isPlain decoded then none else some decoded
  else some label

/-- Whether a label can be used: no mark begins it and its joiners stand well. -/
def isUsable (label : Text) : Bool :=
  isAscii label ||
    (!label.head?.any Text.isMark && joinsWell [] label && label.length ≤ 1000)

/-- The label in ASCII. -/
def writeLabel (label : Text) : Text :=
  if isAscii label then label else punycodeMark ++ Punycode.encode label

/-! ### Names -/

/-- Whether a character may not stand in the name of a host. -/
def isForbidden (c : Char) : Bool :=
  c.toNat ≤ 0x20 || c.toNat == 0x7F || "#/:<>?@[\\]^|%".toList.contains c

/-- The name in ASCII. -/
def toAscii? (name : Text) : Option Text := do
  let labels ← (Text.splitOn '.' (← plain? name)).mapM readLabel?
  if !labels.all isUsable ∨ !keepsDirections labels then none
  let ascii := Text.join ['.'] (labels.map writeLabel)
  if ascii.any isForbidden then none else some ascii

end GrammarBots.Domain

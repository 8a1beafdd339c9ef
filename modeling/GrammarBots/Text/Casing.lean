import GrammarBots.Text.Basic
import GrammarBots.Text.CaseTable
import GrammarBots.Text.ClassTable

/-!
# Upper and lower case

The full case mappings of Unicode: a character may map to several, as `ß` does to `SS`.  Lower
casing of a text is the mapping of its characters but for one rule that looks at the neighbours: a
capital sigma that ends a word becomes a final sigma.
-/

namespace GrammarBots.Text

/-- What the tables give for a code point: several characters, one moved character, or itself. -/
def caseMapping (special : List (Nat × List Nat)) (runs : List CaseTable.Run) (c : Char) : Text :=
  match special.lookup c.toNat with
  | some several => several.map Char.ofNat
  | none =>
    match runs.find? (·.holds c.toNat) with
    | some run => [Char.ofNat ((c.toNat : Int) + run.delta).toNat]
    | none => [c]

/-- The upper case of a character. -/
def charUpper (c : Char) : Text :=
  if c.toNat < 0x80 then [c.toUpper]
  else caseMapping CaseTable.upperSpecial CaseTable.upperRuns c

/-- The lower case of a character on its own. -/
def charLower (c : Char) : Text :=
  if c.toNat < 0x80 then [c.toLower]
  else caseMapping CaseTable.lowerSpecial CaseTable.lowerRuns c

/-- Whether the first character that case does not ignore has a case. -/
def meetsCased (t : Text) : Bool :=
  match t.dropWhile (ClassTable.holds ClassTable.caseIgnorable ·.toNat) with
  | [] => false
  | c :: _ => ClassTable.holds ClassTable.cased c.toNat

/-- The lower case of `t`, where `before` is what precedes it, last character first.  A capital
sigma is final when a cased character stands before it and none after it. -/
def lowerAfter (before : Text) : Text → Text
  | [] => []
  | c :: rest =>
    (if c = 'Σ' then (if meetsCased before && !meetsCased rest then ['ς'] else ['σ'])
      else charLower c) ++ lowerAfter (c :: before) rest

/-- The lower case of a text. -/
def lower (t : Text) : Text := lowerAfter [] t

/-- Whether two texts agree up to the case of the letters of ASCII. -/
def eqIgnoringAsciiCase (s t : Text) : Bool := s.map Char.toLower == t.map Char.toLower

/-- A letter or a number in the sense of Unicode. -/
def isAlphanumeric (c : Char) : Bool :=
  if c.toNat < 0x80 then c.isAlphanum else ClassTable.holds ClassTable.alphanumeric c.toNat

end GrammarBots.Text

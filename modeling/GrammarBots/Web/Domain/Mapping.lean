import GrammarBots.Text.Composition
import GrammarBots.Text.Shape
import GrammarBots.Web.Domain.MappingTable

/-!
# The plain form of domain names

Different spellings of a domain name lead to one host: letter case does not count, nor do variants
of a character that differ in their look alone.  `Domain.plain?` brings a name into the form in
which all characters stand for themselves.
-/

namespace GrammarBots.Domain

/-- The character that takes the place of one in the runs, if there is one. -/
def shifted? (n : Nat) : Option Char :=
  (MappingTable.shifts.find? fun s =>
    s.first ≤ n && n ≤ s.last && (n - s.first) % s.step == 0).map fun s =>
      Char.ofNat ((n : Int) + s.delta).toNat

/-- The characters that take the place of one in the lists, if there are any. -/
def replaced? (n : Nat) : Option Text := do
  let r ← MappingTable.replacements.find? fun r => r.first ≤ n && n ≤ r.last
  (Text.splitOn ' ' r.words.toList)[n - r.first]?

/-- What takes the place of a character; `none` if no name may have it. -/
def plainOf? (c : Char) : Option Text :=
  if c.toNat < 0x80 then some [c.toLower]
  else if Text.isIn MappingTable.refused c || Text.isUnassigned c then none
  else if Text.isIn MappingTable.ignored c then some []
  else some (((shifted? c.toNat).map ([·]) <|> replaced? c.toNat).getD [c])

/-- The plain form of a name, if all its characters may stand in one. -/
def plain? (name : Text) : Option Text :=
  (name.mapM plainOf?).map fun parts => Text.composed parts.flatten

/-- Whether all characters of a name stand for themselves. -/
def isPlain (name : Text) : Bool :=
  name.all (fun c => plainOf? c == some [c]) && Text.composed name == name

end GrammarBots.Domain

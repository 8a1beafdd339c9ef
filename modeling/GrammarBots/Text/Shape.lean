import GrammarBots.Text.Basic
import GrammarBots.Text.ClassTable
import GrammarBots.Text.ShapeTable

/-!
# Shapes of characters

Some characters are not seen, or only as a part of the character before them.  Characters of ASCII
are none of these, but for the controls.
-/

namespace GrammarBots.Text

/-- Whether a character stands in one of the ranges of a table. -/
def isIn (table : Array (Nat × Nat)) (c : Char) : Bool := ClassTable.holds table c.toNat

/-- Whether Unicode does not know the character. -/
def isUnassigned (c : Char) : Bool := isIn ShapeTable.unassigned c

/-- Whether the character is a mark that takes no room of its own. -/
def isNonspacing (c : Char) : Bool := 0x300 ≤ c.toNat && isIn ShapeTable.nonspacing c

/-- Whether the character is a mark on the one before it. -/
def isMark (c : Char) : Bool := isNonspacing c || (0x300 ≤ c.toNat && isIn ShapeTable.spacing c)

/-- Whether the character extends the one before it. -/
def isExtending (c : Char) : Bool := isNonspacing c || isIn ShapeTable.extending c

/-- Whether the character can be seen as one of its own. -/
def isVisible (c : Char) : Bool :=
  if c.toNat < 0x7F then 0x20 ≤ c.toNat
  else !(isIn ShapeTable.hidden c || isExtending c || isUnassigned c)

end GrammarBots.Text

import GrammarBots.Text.Shape
import GrammarBots.Web.Domain.DirectionTable

/-!
# Directions in domain names

Letters of some scripts are written from right to left.  A name that has one may be shown in an
order that misleads, unless each of its labels keeps to one direction: `Direction.keeps` is the rule
for a label.
-/

namespace GrammarBots.Domain

/-- How a character behaves in a line of text. -/
inductive Direction where
  /-- It is written from left to right. -/
  | leftToRight
  /-- It is written from right to left. -/
  | rightToLeft
  /-- A digit that is used with letters from right to left. -/
  | arabicNumber
  /-- A digit that is used with all letters. -/
  | europeanNumber
  /-- A mark, which goes with the character before it. -/
  | mark
  /-- It goes with its neighbours. -/
  | neutral
  deriving DecidableEq

namespace Direction

open DirectionTable

/-- The direction of a character. -/
def ofChar (c : Char) : Direction :=
  if c.isAlpha then .leftToRight
  else if Text.isIn DirectionTable.rightToLeft c then .rightToLeft
  else if Text.isIn arabicNumbers c then .arabicNumber
  else if Text.isIn europeanNumbers c then .europeanNumber
  else if Text.isIn DirectionTable.neutral c then .neutral
  else if Text.isNonspacing c && !Text.isIn unmarked c then .mark
  else .leftToRight

/-- Whether the direction calls for the rule. -/
def isFromRight (d : Direction) : Bool := d == .rightToLeft || d == .arabicNumber

/-- Whether a label ends with one of the given directions, marks aside. -/
def endsIn (allowed : List Direction) (label : List Direction) : Bool :=
  ((label.reverse.dropWhile (· == .mark)).head?).all allowed.contains

/-- Whether a label keeps to one direction, that of its first character.  Digits may end a label but
not begin it, and those of the two kinds do not mix. -/
def keeps (label : List Direction) : Bool :=
  match label.head? with
  | none => true
  | some .leftToRight =>
    label.all [.leftToRight, .europeanNumber, .mark, .neutral].contains &&
      endsIn [.leftToRight, .europeanNumber] label
  | some .rightToLeft =>
    label.all (· != .leftToRight) &&
      !(label.contains .arabicNumber && label.contains .europeanNumber) &&
      endsIn [.rightToLeft, .arabicNumber, .europeanNumber] label
  | some _ => false

end Direction

/-- Whether the labels of a name keep to their directions, if any character calls for it. -/
def keepsDirections (labels : List Text) : Bool :=
  let directions := labels.map (·.map Direction.ofChar)
  !directions.any (·.any Direction.isFromRight) || directions.all Direction.keeps

end GrammarBots.Domain

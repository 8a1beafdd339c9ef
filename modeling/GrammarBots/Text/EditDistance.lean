import GrammarBots.Text.Basic

/-!
# Edit distance

The Levenshtein distance of two texts counts the fewest insertions, deletions and substitutions of
one character that turn the first into the second.  It is computed row by row: the row of a prefix
of the first text holds its distances to every prefix of the second.
-/

namespace GrammarBots.Text

/-- The rest of a row.  `left` is the entry just written and `diagonal` the one above it. -/
def distanceRowFrom (c : Char) (left diagonal : Nat) : List Nat → Text → List Nat
  | up :: above, d :: target =>
    let here := min (min (left + 1) (up + 1)) (diagonal + if c = d then 0 else 1)
    here :: distanceRowFrom c here up above target
  | _, _ => []

/-- The row of a prefix that is longer by the character `c`. -/
def distanceRow (target : Text) (row : List Nat) (c : Char) : List Nat :=
  match row with
  | [] => []
  | corner :: above => (corner + 1) :: distanceRowFrom c (corner + 1) corner above target

/-- The fewest single-character edits that turn `source` into `target`. -/
def editDistance (source target : Text) : Nat :=
  ((source.foldl (distanceRow target) (List.range (target.length + 1))).getLast?).getD 0

end GrammarBots.Text

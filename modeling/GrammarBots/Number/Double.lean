import GrammarBots.Text.Basic

/-!
# The range of doubles

A double has 53 significant bits and an exponent of eleven.  Numbers from `limit` on round to no
double at all; `nearest` gives the double that a natural number below the limit rounds to.
-/

namespace GrammarBots.Double

/-- The least number that rounds to no double: halfway past the largest one. -/
def limit : Nat := Nat.pow 2 1024 - Nat.pow 2 970

/-- The double next to a natural number; between two, the one with the even significand. -/
def nearest (n : Nat) : Nat :=
  let unit := Nat.pow 2 (n.log2 + 1 - 53)
  let significand := n / unit
  let rest := n % unit
  unit *
    if 2 * rest < unit then significand
    else if unit < 2 * rest then significand + 1
    else significand + significand % 2

/-- The number that decimal digits write. -/
def digitsValue (digits : Text) : Nat :=
  digits.foldl (fun n c => n * 10 + (c.toNat - '0'.toNat)) 0

/-- Whether the number that decimal digits and a power of ten write rounds to a double. -/
def holds (digits : Text) (power : Int) : Bool :=
  let digits := digits.dropWhile (· == '0')
  -- Far from the limit, which has 309 digits, the number of digits decides.
  if digits.isEmpty || power + digits.length < 300 then true
  else if power + digits.length > 400 then false
  else digitsValue digits * Nat.pow 10 power.toNat < limit * Nat.pow 10 (-power).toNat

end GrammarBots.Double

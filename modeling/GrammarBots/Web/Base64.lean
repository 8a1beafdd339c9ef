import GrammarBots.Text.Utf8

/-!
# Base 64

Octets in letters, digits and two signs: three octets are four of them, and a group that is not full
is filled up with equals signs.
-/

namespace GrammarBots.Base64

/-- The sign for a number below 64. -/
def sign (n : Nat) : Char :=
  if n < 26 then Char.ofNat ('A'.toNat + n)
  else if n < 52 then Char.ofNat ('a'.toNat + (n - 26))
  else if n < 62 then Char.ofNat ('0'.toNat + (n - 52))
  else if n = 62 then '+' else '/'

/-- The octets in base 64. -/
def encode : Bytes → Text
  | [] => []
  | [a] => [sign (a.toNat / 4), sign (a.toNat % 4 * 16), '=', '=']
  | [a, b] =>
    [sign (a.toNat / 4), sign (a.toNat % 4 * 16 + b.toNat / 16), sign (b.toNat % 16 * 4), '=']
  | a :: b :: c :: rest =>
    [sign (a.toNat / 4), sign (a.toNat % 4 * 16 + b.toNat / 16),
      sign (b.toNat % 16 * 4 + c.toNat / 64), sign (c.toNat % 64)] ++ encode rest

end GrammarBots.Base64

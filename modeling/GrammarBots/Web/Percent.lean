import GrammarBots.Text.Utf8

/-!
# Percent encoding

In a URL, an octet that may not stand for itself is written as a percent sign and two hexadecimal
digits.  Which characters may stand for themselves depends on the part of the URL; characters
outside of ASCII never do.
-/

namespace GrammarBots.Percent

/-- The value of a hexadecimal digit. -/
def digitValue? (c : Char) : Option Nat :=
  if c.isDigit then some (c.toNat - '0'.toNat)
  else if 'a' ≤ c ∧ c ≤ 'f' then some (c.toNat - 'a'.toNat + 10)
  else if 'A' ≤ c ∧ c ≤ 'F' then some (c.toNat - 'A'.toNat + 10)
  else none

/-- An octet as a percent sign and two digits. -/
def encodeOctet (b : UInt8) : Text :=
  let digit (n : Nat) : Char := (Nat.digitChar n).toUpper
  ['%', digit (b.toNat / 16), digit (b.toNat % 16)]

/-- A text in which the characters of a class, the control characters and the characters outside of
ASCII are encoded. -/
def encode (escaped : Char → Bool) (t : Text) : Text :=
  t.flatMap fun c =>
    if c.toNat < 0x20 || 0x7F ≤ c.toNat || escaped c then
      (Utf8.encode (String.singleton c)).flatMap encodeOctet
    else [c]

/-- The octets of a text, with those that are encoded decoded. -/
def decode : Text → Bytes
  | '%' :: a :: b :: rest =>
    match digitValue? a, digitValue? b with
    | some high, some low => UInt8.ofNat (high * 16 + low) :: decode rest
    | _, _ => '%'.toNat.toUInt8 :: decode (a :: b :: rest)
  | c :: rest => Utf8.encode (String.singleton c) ++ decode rest
  | [] => []

end GrammarBots.Percent

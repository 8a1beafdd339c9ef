import GrammarBots.Text.Basic

/-!
# UTF-8

Octets to characters and back.  Decoding takes one character at a time (`decodeOne`); an octet
sequence that starts no character is measured by its longest beginning that some character could
have, which is what a lenient reader replaces by one U+FFFD.
-/

namespace GrammarBots

/-- A sequence of octets. -/
abbrev Bytes := List UInt8

namespace Utf8

/-- Whether an octet continues a character. -/
def isTail (b : UInt8) : Bool := 0x80 ≤ b && b ≤ 0xBF

/-- The character of the code point made of the payload bits, most significant first. -/
def charOf (lead : Nat) (tails : List UInt8) : Char :=
  Char.ofNat (tails.foldl (fun n b => n * 64 + b.toNat % 64) lead)

/-- The octets that a character may have after its first one: the range of the second octet and how
many more follow it.  `none` for an octet that starts no character of several octets. -/
def leadShape? (b : UInt8) : Option ((UInt8 × UInt8) × Nat) :=
  if 0xC2 ≤ b && b ≤ 0xDF then some ((0x80, 0xBF), 0)
  else if b == 0xE0 then some ((0xA0, 0xBF), 1)
  else if b == 0xED then some ((0x80, 0x9F), 1)
  else if 0xE1 ≤ b && b ≤ 0xEF then some ((0x80, 0xBF), 1)
  else if b == 0xF0 then some ((0x90, 0xBF), 2)
  else if 0xF1 ≤ b && b ≤ 0xF3 then some ((0x80, 0xBF), 2)
  else if b == 0xF4 then some ((0x80, 0x8F), 2)
  else none

/-- The payload bits of a first octet that `more` octets follow. -/
def leadBits (b : UInt8) (more : Nat) : Nat :=
  b.toNat % (if more = 1 then 32 else if more = 2 then 16 else 8)

/-- The first character of `b :: rest` and how many octets of `rest` belong to it.  Without a
character, the octets of `rest` that belong to the broken beginning of one. -/
def decodeOne (b : UInt8) (rest : Bytes) : Option Char × Nat :=
  if b < 0x80 then (some (Char.ofNat b.toNat), 0)
  else match leadShape? b, rest with
    | some ((low, high), more), second :: others =>
      if low ≤ second && second ≤ high then
        let tails := (others.take more).takeWhile isTail
        if tails.length = more then
          (some (charOf (leadBits b (more + 1)) (second :: tails)), more + 1)
        else (none, tails.length + 1)
      else (none, 0)
    | _, _ => (none, 0)

/-- The text that the octets encode, if they are well-formed. -/
def decode? : Bytes → Option Text
  | [] => some []
  | b :: rest =>
    match decodeOne b rest with
    | (some c, taken) => (decode? (rest.drop taken)).map (c :: ·)
    | (none, _) => none
  termination_by bytes => bytes.length
  decreasing_by simp only [List.length_drop, List.length_cons]; omega

/-- The text that the octets encode, with U+FFFD for every broken piece. -/
def decodeLenient : Bytes → Text
  | [] => []
  | b :: rest =>
    let (c?, taken) := decodeOne b rest
    c?.getD '\uFFFD' :: decodeLenient (rest.drop taken)
  termination_by bytes => bytes.length
  decreasing_by simp only [List.length_drop, List.length_cons]; omega

/-- The octets of a string. -/
def encode (s : String) : Bytes := s.toUTF8.toList

end Utf8

end GrammarBots

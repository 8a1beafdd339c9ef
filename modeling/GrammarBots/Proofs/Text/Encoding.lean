import GrammarBots.Text.Utf8
import Mathlib.Data.List.TakeWhile
import Mathlib.Tactic.SplitIfs

/-!
# Decoding what was encoded

Decoding inverts encoding (`Utf8.decode?_encode`): the octets of a character are taken back as one
character, whatever follows them (`Utf8.decodeOne_encodeChar`).  There is one case for each number
of octets; the ranges that the second octet may have exclude the shorter forms and the surrogates,
neither of which the encoding has.
-/

namespace GrammarBots.Utf8

/-! ### Octets -/

/-- The octet that holds the given bits in the tail of a character. -/
def tailOctet (bits : Nat) : UInt8 := UInt8.ofNat (bits + 128)

theorem isTail_tailOctet : ∀ bits < 64, isTail (tailOctet bits) = true ∧
    (tailOctet bits).toNat % 64 = bits := by decide

/-- What the range of a second octet says of its bits. -/
theorem tailOctet_range : ∀ bits < 64, 0x80 ≤ tailOctet bits ∧ tailOctet bits ≤ 0xBF ∧
    (32 ≤ bits → 0xA0 ≤ tailOctet bits) ∧ (bits < 32 → tailOctet bits ≤ 0x9F) ∧
    (16 ≤ bits → 0x90 ≤ tailOctet bits) ∧ (bits < 16 → tailOctet bits ≤ 0x8F) := by decide

theorem leadShape?_two : ∀ bits < 32, 2 ≤ bits →
    leadShape? (UInt8.ofNat (bits + 192)) = some ((0x80, 0xBF), 0) ∧
      ¬ UInt8.ofNat (bits + 192) < 0x80 ∧ leadBits (UInt8.ofNat (bits + 192)) 1 = bits := by decide

theorem leadShape?_three : ∀ bits < 16, leadShape? (UInt8.ofNat (bits + 224))
      = some ((if bits = 0 then 0xA0 else 0x80, if bits = 13 then 0x9F else 0xBF), 1) ∧
    ¬ UInt8.ofNat (bits + 224) < 0x80 ∧ leadBits (UInt8.ofNat (bits + 224)) 2 = bits := by decide

theorem leadShape?_four : ∀ bits < 5, leadShape? (UInt8.ofNat (bits + 240))
      = some ((if bits = 0 then 0x90 else 0x80, if bits = 4 then 0x8F else 0xBF), 2) ∧
    ¬ UInt8.ofNat (bits + 240) < 0x80 ∧ leadBits (UInt8.ofNat (bits + 240)) 3 = bits := by decide

theorem ofNat_one : ∀ bits < 128, UInt8.ofNat bits < 0x80 ∧ (UInt8.ofNat bits).toNat = bits := by
  decide

/-! ### Characters -/

/-- A character of several octets, each of them in its range. -/
theorem decodeOne_of_shape {b second low high : UInt8} {tails rest : Bytes} {more : Nat}
    (hb : ¬ b < 0x80) (hshape : leadShape? b = some ((low, high), more))
    (hrange : low ≤ second ∧ second ≤ high) (hlength : tails.length = more)
    (htails : ∀ octet ∈ tails, isTail octet = true) :
    decodeOne b (second :: tails ++ rest)
      = (some (charOf (leadBits b (more + 1)) (second :: tails)), more + 1) := by
  have htaken : ((tails ++ rest).take more).takeWhile isTail = tails := by
    rw [List.take_left' hlength, List.takeWhile_eq_self_iff.mpr htails]
  unfold decodeOne
  rw [if_neg hb, hshape, List.cons_append]
  dsimp only
  rw [htaken, if_pos hlength, if_pos (by simpa using hrange)]

theorem decodeOne_one {v : Nat} (h : v ≤ 0x7F) (rest : Bytes) :
    decodeOne (UInt8.ofNat v) rest = (some (Char.ofNat v), 0) := by
  obtain ⟨hb, hnat⟩ := ofNat_one v (by omega)
  unfold decodeOne
  rw [if_pos hb, hnat]

theorem decodeOne_two {v : Nat} (h : ¬ v ≤ 0x7F) (h' : v ≤ 0x7FF) (rest : Bytes) :
    decodeOne (UInt8.ofNat (v / 64 % 32 + 192)) ([tailOctet (v % 64)] ++ rest)
      = (some (Char.ofNat v), 1) := by
  have hlead : v / 64 % 32 = v / 64 := by omega
  obtain ⟨hshape, hb, hbits⟩ := leadShape?_two (v / 64) (by omega) (by omega)
  obtain ⟨hlow, hhigh, -⟩ := tailOctet_range (v % 64) (by omega)
  have hv : v / 64 * 64 + v % 64 = v := by omega
  rw [hlead]
  refine (decodeOne_of_shape hb hshape ⟨hlow, hhigh⟩ List.length_nil nofun).trans ?_
  rw [hbits, charOf, List.foldl_cons, List.foldl_nil, (isTail_tailOctet _ (by omega)).2, hv]

theorem decodeOne_three {v : Nat} (h : ¬ v ≤ 0x7FF) (h' : v ≤ 0xFFFF)
    (hvalid : v < 0xD800 ∨ 0xDFFF < v) (rest : Bytes) :
    decodeOne (UInt8.ofNat (v / 4096 % 16 + 224))
        ([tailOctet (v / 64 % 64), tailOctet (v % 64)] ++ rest)
      = (some (Char.ofNat v), 2) := by
  have hlead : v / 4096 % 16 = v / 4096 := by omega
  obtain ⟨hshape, hb, hbits⟩ := leadShape?_three (v / 4096) (by omega)
  obtain ⟨hlow, hhigh, hlow', hhigh', -⟩ := tailOctet_range (v / 64 % 64) (by omega)
  obtain ⟨htail, hlast⟩ := isTail_tailOctet (v % 64) (by omega)
  have hv : (v / 4096 * 64 + v / 64 % 64) * 64 + v % 64 = v := by omega
  rw [hlead]
  refine (decodeOne_of_shape hb hshape ⟨?_, ?_⟩ List.length_singleton
    (List.forall_mem_singleton.mpr htail)).trans ?_
  · split_ifs
    · exact hlow' (by omega)
    · exact hlow
  · split_ifs
    · exact hhigh' (by omega)
    · exact hhigh
  rw [hbits, charOf, List.foldl_cons, List.foldl_cons, List.foldl_nil,
    (isTail_tailOctet _ (by omega)).2, hlast, hv]

theorem decodeOne_four {v : Nat} (h : ¬ v ≤ 0xFFFF) (h' : v < 0x110000) (rest : Bytes) :
    decodeOne (UInt8.ofNat (v / 262144 % 8 + 240))
        ([tailOctet (v / 4096 % 64), tailOctet (v / 64 % 64), tailOctet (v % 64)] ++ rest)
      = (some (Char.ofNat v), 3) := by
  have hlead : v / 262144 % 8 = v / 262144 := by omega
  obtain ⟨hshape, hb, hbits⟩ := leadShape?_four (v / 262144) (by omega)
  obtain ⟨hlow, hhigh, -, -, hlow', hhigh'⟩ := tailOctet_range (v / 4096 % 64) (by omega)
  obtain ⟨htail, hthird⟩ := isTail_tailOctet (v / 64 % 64) (by omega)
  obtain ⟨htail', hlast⟩ := isTail_tailOctet (v % 64) (by omega)
  have hv : ((v / 262144 * 64 + v / 4096 % 64) * 64 + v / 64 % 64) * 64 + v % 64 = v := by omega
  rw [hlead]
  refine (decodeOne_of_shape hb hshape ⟨?_, ?_⟩ rfl
    (List.forall_mem_cons.mpr ⟨htail, List.forall_mem_singleton.mpr htail'⟩)).trans ?_
  · split_ifs
    · exact hlow' (by omega)
    · exact hlow
  · split_ifs
    · exact hhigh' (by omega)
    · exact hhigh
  rw [hbits, charOf, List.foldl_cons, List.foldl_cons, List.foldl_cons, List.foldl_nil,
    (isTail_tailOctet _ (by omega)).2, hthird, hlast, hv]

/-- The octets of a character are decoded to the character. -/
theorem decodeOne_encodeChar (c : Char) (rest : Bytes) :
    ∃ b tail, String.utf8EncodeChar c = b :: tail ∧
      decodeOne b (tail ++ rest) = (some c, tail.length) := by
  have hvalid : c.val.toNat < 0xD800 ∨ 0xDFFF < c.val.toNat ∧ c.val.toNat < 0x110000 := c.valid
  have hchar : Char.ofNat c.val.toNat = c := Char.ofNat_toNat c
  unfold String.utf8EncodeChar
  generalize c.val.toNat = v at hvalid hchar
  dsimp only
  subst hchar
  split_ifs with h1 h2 h3
  · exact ⟨_, [], rfl, decodeOne_one h1 rest⟩
  · exact ⟨_, [_], rfl, decodeOne_two h1 h2 rest⟩
  · exact ⟨_, [_, _], rfl, decodeOne_three h2 h3 (hvalid.imp_right And.left) rest⟩
  · exact ⟨_, [_, _, _], rfl, decodeOne_four h3 (by omega) rest⟩

/-! ### Texts -/

theorem toList_loop (octets : ByteArray) (i : Nat) (read : List UInt8) :
    ByteArray.toList.loop octets i read = read.reverse ++ octets.data.toList.drop i := by
  fun_induction ByteArray.toList.loop octets i read
  case case1 i read hi ih =>
    have hget : octets.get! i = octets.data.toList[i] := by
      rw [Array.getElem_toList]
      exact getElem!_pos octets.data i hi
    rw [ih, List.reverse_cons, List.append_assoc, List.drop_eq_getElem_cons hi, hget]
    rfl
  case case2 i read hi =>
    have hdrop : octets.data.toList.drop i = [] := List.drop_eq_nil_of_le (Nat.not_lt.mp hi)
    rw [hdrop, List.append_nil]

theorem encode_eq (s : String) : encode s = s.toList.flatMap String.utf8EncodeChar := by
  have hoctets : s.toUTF8 = (s.toList.flatMap String.utf8EncodeChar).toByteArray :=
    String.utf8Encode_toList.symm
  rw [encode, hoctets, ByteArray.toList, toList_loop, List.toList_data_toByteArray]
  rfl

/-- **Decoding inverts encoding.** -/
theorem decode?_encode (s : String) : decode? (encode s) = some s.toList := by
  rw [encode_eq]
  induction s.toList with
  | nil => rw [List.flatMap_nil, decode?]
  | cons c t ih =>
    obtain ⟨b, tail, hoctets, hone⟩ := decodeOne_encodeChar c (t.flatMap String.utf8EncodeChar)
    rw [List.flatMap_cons, hoctets, List.cons_append, decode?, hone]
    dsimp only
    rw [List.drop_left, ih]
    rfl

end GrammarBots.Utf8

import GrammarBots.Toml.Scalar
import GrammarBots.Toml.Writer
import Mathlib.Data.List.Basic

/-!
# Numbers and booleans are read back as they were written

A bare word ends at the line break behind it (`frontWord_append`).  A natural number is written in
its decimal digits, without a zero in front (`head?_toDigits_ne`), so that the reader takes it for
an integer and finds its value (`Toml.scalar?_natural`).
-/

namespace GrammarBots.Toml

/-! ### Words -/

theorem scalar?_word {c : Char} (h : c ≠ '"' ∧ c ≠ '\x27') (t : Text) :
    scalar? (c :: t) = (word? (frontWord (c :: t))).map fun v =>
      (v, (c :: t).drop (frontWord (c :: t)).length) := by
  unfold scalar?
  split <;> simp_all

/-- A word ends at a line break. -/
theorem frontWord_append {word : Text} (h : ∀ c ∈ word, isWordChar c = true) (rest : Text) :
    frontWord (word ++ '\n' :: rest) = word := by
  have htake : (word ++ '\n' :: rest).takeWhile isWordChar = word := by
    rw [List.takeWhile_append_of_pos h, List.takeWhile_cons_of_neg (by decide), List.append_nil]
  rw [frontWord, htake, List.drop_left]
  rfl

/-- A word that has a value is read up to the line break behind it. -/
theorem scalar?_append {word : Text} {v : Value} (hword : ∀ c ∈ word, isWordChar c = true)
    (hv : word? word = some v) (rest : Text) :
    scalar? (word ++ '\n' :: rest) = some (v, '\n' :: rest) := by
  cases word with
  | nil => cases hv
  | cons c word =>
    have hc : c ≠ '"' ∧ c ≠ '\x27' := by
      constructor <;> rintro rfl <;> exact absurd (hword _ List.mem_cons_self) (by decide)
    rw [List.cons_append, scalar?_word hc, ← List.cons_append, frontWord_append hword, hv,
      List.drop_left, Option.map_some]

/-- **A boolean** is read back as it was written. -/
theorem scalar?_boolean (b : Bool) (rest : Text) :
    scalar? (boolean b ++ '\n' :: rest) = some (.boolean b, '\n' :: rest) := by
  have hword : (boolean b).all isWordChar = true := by
    revert b
    decide
  have hvalue : word? (boolean b) = some (.boolean b) := by
    cases b <;> rfl
  exact scalar?_append (List.all_eq_true.mp hword) hvalue rest

/-! ### Digits -/

/-- The value of decimal digits. -/
theorem valueIn_ten {digits : Text} (h : ∀ c ∈ digits, c.isDigit = true) :
    valueIn 10 digits = Nat.ofDigitChars 10 digits 0 := by
  have hdigit {c : Char} (hc : c.isDigit = true) :
      (Json.hexDigit? c).getD 0 = c.toNat - '0'.toNat := by
    obtain ⟨hlow, hhigh⟩ : c.val ≥ 48 ∧ c.val ≤ 57 := by simpa [Char.isDigit] using hc
    have hrange : '0' ≤ c ∧ c ≤ '9' := ⟨hlow, hhigh⟩
    rw [Json.hexDigit?, if_pos hrange, Option.getD_some]
  have hfold (n : Nat) : digits.foldl (fun n c => n * 10 + (Json.hexDigit? c).getD 0) n
      = Nat.ofDigitChars 10 digits n := by
    induction digits generalizing n with
    | nil => rfl
    | cons c digits ih =>
      rw [List.foldl_cons, Nat.ofDigitChars_cons, hdigit (h c List.mem_cons_self), Nat.mul_comm]
      exact ih (fun d hd => h d (List.mem_cons_of_mem c hd)) _
  exact hfold 0

/-- Only the number zero begins with the digit zero. -/
theorem head?_toDigits_ne {n : Nat} (h : 10 ≤ n) : (Nat.toDigits 10 n).head? ≠ some '0' := by
  induction n using Nat.strongRecOn with
  | ind n ih =>
    rw [Nat.toDigits_of_base_le (by decide) h, List.head?_append_of_ne_nil _ Nat.toDigits_ne_nil]
    by_cases hsmall : n / 10 < 10
    · rw [Nat.toDigits_of_lt_base hsmall, List.head?_cons, ne_eq, Option.some.injEq,
        Nat.digitChar_eq_zero]
      omega
    · exact ih (n / 10) (by omega) (by omega)

theorem isDigit_of_mem_toDigits {n : Nat} {c : Char} (h : c ∈ Nat.toDigits 10 n) :
    c.isDigit = true :=
  Nat.isDigit_of_mem_toDigits (by decide) (by decide) h

/-- The digits of a number are a run of digits. -/
theorem decimalRun?_toDigits (n : Nat) :
    decimalRun? (Nat.toDigits 10 n) = some (Nat.toDigits 10 n) := by
  have hrun : digitRun? Char.isDigit (Nat.toDigits 10 n) = some (Nat.toDigits 10 n) := by
    have hsplit : Text.splitOn '_' (Nat.toDigits 10 n) = [Nat.toDigits 10 n] :=
      Text.splitOn_of_notMem fun h => absurd (isDigit_of_mem_toDigits h) (by decide)
    have hall : (Nat.toDigits 10 n).all Char.isDigit = true :=
      List.all_eq_true.mpr fun c => isDigit_of_mem_toDigits
    rw [digitRun?, hsplit]
    simp [hall, Nat.toDigits_ne_nil]
  have hhead : ¬ ((Nat.toDigits 10 n).length > 1 ∧ (Nat.toDigits 10 n).head? = some '0') := by
    rintro ⟨hlength, hzero⟩
    by_cases hsmall : n < 10
    · rw [Nat.toDigits_of_lt_base hsmall] at hlength
      exact absurd hlength (Nat.lt_irrefl 1)
    · exact head?_toDigits_ne (by omega) hzero
  rw [decimalRun?, hrun]
  exact if_neg hhead

/-- Digits alone are an integer without a sign and in base ten. -/
theorem integer?_of_isDigit {t : Text} (h : ∀ c ∈ t, c.isDigit = true) :
    integer? t = ((decimalRun? t).map fun d => (valueIn 10 d : Int)).bind fun n =>
      if fits128 n then some n else none := by
  have hnot {c : Char} {P : Prop} (hmem : c ∈ t) (hc : c.isDigit = false) : P :=
    absurd (h c hmem) (by rw [hc]; decide)
  unfold integer?
  split
  · exact hnot (c := 'x') (by simp) (by decide)
  · exact hnot (c := 'o') (by simp) (by decide)
  · exact hnot (c := 'b') (by simp) (by decide)
  · exact hnot (c := '+') (by simp) (by decide)
  · exact hnot (c := '-') (by simp) (by decide)
  · rfl

/-- **A natural number** of at most 64 bits is read back as it was written. -/
theorem scalar?_natural {n : Nat} (h : n < UInt64.size) (rest : Text) :
    scalar? (natural n ++ '\n' :: rest) = some (.integer n, '\n' :: rest) := by
  have hword : natural n = Nat.toDigits 10 n := Nat.toList_repr
  have hdigits : ∀ c ∈ Nat.toDigits 10 n, c.isDigit = true := fun c => isDigit_of_mem_toDigits
  have hvalue : valueIn 10 (Nat.toDigits 10 n) = n := by
    rw [valueIn_ten hdigits, Nat.ofDigitChars_ten_toDigits]
  have hfits : fits128 n = true := by
    have hsize : UInt64.size < Nat.pow 2 128 := by decide
    simp only [fits128, Bool.and_eq_true, decide_eq_true_eq]
    omega
  have hinteger : integer? (Nat.toDigits 10 n) = some (n : Int) := by
    rw [integer?_of_isDigit hdigits, decimalRun?_toDigits, Option.map_some, hvalue,
      Option.bind_some, if_pos hfits]
  have hnot {c : Char} {t : Text} (hmem : c ∈ t) (hc : c.isDigit = false) :
      Nat.toDigits 10 n ≠ t := by
    rintro rfl
    exact absurd (hdigits c hmem) (by rw [hc]; decide)
  rw [hword]
  refine scalar?_append (fun c hc => ?_) ?_ rest
  · simp [isWordChar, Char.isAlphanum, hdigits c hc]
  · rw [word?, if_neg (hnot (c := 't') (by decide) (by decide)),
      if_neg (hnot (c := 'f') (by decide) (by decide)), hinteger]

/-- A written number begins with a digit. -/
theorem natural_eq_cons (n : Nat) : ∃ c t, natural n = c :: t ∧ c.isDigit = true := by
  have hword : natural n = Nat.toDigits 10 n := Nat.toList_repr
  obtain ⟨c, t, hcons⟩ := List.exists_cons_of_ne_nil (Nat.toDigits_ne_nil (n := n) (b := 10))
  exact ⟨c, t, hword.trans hcons, isDigit_of_mem_toDigits (hcons ▸ List.mem_cons_self)⟩

end GrammarBots.Toml

import GrammarBots.Proofs.Time.Calendar
import GrammarBots.Time.Rfc3339
import Mathlib.Tactic.SplitIfs

/-!
# Instants are read back from their text

`Instant.read?_text` says what reading the text of an instant gives, and `read?_text_eq_some_iff`
when that is the instant: always, unless it is within a leap second that does not end a minute.  The
text shows a leap second as one second more, and only the sixty-first second of a minute is read as
a leap second.

The parts of the text are numbers with zeros in front (`padded`), each read up to the mark behind
it; the date is put together by `Calendar.daysOf_dateOf`.
-/

namespace GrammarBots.Instant

/-! ### Numbers with zeros in front -/

variable {width n : Nat}

theorem padded_eq (width n : Nat) : padded width n
    = List.replicate (width - (Nat.toDigits 10 n).length) '0' ++ Nat.toDigits 10 n := by
  have hdigits : (toString n).toList = Nat.toDigits 10 n := Nat.toList_repr
  rw [padded, hdigits]

theorem isDigit_of_mem_padded {c : Char} (h : c ∈ padded width n) : c.isDigit = true := by
  rw [padded_eq, List.mem_append, List.mem_replicate] at h
  rcases h with ⟨-, rfl⟩ | h
  · decide
  · exact Nat.isDigit_of_mem_toDigits (by decide) (by decide) h

theorem padded_ne_nil (width n : Nat) : padded width n ≠ [] := by
  rw [padded_eq]
  exact List.append_ne_nil_of_right_ne_nil _ Nat.toDigits_ne_nil

/-- The zeros fill up the width. -/
theorem length_padded (hwidth : 0 < width) (h : n < 10 ^ width) :
    (padded width n).length = width := by
  have hle := (Nat.length_toDigits_le_iff (by decide) hwidth).mpr h
  rw [padded_eq, List.length_append, List.length_replicate, Nat.sub_add_cancel hle]

/-- The zeros do not count. -/
theorem numberOf_padded (width n : Nat) : numberOf (padded width n) = n := by
  have hnumber (digits : Text) : numberOf digits = Nat.ofDigitChars 10 digits 0 := by
    rw [numberOf, Nat.ofDigitChars_eq_foldl]
    simp only [Nat.mul_comm]
  rw [hnumber, padded_eq, Nat.ofDigitChars_append, Nat.ofDigitChars_replicate_zero, Nat.mul_zero,
    Nat.ofDigitChars_ten_toDigits]

/-- A number is read up to the first character that is no digit, or up to its width. -/
theorem readDigits?_append {digits rest : Text} (hdigits : ∀ c ∈ digits, c.isDigit = true)
    (hne : digits ≠ []) (hwidth : digits.length ≤ width)
    (hrest : digits.length = width ∨ ∃ c r, rest = c :: r ∧ c.isDigit = false) :
    readDigits? width (digits ++ rest) = some (numberOf digits, rest) := by
  have hstop : (rest.take (width - digits.length)).takeWhile Char.isDigit = [] := by
    rcases hrest with hlength | ⟨c, r, rfl, hc⟩
    · rw [hlength, Nat.sub_self, List.take_zero, List.takeWhile_nil]
    · cases width - digits.length with
      | zero => rfl
      | succ k => rw [List.take_succ_cons, List.takeWhile_cons_of_neg (by rw [hc]; decide)]
  have htake : ((digits ++ rest).take width).takeWhile Char.isDigit = digits := by
    rw [List.take_append, List.take_of_length_le hwidth, List.takeWhile_append_of_pos hdigits,
      hstop, List.append_nil]
  unfold readDigits?
  rw [htake]
  split
  · exact absurd rfl hne
  · rw [List.drop_left]

theorem readDigits?_padded (hwidth : 0 < width) (h : n < 10 ^ width) (rest : Text) :
    readDigits? width (padded width n ++ rest) = some (n, rest) := by
  have hlength := length_padded hwidth h
  rw [readDigits?_append (fun c => isDigit_of_mem_padded) (padded_ne_nil width n)
    (Nat.le_of_eq hlength) (Or.inl hlength), numberOf_padded]

/-! ### Fields -/

theorem isBlank_of_isDigit {c : Char} (h : c.isDigit = true) : Text.isBlank c = false := by
  have hrange : 48 ≤ c.toNat ∧ c.toNat ≤ 57 := by
    simpa [Char.isDigit, UInt32.le_iff_toNat_le] using h
  simp [Text.isBlank]
  omega

/-- No blank is skipped before a number. -/
theorem skipBlank_padded (width n : Nat) (rest : Text) :
    skipBlank (padded width n ++ rest) = padded width n ++ rest := by
  obtain ⟨c, digits, hcons⟩ := List.exists_cons_of_ne_nil (padded_ne_nil width n)
  have hc : c.isDigit = true := isDigit_of_mem_padded (hcons ▸ List.mem_cons_self)
  rw [hcons, List.cons_append, skipBlank,
    List.dropWhile_cons_of_neg (by rw [isBlank_of_isDigit hc]; decide)]

theorem readField?_padded {low high : Nat} (hlow : low ≤ n) (hhigh : n ≤ high) (h : n < 100)
    (rest : Text) : readField? low high (padded 2 n ++ rest) = some (n, rest) := by
  rw [readField?, skipBlank_padded, readDigits?_padded (by decide) h]
  exact if_pos ⟨hlow, hhigh⟩

theorem readMark?_cons {mark : Char} (h : Text.isBlank mark = false) (rest : Text) :
    readMark? mark (mark :: rest) = some rest := by
  rw [readMark?, skipBlank, List.dropWhile_cons_of_neg (by rw [h]; decide)]
  exact if_pos rfl

theorem readYear?_minus (t : Text) :
    readYear? ('-' :: t) = (readDigits? t.length t).map fun (n, r) => (-(n : Int), r) := by
  rw [readYear?, skipBlank, List.dropWhile_cons_of_neg (by decide)]
  rfl

theorem readYear?_plus (t : Text) :
    readYear? ('+' :: t) = (readDigits? t.length t).map fun (n, r) => ((n : Int), r) := by
  rw [readYear?, skipBlank, List.dropWhile_cons_of_neg (by decide)]
  rfl

/-- The year of a date, up to the mark behind it. -/
theorem readYear?_yearText (year : Int) (rest : Text) :
    readYear? (yearText year ++ '-' :: rest) = some (year, '-' :: rest) := by
  have hsigned : readDigits? (padded 4 year.natAbs ++ '-' :: rest).length
      (padded 4 year.natAbs ++ '-' :: rest) = some (year.natAbs, '-' :: rest) := by
    rw [readDigits?_append (fun c => isDigit_of_mem_padded) (padded_ne_nil 4 _)
      (by rw [List.length_append]; exact Nat.le_add_right _ _) (Or.inr ⟨'-', rest, rfl, by decide⟩),
      numberOf_padded]
  rw [yearText]
  split_ifs with hplain hnegative
  · -- four digits, and no sign
    have hsign {c : Char} {t : Text} (hc : c.isDigit = false) :
        padded 4 year.toNat ++ '-' :: rest ≠ c :: t := by
      obtain ⟨d, digits, hcons⟩ := List.exists_cons_of_ne_nil (padded_ne_nil 4 year.toNat)
      rw [hcons]
      rintro heq
      have hd : d.isDigit = true := isDigit_of_mem_padded (hcons ▸ List.mem_cons_self)
      rw [(List.cons.inj heq).1, hc] at hd
      cases hd
    unfold readYear?
    rw [skipBlank_padded]
    split
    · next heq => exact absurd heq (hsign (by decide))
    · next heq => exact absurd heq (hsign (by decide))
    · rw [readDigits?_padded (by decide) (by omega), Option.map_some]
      exact congrArg (fun y => some (y, '-' :: rest)) (Int.toNat_of_nonneg hplain.1)
  · have hyear : -(year.natAbs : Int) = year := by omega
    rw [List.cons_append, readYear?_minus, hsigned, Option.map_some]
    exact congrArg (fun y => some (y, '-' :: rest)) hyear
  · have hyear : (year.natAbs : Int) = year := by omega
    rw [List.cons_append, readYear?_plus, hsigned, Option.map_some]
    exact congrArg (fun y => some (y, '-' :: rest)) hyear

/-- Decimals with zeros in front are read to the ninth. -/
theorem readFraction?_padded (hwidth : 0 < width) (hnine : width ≤ 9) (h : n < 10 ^ width) :
    readFraction? ('.' :: padded width n ++ ['Z']) = some (n * 10 ^ (9 - width), ['Z']) := by
  have hlength := length_padded hwidth h
  have htake : (padded width n ++ ['Z']).takeWhile Char.isDigit = padded width n := by
    rw [List.takeWhile_append_of_pos fun c => isDigit_of_mem_padded]
    exact List.append_nil _
  have hdrop : (padded width n ++ ['Z']).dropWhile Char.isDigit = ['Z'] := by
    rw [List.dropWhile_append_of_pos fun c => isDigit_of_mem_padded]
    rfl
  rw [List.cons_append, readFraction?, htake]
  split
  · next hnil => exact absurd hnil (padded_ne_nil width n)
  · rw [List.take_of_length_le (hlength.trans_le hnine), numberOf_padded, hlength, hdrop]
    rfl

/-- The part of a second, up to the letter behind it. -/
theorem readFraction?_fractionText {nanos : Nat} (h : nanos < 1000000000) :
    readFraction? (fractionText nanos ++ ['Z']) = some (nanos, ['Z']) := by
  rw [fractionText]
  split_ifs with hzero hmillis hmicros
  · rw [hzero]
    rfl
  · rw [readFraction?_padded (by decide) (by decide) (by omega)]
    have hvalue : nanos / 1000000 * 10 ^ (9 - 3) = nanos := by omega
    rw [hvalue]
  · rw [readFraction?_padded (by decide) (by decide) (by omega)]
    have hvalue : nanos / 1000 * 10 ^ (9 - 6) = nanos := by omega
    rw [hvalue]
  · rw [readFraction?_padded (by decide) (by decide) (by omega), Nat.sub_self, Nat.pow_zero,
      Nat.mul_one]

/-! ### Instants -/

/-- The text of an instant, part by part. -/
theorem text_eq (t : Instant) : t.text = yearText t.date.year ++ '-' :: (padded 2 t.date.month ++
    '-' :: (padded 2 t.date.day ++ 'T' :: (padded 2 (t.secondOfDay / 3600) ++
    ':' :: (padded 2 (t.secondOfDay / 60 % 60) ++
    ':' :: (padded 2 (t.secondOfDay % 60 + t.nanos / 1000000000) ++
    (fractionText (t.nanos % 1000000000) ++ ['Z'])))))) := by
  simp [text, dateText]

/-- A text whose parts are read is read as the instant that they make. -/
theorem read?_of_parts {t yearEnd monthStart monthEnd dayStart hourStart hourEnd minuteStart
    minuteEnd secondStart secondEnd : Text} {date : Calendar.Date} {hour minute second nanos : Nat}
    (hyear : readYear? t = some (date.year, yearEnd))
    (hdash : readMark? '-' yearEnd = some monthStart)
    (hmonth : readField? 1 12 monthStart = some (date.month, monthEnd))
    (hdash' : readMark? '-' monthEnd = some dayStart)
    (hday : readField? 1 31 dayStart = some (date.day, 'T' :: hourStart))
    (hhour : readField? 0 23 hourStart = some (hour, hourEnd))
    (hcolon : readMark? ':' hourEnd = some minuteStart)
    (hminute : readField? 0 59 minuteStart = some (minute, minuteEnd))
    (hcolon' : readMark? ':' minuteEnd = some secondStart)
    (hsecond : readField? 0 60 secondStart = some (second, secondEnd))
    (hnanos : readFraction? secondEnd = some (nanos, ['Z']))
    (hvalid : date.isValid = true)
    (hrange : ¬ (Calendar.daysOf date * 86400 < minSeconds ∨
      maxSeconds < Calendar.daysOf date * 86400)) :
    read? t = of? (Calendar.daysOf date * 86400 +
        ((hour * 3600 + minute * 60 + min second 59 : Nat) : Int))
      (nanos + if second = 60 then 1000000000 else 0) := by
  have step {α : Type} {o : Option α} {a : α} (h : o = some a) (f : α → Option Instant) :
      o >>= f = f a := by
    rw [h]
    rfl
  have hoffset : readOffset? (skipBlank ['Z']) = some (0, []) := by decide
  refine (step hyear _).trans ((step hdash _).trans ((step hmonth _).trans ((step hdash' _).trans
    ((step hday _).trans ?_))))
  refine (if_pos (Or.inl rfl)).trans ?_
  refine (step hhour _).trans ((step hcolon _).trans ((step hminute _).trans ((step hcolon' _).trans
    ((step hsecond _).trans ((step hnanos _).trans ((step hoffset _).trans ?_))))))
  refine (if_neg (by decide)).trans ((if_neg (by rw [hvalid]; decide)).trans
    ((if_neg hrange).trans ?_))
  rw [Int.sub_zero]

/-- **What is read from the text of an instant.**  Within a leap second that does not end a minute,
the text shows the next second. -/
theorem read?_text (t : Instant) : read? t.text =
    if t.nanos < 1000000000 ∨ t.seconds % 60 = 59 then of? t.seconds t.nanos
    else of? (t.seconds + 1) (t.nanos % 1000000000) := by
  have hvalid : t.date.isValid = true := Calendar.dateOf_isValid _
  have hdays : Calendar.daysOf t.date = t.seconds / 86400 := Calendar.daysOf_dateOf _
  have hsecond : t.secondOfDay = (t.seconds % 86400).toNat := rfl
  rw [text_eq]
  generalize t.date = date at hvalid hdays
  generalize t.secondOfDay = second at hsecond
  obtain ⟨⟨⟨hmonth, hmonth'⟩, hday⟩, hlength⟩ : ((1 ≤ date.month ∧ date.month ≤ 12) ∧
      1 ≤ date.day) ∧ date.day ≤ Calendar.monthLength date.year date.month := by
    simpa [Calendar.Date.isValid] using hvalid
  have hthirtyOne : Calendar.monthLength date.year date.month ≤ 31 := by
    unfold Calendar.monthLength
    split_ifs <;> decide
  obtain ⟨hmin, hmax, hnanos⟩ := And.intro t.seconds_ge (And.intro t.seconds_le t.nanos_lt)
  have hdash : Text.isBlank '-' = false := by decide
  have hcolon : Text.isBlank ':' = false := by decide
  rw [read?_of_parts (readYear?_yearText _ _) (readMark?_cons hdash _)
    (readField?_padded hmonth hmonth' (by omega) _) (readMark?_cons hdash _)
    (readField?_padded hday (by omega) (by omega) _)
    (readField?_padded (Nat.zero_le _) (by omega) (by omega) _) (readMark?_cons hcolon _)
    (readField?_padded (Nat.zero_le _) (by omega) (by omega) _) (readMark?_cons hcolon _)
    (readField?_padded (Nat.zero_le _) (by omega) (by omega) _)
    (readFraction?_fractionText (Nat.mod_lt _ (by decide))) hvalid]
  · rw [hdays]
    split_ifs <;> congr 1 <;> omega
  · rw [hdays]
    simp only [minSeconds, maxSeconds] at hmin hmax ⊢
    omega

/-- **An instant is read back from its text** exactly if it is not within a leap second, or if the
leap second ends a minute. -/
theorem read?_text_eq_some_iff (t : Instant) :
    read? t.text = some t ↔ t.nanos < 1000000000 ∨ t.seconds % 60 = 59 := by
  have hself : of? t.seconds t.nanos = some t := dif_pos ⟨⟨t.seconds_ge, t.seconds_le⟩, t.nanos_lt⟩
  rw [read?_text]
  split_ifs with h
  · exact iff_of_true hself h
  · refine iff_of_false (fun hread => ?_) h
    have hseconds : t.seconds + 1 = t.seconds := by
      rw [of?] at hread
      split_ifs at hread with hrange
      exact congrArg seconds (Option.some.inj hread)
    omega

end GrammarBots.Instant

import GrammarBots.Time.Calendar
import Mathlib.Tactic.IntervalCases

/-!
# Days and dates

`dateOf_isValid` says that the calendar has the date of every day, and `daysOf_dateOf` that counting
the days up to it leads back.  Both come from how a day lies in its era (`EraDay`): an era has four
centuries, a century twenty-five blocks of four years, and only the last year of a block and only
the last block of a century may be a day longer or shorter.
-/

namespace GrammarBots.Calendar

/-! ### Days of an era -/

/-- The place of a day in an era of four hundred years that starts in March. -/
structure EraDay (day century block year rest : Nat) : Prop where
  /-- The days before the century, the block of four years and the year, and the day of the year. -/
  day_eq : day = 36524 * century + 1461 * block + 365 * year + rest
  /-- There are four centuries. -/
  century_le : century ≤ 3
  /-- There are twenty-five blocks. -/
  block_le : block ≤ 24
  /-- There are four years in a block. -/
  year_le : year ≤ 3
  /-- A day past the 365th comes at the end of a block, but not at that of one of the first three
  centuries. -/
  rest_le : rest < 365 ∨ (rest = 365 ∧ year = 3 ∧ (block < 24 ∨ century = 3))

/-- Every day of an era has a place. -/
theorem exists_eraDay {day : Nat} (h : day < 146097) :
    ∃ century block year rest, EraDay day century block year rest := by
  obtain ⟨century, hcentury⟩ : ∃ century, century = min 3 (day / 36524) := ⟨_, rfl⟩
  obtain ⟨block, hblock⟩ : ∃ block, block = (day - 36524 * century) / 1461 := ⟨_, rfl⟩
  obtain ⟨left, hleft⟩ : ∃ left, left = day - 36524 * century - 1461 * block := ⟨_, rfl⟩
  obtain ⟨year, hyear⟩ : ∃ year, year = min 3 (left / 365) := ⟨_, rfl⟩
  exact ⟨century, block, year, left - 365 * year,
    ⟨by omega, by omega, by omega, by omega, by omega⟩⟩

variable {day century block year rest : Nat}

/-- The year of the era. -/
theorem EraDay.yearOfEra_eq (h : EraDay day century block year rest) :
    (day - day / 1460 + day / 36524 - day / 146096) / 365 = 100 * century + 4 * block + year := by
  obtain ⟨hday, hcentury, hblock, hyear, hrest⟩ := h
  -- the blocks are a day short of the years that they are counted with
  obtain ⟨extra, hextra⟩ : ∃ extra, extra = (24 * century + block + 365 * year + rest) / 1460 :=
    ⟨_, rfl⟩
  have hblocks : day / 1460 = 25 * century + block + extra := by omega
  have hcenturies : day / 36524 = century + day / 146096 := by
    by_cases hlast : day = 146096
    · omega
    · rw [Nat.div_eq_of_lt (by omega : day < 146096)]
      omega
  rw [hblocks, hcenturies]
  omega

/-- The day of the year. -/
theorem EraDay.dayOfYear_eq (h : EraDay day century block year rest) :
    day - (365 * (100 * century + 4 * block + year) + (100 * century + 4 * block + year) / 4
      - (100 * century + 4 * block + year) / 100) = rest := by
  obtain ⟨hday, hcentury, hblock, hyear, hrest⟩ := h
  omega

theorem EraDay.lt (h : EraDay day century block year rest) : day < 146097 := by
  obtain ⟨hday, hcentury, hblock, hyear, hrest⟩ := h
  omega

/-! ### Dates -/

/-- The month that is so many months after March. -/
def monthOf (monthFromMarch : Nat) : Nat :=
  if monthFromMarch < 10 then monthFromMarch + 3 else monthFromMarch - 9

/-- The days up to a date, by the months and the years that start in March. -/
theorem daysOf_eq {monthFromMarch : Nat} (hmonth : monthFromMarch ≤ 11) {yearOfEra : Nat}
    (hyear : yearOfEra ≤ 399) (era : Int) (day : Nat) :
    daysOf ⟨yearOfEra + era * 400 + (if monthOf monthFromMarch ≤ 2 then 1 else 0),
        monthOf monthFromMarch, day⟩
      = era * 146097 + (yearOfEra * 365 + yearOfEra / 4 - yearOfEra / 100 +
          ((153 * monthFromMarch + 2) / 5 + day - 1)) - 719468 := by
  have hback : (monthOf monthFromMarch + 9) % 12 = monthFromMarch := by
    unfold monthOf
    split_ifs <;> omega
  have hshifted : (if monthOf monthFromMarch ≤ 2 then
        (yearOfEra : Int) + era * 400 + (if monthOf monthFromMarch ≤ 2 then 1 else 0) - 1
      else (yearOfEra : Int) + era * 400 + (if monthOf monthFromMarch ≤ 2 then 1 else 0))
      = yearOfEra + era * 400 := by
    split_ifs <;> omega
  have hera : ((yearOfEra : Int) + era * 400) / 400 = era := by omega
  simp only [daysOf, hshifted, hera, hback, Int.add_sub_cancel]

/-- The date of a day, by its place in its era. -/
theorem dateOf_eq (h : EraDay day century block year rest) {days era : Int}
    (hdays : days + 719468 = era * 146097 + day) :
    dateOf days =
      { year := ((100 * century + 4 * block + year : Nat) : Int) + era * 400 +
          (if monthOf ((5 * rest + 2) / 153) ≤ 2 then 1 else 0)
        month := monthOf ((5 * rest + 2) / 153)
        day := rest - (153 * ((5 * rest + 2) / 153) + 2) / 5 + 1 } := by
  have hlt := h.lt
  have hera : (days + 719468) / 146097 = era := by omega
  have hday : (days + 719468 - era * 146097).toNat = day := by omega
  simp only [dateOf, hera, hday, h.yearOfEra_eq, h.dayOfYear_eq, monthOf]
  rfl

/-- Every day has a place in its era. -/
theorem exists_era (days : Int) : ∃ (era : Int) (day century block year rest : Nat),
    EraDay day century block year rest ∧ days + 719468 = era * 146097 + day := by
  obtain ⟨century, block, year, rest, h⟩ :=
    exists_eraDay (by omega : ((days + 719468) % 146097).toNat < 146097)
  exact ⟨(days + 719468) / 146097, _, century, block, year, rest, h, by omega⟩

/-- **Counting the days** up to the date of a day leads back to the day. -/
theorem daysOf_dateOf (days : Int) : daysOf (dateOf days) = days := by
  obtain ⟨era, day, century, block, year, rest, h, hdays⟩ := exists_era days
  rw [dateOf_eq h hdays]
  obtain ⟨hday, hcentury, hblock, hyear, hrest⟩ := h
  rw [daysOf_eq (by omega) (by omega)]
  obtain ⟨month, hmonth⟩ : ∃ month, month = (153 * ((5 * rest + 2) / 153) + 2) / 5 := ⟨_, rfl⟩
  omega

/-- A month that is not the last one before March ends where the next one begins. -/
theorem monthLength_monthOf (year : Int) {monthFromMarch : Nat} (h : monthFromMarch ≤ 10) :
    (153 * (monthFromMarch + 1) + 2) / 5
      = (153 * monthFromMarch + 2) / 5 + monthLength year (monthOf monthFromMarch) := by
  interval_cases monthFromMarch <;> rfl

/-- The year of a day past the 365th has a leap day. -/
theorem EraDay.isLeapYear (h : EraDay day century block year 365) (era : Int) :
    Calendar.isLeapYear (((100 * century + 4 * block + year : Nat) : Int) + era * 400 + 1)
      = true := by
  obtain ⟨hday, hcentury, hblock, hyear, hrest⟩ := h
  obtain ⟨hyear, hlast⟩ : year = 3 ∧ (block < 24 ∨ century = 3) := by omega
  simp only [Calendar.isLeapYear, Bool.and_eq_true, Bool.or_eq_true, beq_iff_eq, bne_iff_ne]
  omega

/-- **The calendar has the date** of every day. -/
theorem dateOf_isValid (days : Int) : (dateOf days).isValid = true := by
  obtain ⟨era, day, century, block, year, rest, h, hdays⟩ := exists_era days
  have hrest : rest ≤ 365 := by
    have hrest := h.rest_le
    omega
  rw [dateOf_eq h hdays]
  obtain ⟨month, hmonth⟩ : ∃ month, month = (5 * rest + 2) / 153 := ⟨_, rfl⟩
  have hrange : 1 ≤ monthOf month ∧ monthOf month ≤ 12 := by
    unfold monthOf
    split_ifs <;> omega
  simp only [Date.isValid, Bool.and_eq_true, decide_eq_true_eq, ← hmonth]
  refine ⟨⟨hrange, Nat.le_add_left 1 _⟩, ?_⟩
  by_cases hlast : month ≤ 10
  · have hnext := monthLength_monthOf
      (((100 * century + 4 * block + year : Nat) : Int) + era * 400 +
        (if monthOf month ≤ 2 then 1 else 0)) hlast
    omega
  · -- February
    obtain rfl : month = 11 := by omega
    have hlength {leap : Int} : monthLength leap (monthOf 11)
        = if Calendar.isLeapYear leap then 29 else 28 := rfl
    rw [hlength]
    by_cases hleap : rest = 365
    · subst hleap
      rw [if_pos (by decide : monthOf 11 ≤ 2), if_pos (h.isLeapYear era)]
    · split_ifs <;> omega

end GrammarBots.Calendar

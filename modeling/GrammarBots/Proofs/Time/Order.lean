import GrammarBots.Time.Instant
import Mathlib.Data.Prod.Lex

/-!
# The order of instants

Instants are compared by their seconds and then by their nanoseconds, as places on a line of time
that goes on before the first and after the last instant.  `position_addSeconds` says where on this
line an instant comes to lie some seconds later: where the seconds lead, or at the last instant if
they lead farther.  The one exception is an instant in the leap second at the very end of the
calendar.  It is later than the last instant, and no seconds later it is still itself.
-/

namespace GrammarBots.Instant

/-- The place of an instant on the line of time: its second and the nanoseconds past that. -/
def position (t : Instant) : Int ×ₗ Nat := toLex (t.seconds, t.nanos)

/-- The place some seconds later.  From within a leap second, one second later is the same part of
the next second. -/
def positionAfter (t : Instant) (seconds : Nat) : Int ×ₗ Nat :=
  toLex (t.seconds + seconds, if seconds = 0 then t.nanos else t.nanos % 1000000000)

/-- No two instants are at the same place. -/
theorem eq_of_position {a b : Instant} (h : a.position = b.position) : a = b := by
  obtain ⟨hseconds, hnanos⟩ := Prod.mk.inj (toLex_inj.mp h)
  cases a
  cases b
  congr

instance : LE Instant := ⟨fun a b => a.position ≤ b.position⟩

instance : LT Instant := ⟨fun a b => a.position < b.position⟩

theorem le_iff_position {a b : Instant} : a ≤ b ↔ a.position ≤ b.position := Iff.rfl

theorem lt_iff_position {a b : Instant} : a < b ↔ a.position < b.position := Iff.rfl

theorem not_le_iff {a b : Instant} : ¬ a ≤ b ↔ b < a := by
  rw [le_iff_position, lt_iff_position, not_le]

/-- The comparison that the schedule makes is the order of instants. -/
theorem notAfter_iff {a b : Instant} : a.notAfter b = true ↔ a ≤ b := by
  rw [le_iff_position, position, position, Prod.Lex.toLex_le_toLex, notAfter, Bool.or_eq_true,
    Bool.and_eq_true, decide_eq_true_eq, decide_eq_true_eq, beq_iff_eq]

theorem positionAfter_zero (t : Instant) : t.positionAfter 0 = t.position := by
  rw [positionAfter, position, if_pos rfl, Int.natCast_zero, Int.add_zero]

/-! ### Seconds later -/

/-- A duration fails to be made only of seconds that lead beyond the calendar. -/
theorem le_maxSigned64 {t : Instant} {seconds : Nat} (h : t.seconds + seconds ≤ maxSeconds) :
    seconds * 1000 ≤ maxSigned64 := by
  have hge := t.seconds_ge
  rw [minSeconds] at hge
  rw [maxSeconds] at h
  rw [maxSigned64]
  omega

theorem signed64?_of_le {seconds : Nat} (h : seconds * 1000 ≤ maxSigned64) :
    signed64? seconds = some seconds := if_pos (by omega)

theorem ofSeconds?_of_le {seconds : Nat} (h : seconds * 1000 ≤ maxSigned64) :
    Duration.ofSeconds? seconds = some ⟨seconds, h⟩ := dif_pos h

/-- Whichever guard stops at some seconds, the calendar has no instant there. -/
theorem addSeconds_eq (t : Instant) (seconds : Nat) : t.addSeconds seconds
    = (of? (t.seconds + seconds)
        (if seconds = 0 then t.nanos else t.nanos % 1000000000)).getD last := by
  by_cases h : seconds * 1000 ≤ maxSigned64
  · rw [addSeconds, signed64?_of_le h, Option.bind_some, ofSeconds?_of_le h]
    rfl
  · have hbeyond : ¬ t.seconds + seconds ≤ maxSeconds := fun hle => h (le_maxSigned64 hle)
    have hnone : (signed64? seconds).bind Duration.ofSeconds? = none := by
      rw [signed64?]
      split
      · exact dif_neg h
      · rfl
    rw [addSeconds, hnone, of?, dif_neg fun hfits => hbeyond hfits.1.2]
    rfl

/-- Where the calendar reaches, seconds lead where they should. -/
theorem position_addSeconds_of_le {t : Instant} {seconds : Nat}
    (h : t.seconds + seconds ≤ maxSeconds) :
    (t.addSeconds seconds).position = t.positionAfter seconds := by
  have hnanos : (if seconds = 0 then t.nanos else t.nanos % 1000000000) < 2000000000 := by
    have := t.nanos_lt
    split_ifs <;> omega
  have hfits : (minSeconds ≤ t.seconds + seconds ∧ t.seconds + seconds ≤ maxSeconds) ∧
      (if seconds = 0 then t.nanos else t.nanos % 1000000000) < 2000000000 := by
    have := t.seconds_ge
    exact ⟨⟨by omega, h⟩, hnanos⟩
  rw [addSeconds_eq, of?, dif_pos hfits, Option.getD_some, position, positionAfter]

/-- Beyond the calendar, seconds lead to the last instant. -/
theorem addSeconds_of_lt {t : Instant} {seconds : Nat} (h : maxSeconds < t.seconds + seconds) :
    t.addSeconds seconds = last := by
  rw [addSeconds_eq, of?, dif_neg fun hfits => absurd hfits.1.2 (not_le_of_gt h),
    Option.getD_none]

/-- **Some seconds later** is where they lead or the last instant, whichever comes first, unless the
instant is later than the last one and stays where it is. -/
theorem position_addSeconds (t : Instant) (seconds : Nat) :
    (t.addSeconds seconds).position
      = if last < t ∧ seconds = 0 then t.position
        else min (t.positionAfter seconds) last.position := by
  rcases lt_or_ge maxSeconds (t.seconds + seconds) with hbeyond | hreach
  · have hseconds : seconds ≠ 0 := by
      have := t.seconds_le
      omega
    have hle : last.position ≤ t.positionAfter seconds :=
      Prod.Lex.toLex_le_toLex.mpr (Or.inl hbeyond)
    rw [addSeconds_of_lt hbeyond, if_neg fun h => hseconds h.2, min_eq_right hle]
  · rw [position_addSeconds_of_le hreach]
    by_cases hseconds : seconds = 0
    · subst hseconds
      rw [positionAfter_zero]
      by_cases hlast : last < t
      · rw [if_pos ⟨hlast, rfl⟩]
      · rw [if_neg fun h => hlast h.1, min_eq_left (not_lt.mp hlast)]
    · -- The nanoseconds are those of an ordinary second, so the sum is not past the last instant.
      have hle : t.positionAfter seconds ≤ last.position := by
        rw [positionAfter, if_neg hseconds]
        refine Prod.Lex.toLex_le_toLex.mpr ?_
        show t.seconds + seconds < maxSeconds ∨
          t.seconds + seconds = maxSeconds ∧ t.nanos % 1000000000 ≤ 999999999
        omega
      rw [if_neg fun h => hseconds h.2, min_eq_left hle]

end GrammarBots.Instant

import GrammarBots.Bot.Record
import GrammarBots.Proofs.Time.Order

/-!
# The next run is an exact sum

`BotRecord.nextRunAfter_exact` counts in nanoseconds, without any bound: outside leap seconds, the
next run is a schedule after the run, or the last instant if that comes first.  On the way the
schedule has to be a signed number, a duration and a step that the calendar can take, and each of
the three has another limit.  The calendar is by far the shortest (`Instant.le_maxSigned64`), so
none of the other two stops at a sum that the calendar still holds.
-/

namespace GrammarBots

namespace Instant

/-- The nanoseconds since 1970-01-01T00:00:00Z. -/
def nanoseconds (t : Instant) : Int := t.seconds * 1000000000 + t.nanos

/-- The instant is not within a leap second. -/
def IsOrdinary (t : Instant) : Prop := t.nanos < 1000000000

instance (t : Instant) : Decidable t.IsOrdinary := inferInstanceAs (Decidable (_ < _))

theorem isOrdinary_last : last.IsOrdinary := by decide

variable {t u : Instant} {seconds : Nat}

/-- Outside leap seconds, instants are in the order of their nanoseconds. -/
theorem le_iff_nanoseconds (ht : t.IsOrdinary) (hu : u.IsOrdinary) :
    t ≤ u ↔ t.nanoseconds ≤ u.nanoseconds := by
  rw [le_iff_position, position, position, Prod.Lex.toLex_le_toLex]
  rw [IsOrdinary] at ht hu
  rw [nanoseconds, nanoseconds]
  show t.seconds < u.seconds ∨ t.seconds = u.seconds ∧ t.nanos ≤ u.nanos ↔ _
  omega

theorem lt_iff_nanoseconds (ht : t.IsOrdinary) (hu : u.IsOrdinary) :
    t < u ↔ t.nanoseconds < u.nanoseconds := by
  rw [← not_le_iff, le_iff_nanoseconds hu ht, not_le]

/-- Only an instant within a leap second is after the last one. -/
theorem le_last (ht : t.IsOrdinary) : t ≤ last := by
  rw [IsOrdinary] at ht
  have hle := t.seconds_le
  rw [le_iff_nanoseconds ht isOrdinary_last, nanoseconds, nanoseconds]
  show _ ≤ maxSeconds * 1000000000 + 999999999
  omega

/-- The seconds that lead beyond the calendar are those whose nanoseconds do. -/
theorem lt_maxSeconds_iff (ht : t.IsOrdinary) :
    maxSeconds < t.seconds + seconds ↔
      last.nanoseconds < t.nanoseconds + seconds * 1000000000 := by
  rw [IsOrdinary] at ht
  rw [nanoseconds, nanoseconds]
  show _ ↔ maxSeconds * 1000000000 + 999999999 < _
  omega

/-- Where the calendar reaches, every guard lets the seconds pass, and they are added exactly. -/
theorem later?_of_le (ht : t.IsOrdinary) (h : t.seconds + seconds ≤ maxSeconds) :
    ∃ d, Duration.ofSeconds? seconds = some d ∧ t.later? d = some (t.addSeconds seconds) ∧
      (t.addSeconds seconds).IsOrdinary ∧
      (t.addSeconds seconds).nanoseconds = t.nanoseconds + seconds * 1000000000 := by
  have hmillis := le_maxSigned64 h
  have hnanos : (if seconds = 0 then t.nanos else t.nanos % 1000000000) = t.nanos := by
    rw [IsOrdinary] at ht
    split_ifs
    · rfl
    · exact Nat.mod_eq_of_lt ht
  have hfits : (minSeconds ≤ t.seconds + seconds ∧ t.seconds + seconds ≤ maxSeconds) ∧
      t.nanos < 2000000000 := by
    have hge := t.seconds_ge
    exact ⟨⟨by omega, h⟩, t.nanos_lt⟩
  have hsum : t.addSeconds seconds
      = ⟨t.seconds + seconds, t.nanos, hfits.1.1, hfits.1.2, hfits.2⟩ := by
    rw [addSeconds_eq, hnanos, of?, dif_pos hfits, Option.getD_some]
  refine ⟨⟨seconds, hmillis⟩, ofSeconds?_of_le hmillis, ?_, ?_, ?_⟩
  · rw [hsum, later?, hnanos, of?, dif_pos hfits]
  · rw [hsum]
    exact ht
  · rw [hsum, nanoseconds, nanoseconds]
    dsimp only
    omega

/-- **Some seconds later**, counted in nanoseconds: the exact sum or the last instant, whichever
comes first. -/
theorem nanoseconds_addSeconds (ht : t.IsOrdinary) (seconds : Nat) :
    (t.addSeconds seconds).IsOrdinary ∧ (t.addSeconds seconds).nanoseconds
      = min (t.nanoseconds + seconds * 1000000000) last.nanoseconds := by
  rcases lt_or_ge maxSeconds (t.seconds + seconds) with hbeyond | hreach
  · rw [addSeconds_of_lt hbeyond, min_eq_right ((lt_maxSeconds_iff ht).mp hbeyond).le]
    exact ⟨isOrdinary_last, rfl⟩
  · obtain ⟨-, -, -, hordinary, hsum⟩ := later?_of_le ht hreach
    have hle : ¬ last.nanoseconds < t.nanoseconds + seconds * 1000000000 := fun h =>
      not_lt_of_ge hreach ((lt_maxSeconds_iff ht).mpr h)
    exact ⟨hordinary, by rw [hsum, min_eq_left (not_lt.mp hle)]⟩

end Instant

namespace BotRecord

open Instant

theorem nanoseconds_nextRunAfter (bot : BotRecord) {now : Instant} (hnow : now.IsOrdinary) :
    (bot.nextRunAfter now).IsOrdinary ∧ (bot.nextRunAfter now).nanoseconds
      = min (now.nanoseconds + bot.schedule * 1000000000) last.nanoseconds :=
  nanoseconds_addSeconds hnow bot.schedule

/-- **The next run is the exact sum of the run and the schedule**, or the last instant if that comes
first.  No guard stops at a sum that is an instant.  So the next run does not come before the run,
and comes no earlier after a later run or for a longer schedule; and a bot that has a schedule and
runs before the last instant is not due any more. -/
theorem nextRunAfter_exact (bot : BotRecord) {now : Instant} (hnow : now.IsOrdinary) :
    (bot.nextRunAfter now).IsOrdinary ∧
    (bot.nextRunAfter now).nanoseconds
      = min (now.nanoseconds + bot.schedule * 1000000000) last.nanoseconds ∧
    (now.nanoseconds + bot.schedule * 1000000000 ≤ last.nanoseconds →
      signed64? bot.schedule = some bot.schedule ∧
        ∃ d, Duration.ofSeconds? bot.schedule = some d ∧
          now.later? d = some (bot.nextRunAfter now)) ∧
    now ≤ bot.nextRunAfter now ∧
    (∀ (other : BotRecord) (later : Instant), later.IsOrdinary → bot.schedule ≤ other.schedule →
      now ≤ later → bot.nextRunAfter now ≤ other.nextRunAfter later) ∧
    (0 < bot.schedule → now < last →
      { bot with nextRun := some (bot.nextRunAfter now) }.isDue now = false) := by
  obtain ⟨hordinary, hsum⟩ := bot.nanoseconds_nextRunAfter hnow
  refine ⟨hordinary, hsum, fun hfits => ?_, ?_, ?_, ?_⟩
  · have hreach : now.seconds + bot.schedule ≤ maxSeconds := by
      refine not_lt.mp fun hbeyond => ?_
      have := (lt_maxSeconds_iff hnow).mp hbeyond
      omega
    obtain ⟨d, hd, hlater, -⟩ := later?_of_le hnow hreach
    exact ⟨signed64?_of_le (le_maxSigned64 hreach), d, hd, hlater⟩
  · rw [le_iff_nanoseconds hnow hordinary, hsum]
    have hlast := (le_iff_nanoseconds hnow isOrdinary_last).mp (le_last hnow)
    omega
  · intro other later hlater hschedule hle
    obtain ⟨hordinary', hsum'⟩ := other.nanoseconds_nextRunAfter hlater
    rw [le_iff_nanoseconds hnow hlater] at hle
    rw [le_iff_nanoseconds hordinary hordinary', hsum, hsum']
    omega
  · intro hschedule hbefore
    rw [lt_iff_nanoseconds hnow isOrdinary_last] at hbefore
    have hafter : now < bot.nextRunAfter now := by
      rw [lt_iff_nanoseconds hnow hordinary, hsum]
      omega
    have hnotAfter : (bot.nextRunAfter now).notAfter now = false :=
      Bool.eq_false_iff.mpr fun h => not_le_iff.mpr hafter (notAfter_iff.mp h)
    rw [isDue, Option.all_some, hnotAfter, Bool.and_false]

/-- A bot that runs every minute, half a minute before the last instant. -/
theorem nextRunAfter_exact_late :
    let bot : BotRecord := { id := "ada", name := "Ada", schedule := 60, script := "" }
    let now : Instant := ⟨maxSeconds - 30, 0, by decide, by decide, by decide⟩
    now.IsOrdinary ∧ now < last ∧
      last.nanoseconds < now.nanoseconds + bot.schedule * 1000000000 ∧
      bot.nextRunAfter now = last ∧
      { bot with nextRun := some (bot.nextRunAfter now) }.isDue now = false := by
  intro bot now
  have hnow : now.IsOrdinary := by decide
  have hbefore : now < last := (lt_iff_nanoseconds hnow isOrdinary_last).mpr (by decide)
  obtain ⟨-, -, -, -, -, hdue⟩ := bot.nextRunAfter_exact hnow
  exact ⟨hnow, hbefore, by decide, by decide, hdue (by decide) hbefore⟩

end BotRecord

end GrammarBots

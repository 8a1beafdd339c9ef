import GrammarBots.Time.Calendar

/-!
# Instants

An instant is a whole number of seconds since 1970 and a part of a second in nanoseconds.  The
seconds cover the years from -262143 to 262142.  The part of a second may run past one second: that
is how an instant within a leap second is written, which comes after every instant of the second
before and before the next second.

`Instant.addSeconds` leads some seconds on and stops at the last instant.  The seconds come as an
unsigned number and become a `Duration` first.
-/

namespace GrammarBots

/-- The first second of the year -262143. -/
def minSeconds : Int := -8334601228800

/-- The last second of the year 262142. -/
def maxSeconds : Int := 8210266876799

/-- The largest signed number of 64 bits. -/
def maxSigned64 : Nat := 9223372036854775807

/-- The number as a signed one of 64 bits, if it can be one. -/
def signed64? (n : Nat) : Option Nat := if n ≤ maxSigned64 then some n else none

/-- A span of whole seconds.  Its milliseconds are a signed number of 64 bits. -/
structure Duration where
  /-- The seconds. -/
  seconds : Nat
  /-- The milliseconds can be counted. -/
  millis_le : seconds * 1000 ≤ maxSigned64

/-- The duration of that many seconds, if its milliseconds can be counted. -/
def Duration.ofSeconds? (seconds : Nat) : Option Duration :=
  if h : seconds * 1000 ≤ maxSigned64 then some ⟨seconds, h⟩ else none

/-- A moment in time, in UTC. -/
structure Instant where
  /-- The seconds since 1970-01-01T00:00:00Z, leap seconds not counted. -/
  seconds : Int
  /-- The nanoseconds past that second; a billion and more within a leap second. -/
  nanos : Nat
  /-- The calendar reaches back this far. -/
  seconds_ge : minSeconds ≤ seconds
  /-- The calendar reaches this far. -/
  seconds_le : seconds ≤ maxSeconds
  /-- A leap second is one second long. -/
  nanos_lt : nanos < 2000000000
  deriving DecidableEq

namespace Instant

/-- The last instant there is. -/
def last : Instant := ⟨maxSeconds, 999999999, by decide, by decide, by decide⟩

/-- The instant of the given second and nanosecond, if there is one. -/
def of? (seconds : Int) (nanos : Nat) : Option Instant :=
  if h : (minSeconds ≤ seconds ∧ seconds ≤ maxSeconds) ∧ nanos < 2000000000 then
    some ⟨seconds, nanos, h.1.1, h.1.2, h.2⟩
  else none

/-- Whether an instant is not after another. -/
def notAfter (a b : Instant) : Bool :=
  a.seconds < b.seconds || (a.seconds == b.seconds && a.nanos ≤ b.nanos)

/-! ### Later instants -/

/-- The instant a duration later, if the calendar reaches that far.  From within a leap second, one
second later is the same part of the next second. -/
def later? (t : Instant) (d : Duration) : Option Instant :=
  of? (t.seconds + d.seconds) (if d.seconds = 0 then t.nanos else t.nanos % 1000000000)

/-- The instant that many seconds later, or the last instant if there is none: none is found for
more seconds than a signed number holds, than a duration has, or than the calendar has left. -/
def addSeconds (t : Instant) (seconds : Nat) : Instant :=
  (((signed64? seconds).bind Duration.ofSeconds?).bind t.later?).getD last

end Instant

end GrammarBots

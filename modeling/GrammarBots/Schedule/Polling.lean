import GrammarBots.Schedule.Dispatch

/-!
# Looking at the schedule again and again

Polling ticks at once and then every period.  A tick that takes longer than a period delays the next
one, and the period is counted anew from there.  Here time is a number of milliseconds in the state,
and polling is cut off at a limit: what would happen later does not, and a tick that is under way at
that moment does not get to save anything.
-/

namespace GrammarBots.Polling

/-- The world and the time that has passed. -/
structure Timed (σ : Type) where
  /-- The world. -/
  world : σ
  /-- The milliseconds since polling began. -/
  time : Nat

/-- Actions that take time and end early when time is up. -/
abbrev Action (σ : Type) := ExceptT Unit (StateM (Timed σ))

variable {σ γ : Type} [Chooser γ]

/-- An action that takes no time. -/
def instantly {α : Type} (x : StateM σ α) : Action σ α := do
  let t ← get
  let (a, world) := x t.world
  set { t with world }
  return a

/-- A store that is read and written in no time. -/
def storeInTime (store : BotStore (StateM σ)) : BotStore (Action σ) where
  load := instantly store.load
  save bots := instantly (store.save bots)

/-- Posts for all bots at the same time, until time is up at the limit. -/
def dispatchInTime (limit : Nat)
    (session : BotRecord → Except Failure (Dispatch.TimedSession σ γ)) :
    Dispatch (Action σ) := fun candidates => do
  let t ← get
  let begun := Dispatch.beginAll session candidates
  let jobs := Dispatch.jobs begun
  let finish := t.time + Timeline.duration jobs
  if finish ≤ limit then
    let (results, world) := Timeline.run jobs t.world
    set { world, time := finish : Timed σ }
    return Dispatch.lookUp (Dispatch.postings begun results)
  else
    -- Time runs out during the posts: what was due by then has happened, the rest never will.
    let p := Timeline.runWhere (fun e => t.time + e.time ≤ limit) jobs t.world
    set { world := p.world, time := limit : Timed σ }
    throw ()

/-- How late a tick may be, in milliseconds, without delaying the ticks after it. -/
def tolerance : Nat := 5

/-- When the next tick is due, after one that was due at `deadline` and began at `start`. -/
def nextDeadline (period deadline start : Nat) : Nat :=
  (if deadline + tolerance < start then start else deadline) + period

/-- The next deadline is a whole period later at least. -/
theorem deadline_add_le_nextDeadline (period deadline start : Nat) :
    deadline + period ≤ nextDeadline period deadline start := by
  unfold nextDeadline
  split <;> omega

/-- Ticks from the given deadline on, until time is up at the limit. -/
def tickFrom (tick : Action σ Unit) (period : Nat) (_h : 0 < period) (limit : Nat)
    (deadline : Nat) : Action σ Unit := do
  if _hd : deadline ≤ limit then
    let start := max deadline (← get).time
    if start ≤ limit then
      modify fun t => { t with time := start }
      tick
      tickFrom tick period _h limit (nextDeadline period deadline start)
  termination_by limit + 1 - deadline
  decreasing_by
    exact Nat.sub_lt_sub_left (by omega)
      (Nat.lt_of_lt_of_le (by omega) (deadline_add_le_nextDeadline period deadline _))

/-- Polls for the given number of milliseconds. -/
def pollFor (store : BotStore (StateM σ)) (clock : StateM σ Instant)
    (session : BotRecord → Except Failure (Dispatch.TimedSession σ γ)) (period : Nat)
    (limit : Nat) : StateM σ Unit := fun world =>
  if h : 0 < period then
    let tick : Action σ Unit := do
      let now ← instantly clock
      let _ ← Schedule.tick (storeInTime store) (dispatchInTime limit session) now
    let (_, t) := (tickFrom tick period h limit 0).run ⟨world, 0⟩
    ((), t.world)
  else ((), world)

end GrammarBots.Polling

/-!
# Doing several things at a time

Tasks start in order, at most `limit` at a time, and a task keeps its place until all tasks before
it have finished too.  So task `i + limit` starts once the tasks up to `i` have all finished.  The
timetable is a function of the durations alone.
-/

namespace GrammarBots

/-- When a task is under way. -/
structure Slot where
  /-- When the task starts. -/
  start : Nat
  /-- When the task has finished. -/
  finish : Nat
  deriving DecidableEq

namespace FanOut

/-- The slots of further tasks.  `done` tells for each task before them when it and all tasks before
it have finished, latest task first. -/
def slotsAfter (limit : Nat) : (done : List Nat) → (durations : List Nat) → List Slot
  | _, [] => []
  | done, duration :: durations =>
    -- The task that stood `limit` places earlier has freed its place, with all before it.
    let start := done.getD (limit - 1) 0
    let finish := start + duration
    ⟨start, finish⟩ :: slotsAfter limit (max finish (done.headD 0) :: done) durations

/-- The slots of tasks with the given durations, of which `limit` may be under way at a time. -/
def slots (limit : Nat) (durations : List Nat) : List Slot := slotsAfter limit [] durations

/-- When the last task has finished. -/
def finish (slots : List Slot) : Nat := slots.foldl (fun t slot => max t slot.finish) 0

theorem length_slotsAfter (limit : Nat) (done durations : List Nat) :
    (slotsAfter limit done durations).length = durations.length := by
  induction durations generalizing done with
  | nil => rfl
  | cons d ds ih => simp [slotsAfter, ih]

/-- Every task has a slot. -/
theorem length_slots (limit : Nat) (durations : List Nat) :
    (slots limit durations).length = durations.length := length_slotsAfter limit [] durations

end FanOut

end GrammarBots

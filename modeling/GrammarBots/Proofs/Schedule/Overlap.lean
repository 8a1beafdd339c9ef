import GrammarBots.Proofs.Schedule.History
import Mathlib.Data.Bool.Count

/-!
# Operations that overlap

Two operations on one store, each of which loads the bots, runs some of them and saves all of them,
in any interleaving of these steps.  An operation saves what it loaded, with the ends of its own
runs recorded in it; it does not look at the store again.

* `Scheduler.run_three`: the steps of one operation after the other are the operation.
* If one operation has saved before the other loads, nothing is lost: the second records its runs in
  what the first has left.
* If both have loaded before either saves, what is left is what the later one to save makes of the
  bots that both loaded (`Scheduler.kept_of_overlaps`).  The runs of the other are recorded nowhere,
  unless the later one found no bot to run and saved nothing.

What an operation records of a post is what its own dispatch told it (`Scheduler.Hears`).

`kept_interleaved` says so for every interleaving, bot by bot, and `lost_run` is an interleaving of
a tick and a request for another bot, after which the bot that the tick ran is due as before.
-/

namespace GrammarBots

namespace Schedule

variable {σ : Type}

/-! ### What an operation leaves -/

namespace Operation

/-- The bots after the operation has run some of them: the end of the run is recorded in those that
it ran, given what the dispatch told of each place of the store, and all others are as they were. -/
structure Records (op : Operation) (told : Nat → Posting) (bots bots' : List BotRecord) : Prop where
  /-- The same bots are there. -/
  length : bots'.length = bots.length
  /-- A bot that was run has the record of this run. -/
  ran : ∀ i bot, bots[i]? = some bot → op.Runs bots i →
    bots'[i]? = some (bot.afterRun op.time (bot.runEnd (told i)))
  /-- A bot that was not run has the record it had. -/
  idle : ∀ i bot, bots[i]? = some bot → ¬ op.Runs bots i → bots'[i]? = some bot

variable {op : Operation} {told : Nat → Posting} {bots : List BotRecord}

theorem records_recorded (op : Operation) (told : Nat → Posting) (bots : List BotRecord) :
    op.Records told bots (op.recorded bots told) where
  length := length_recorded op bots told
  ran _ _ hbot hruns := getElem?_recorded_of_runs told hbot hruns
  idle _ _ hbot hruns := getElem?_recorded_of_not_runs told hbot hruns

/-- The bots that an operation has to save after its runs, if any. -/
inductive Prepares (op : Operation) (told : Nat → Posting) (bots : List BotRecord) :
    Option (List BotRecord) → Prop where
  /-- It saves all bots, with its runs recorded. -/
  | some (hsaves : op.Saves bots) : Prepares op told bots (some (op.recorded bots told))
  /-- It has nothing to save. -/
  | none (hnot : ¬ op.Saves bots) : Prepares op told bots none

theorem Prepares.records {bots? : Option (List BotRecord)} (h : op.Prepares told bots bots?) :
    op.Records told bots (bots?.getD bots) := by
  have hrecords := op.records_recorded told bots
  cases h with
  | some _ => exact hrecords
  | none hnot =>
    rw [recorded_of_not_saves hnot] at hrecords
    exact hrecords

end Operation

/-! ### The steps of an operation -/

/-- How far an operation is. -/
inductive Stage where
  /-- It has not begun. -/
  | ready
  /-- It has loaded the bots. -/
  | loaded (bots : List BotRecord)
  /-- It has run what it has to run, and has these bots to save, if any. -/
  | ran (bots? : Option (List BotRecord))
  /-- It has saved, or had nothing to save. -/
  | finished

namespace Scheduler

/-- The next step of an operation. -/
def advance (d : Scheduler σ) (op : Operation) : Stage → StateM σ Stage
  | .ready => do
    match ← loadBots d.store with
    | .ok bots => return .loaded bots
    | .error _ => return .finished
  | .loaded bots => return .ran (← d.work op bots)
  | .ran (some bots) => do
    let _ ← saveBots d.store bots
    return .finished
  | .ran none => return .finished
  | .finished => return .finished

variable (d : Scheduler σ) {op : Operation}

theorem run_advance_ready (op : Operation) (s : σ) :
    (d.advance op .ready).run s = (.loaded (d.kept s), (d.store.load.run s).2) := by
  rw [advance, run_bind, run_loadBots]
  rfl

theorem run_advance_work (op : Operation) (bots : List BotRecord) (s : σ) :
    (d.advance op (.loaded bots)).run s
      = (.ran ((d.work op bots).run s).1, ((d.work op bots).run s).2) := rfl

/-- Running bots leaves the store alone; what the dispatch tells is recorded. -/
theorem run_advance_loaded (op : Operation) (bots : List BotRecord) (s : σ) :
    ∃ bots? s', (d.advance op (.loaded bots)).run s = (.ran bots?, s') ∧
      d.kept s' = d.kept s ∧ op.Prepares ((d.dispatch (op.asked bots)).run s).1 bots bots? := by
  rw [run_advance_work]
  by_cases hsaves : op.Saves bots
  · rw [d.run_work_of_saves hsaves]
    exact ⟨_, _, rfl, d.kept_dispatch _ s, .some hsaves⟩
  · rw [d.run_work_of_not_saves hsaves]
    exact ⟨none, s, rfl, rfl, .none hsaves⟩

/-- Saving replaces the store by what is saved. -/
theorem run_advance_ran (op : Operation) (bots? : Option (List BotRecord)) (s : σ) :
    ∃ s', (d.advance op (.ran bots?)).run s = (.finished, s') ∧
      d.kept s' = bots?.getD (d.kept s) := by
  cases bots? with
  | none => exact ⟨s, rfl, rfl⟩
  | some bots => exact ⟨_, rfl, d.kept_save bots s⟩

/-! ### Two operations -/

/-- Two operations on one store, each as far as it is. -/
structure Progress (σ : Type) where
  /-- How far each of the two is. -/
  stage : Bool → Stage
  /-- The world with the store. -/
  world : σ

/-- One of two operations takes its next step. -/
def step (d : Scheduler σ) (ops : Bool → Operation) (c : Progress σ) (p : Bool) : Progress σ where
  stage := Function.update c.stage p ((d.advance (ops p) (c.stage p)).run c.world).1
  world := ((d.advance (ops p) (c.stage p)).run c.world).2

/-- Two operations, whose steps are taken in the given order. -/
def interleave (d : Scheduler σ) (ops : Bool → Operation) (order : List Bool) (s : σ) :
    Progress σ :=
  order.foldl (d.step ops) ⟨fun _ => .ready, s⟩

variable (ops : Bool → Operation) (s : σ) {order : List Bool} {p : Bool}

theorem interleave_concat (order : List Bool) (p : Bool) :
    d.interleave ops (order ++ [p]) s = d.step ops (d.interleave ops order s) p := by
  rw [interleave, List.foldl_append]
  rfl

theorem world_step (c : Progress σ) (p : Bool) :
    (d.step ops c p).world = ((d.advance (ops p) (c.stage p)).run c.world).2 := rfl

theorem stage_step_self (c : Progress σ) (p : Bool) :
    (d.step ops c p).stage p = ((d.advance (ops p) (c.stage p)).run c.world).1 :=
  Function.update_self p _ c.stage

theorem stage_step_of_ne (c : Progress σ) {r : Bool} (h : r ≠ p) :
    (d.step ops c p).stage r = c.stage r :=
  Function.update_of_ne h _ c.stage

theorem count_concat_self (order : List Bool) (p : Bool) :
    (order ++ [p]).count p = order.count p + 1 := by
  rw [List.count_append, List.count_singleton_self]

theorem count_concat_of_ne (order : List Bool) {r : Bool} (h : r ≠ p) :
    (order ++ [p]).count r = order.count r := by
  rw [List.count_append, List.count_singleton, if_neg (by simpa using h.symm), Nat.add_zero]

/-- What the dispatch tells one of two operations, if it loaded the given bots.  The dispatch is
asked when the operation takes its second step, and answers in the world of that moment. -/
def Hears (order : List Bool) (p : Bool) (bots : List BotRecord) (told : Nat → Posting) : Prop :=
  ∃ before later, order = before ++ p :: later ∧ before.count p = 1 ∧
    told = ((d.dispatch ((ops p).asked bots)).run (d.interleave ops before s).world).1

theorem hears_concat_self (hcount : order.count p = 1) (bots : List BotRecord) :
    d.Hears ops s (order ++ [p]) p bots
      ((d.dispatch ((ops p).asked bots)).run (d.interleave ops order s).world).1 :=
  ⟨order, [], rfl, hcount, rfl⟩

variable {d ops s} in
theorem Hears.concat {bots : List BotRecord} {told : Nat → Posting}
    (h : d.Hears ops s order p bots told) (r : Bool) :
    d.Hears ops s (order ++ [r]) p bots told := by
  obtain ⟨before, later, rfl, hcount, htold⟩ := h
  exact ⟨before, later ++ [r], by rw [List.append_assoc, List.cons_append], hcount, htold⟩

/-- Where an operation is after some of its steps, if it loaded the given bots.  `hears` says what
the dispatch may have told it. -/
inductive StageAfter (op : Operation) (bots : List BotRecord) (hears : (Nat → Posting) → Prop) :
    Nat → Stage → Prop where
  /-- No step was taken. -/
  | ready : StageAfter op bots hears 0 .ready
  /-- The bots are loaded. -/
  | loaded : StageAfter op bots hears 1 (.loaded bots)
  /-- The bots are run. -/
  | ran {told : Nat → Posting} {bots? : Option (List BotRecord)} (hhears : hears told)
      (h : op.Prepares told bots bots?) : StageAfter op bots hears 2 (.ran bots?)
  /-- The bots are saved. -/
  | finished : StageAfter op bots hears 3 .finished

variable {bots : List BotRecord} {hears hears' : (Nat → Posting) → Prop} {stage : Stage}

theorem StageAfter.imp {n : Nat} (h : StageAfter op bots hears n stage)
    (himp : ∀ told, hears told → hears' told) : StageAfter op bots hears' n stage := by
  cases h with
  | ready => exact .ready
  | loaded => exact .loaded
  | ran hhears hprepares => exact .ran (himp _ hhears) hprepares
  | finished => exact .finished

/-- **A step before the save** leaves the store alone; what is loaded is what is in the store, and
what is told is what the dispatch answers in this world. -/
theorem advance_of_lt {n : Nat} {s : σ} (h : StageAfter op bots hears n stage) (hn : n < 2)
    (hload : n = 0 → d.kept s = bots)
    (hhears : n = 1 → hears' ((d.dispatch (op.asked bots)).run s).1) :
    StageAfter op bots hears' (n + 1) ((d.advance op stage).run s).1 ∧
      d.kept ((d.advance op stage).run s).2 = d.kept s := by
  cases h with
  | ready =>
    rw [run_advance_ready]
    obtain rfl := hload rfl
    exact ⟨.loaded, d.kept_load s⟩
  | loaded =>
    obtain ⟨bots?, s', hrun, hkept, hprepares⟩ := d.run_advance_loaded op bots s
    rw [hrun]
    exact ⟨.ran (hhears rfl) hprepares, hkept⟩
  | ran => omega
  | finished => omega

/-- **The save** replaces the store by what the operation has made of the bots that it loaded. -/
theorem advance_of_two {s : σ} (h : StageAfter op bots hears 2 stage) :
    ∃ told bots?, hears told ∧ op.Prepares told bots bots? ∧
      ((d.advance op stage).run s).1 = .finished ∧
      d.kept ((d.advance op stage).run s).2 = bots?.getD (d.kept s) := by
  cases h with
  | @ran told bots? hhears hprepares =>
    obtain ⟨s', hrun, hkept⟩ := d.run_advance_ran op bots? s
    rw [hrun]
    exact ⟨told, bots?, hhears, hprepares, rfl, hkept⟩

/-- Until one of two operations saves, the store is what it was, and both have loaded this. -/
theorem unsaved (hcount : ∀ p, order.count p ≤ 2) :
    d.kept (d.interleave ops order s).world = d.kept s ∧
      ∀ p, StageAfter (ops p) (d.kept s) (d.Hears ops s order p (d.kept s)) (order.count p)
        ((d.interleave ops order s).stage p) := by
  induction order using List.reverseRecOn with
  | nil => exact ⟨rfl, fun p => .ready⟩
  | append_singleton order p ih =>
    have hless : ∀ r, order.count r ≤ 2 := fun r =>
      (List.prefix_append order [p]).sublist.count_le r |>.trans (hcount r)
    obtain ⟨hkept, hstages⟩ := ih hless
    have hnext : order.count p < 2 := by
      have h := hcount p
      rw [count_concat_self] at h
      omega
    obtain ⟨hstage, hkept'⟩ := d.advance_of_lt (hstages p) hnext (fun _ => hkept)
      fun hone => d.hears_concat_self ops s hone (d.kept s)
    rw [interleave_concat]
    refine ⟨hkept'.trans hkept, fun r => ?_⟩
    by_cases hr : r = p
    · subst hr
      rw [count_concat_self, stage_step_self]
      exact hstage
    · rw [count_concat_of_ne order hr, d.stage_step_of_ne ops _ hr]
      exact (hstages r).imp fun _ h => h.concat p

/-- At some moment both operations have loaded and neither has saved. -/
def Overlaps (order : List Bool) : Prop :=
  ∃ before, before <+: order ∧ ∀ p, 1 ≤ before.count p ∧ before.count p ≤ 2

theorem Overlaps.of_concat (h : Overlaps (order ++ [p])) {r : Bool}
    (hr : 3 ≤ (order ++ [p]).count r) : Overlaps order := by
  obtain ⟨before, hinit, hbefore⟩ := h
  refine ⟨before, ?_, hbefore⟩
  rcases List.prefix_concat_iff.mp hinit with rfl | hinit
  · have h := (hbefore r).2
    omega
  · exact hinit

/-- Once one of two operations that overlap has saved, the store is what it made of the bots that
both loaded. -/
theorem saved_once (hoverlaps : Overlaps order) (hp : order.count p = 3)
    (hother : order.count (!p) ≤ 2) :
    (∃ told bots?, d.Hears ops s order p (d.kept s) told ∧
      (ops p).Prepares told (d.kept s) bots? ∧
      d.kept (d.interleave ops order s).world = bots?.getD (d.kept s)) ∧
    (d.interleave ops order s).stage p = .finished ∧
    StageAfter (ops (!p)) (d.kept s) (d.Hears ops s order (!p) (d.kept s)) (order.count (!p))
      ((d.interleave ops order s).stage (!p)) := by
  induction order using List.reverseRecOn with
  | nil => cases hp
  | append_singleton order r ih =>
    have hbefore : Overlaps order := hoverlaps.of_concat hp.ge
    rw [interleave_concat]
    by_cases hr : r = p
    · -- The save: up to here, the store was what it was at the beginning.
      subst hr
      have hne : (!r) ≠ r := Bool.not_ne_self r
      rw [count_concat_self] at hp
      rw [count_concat_of_ne order hne] at hother ⊢
      have hcount : ∀ p, order.count p ≤ 2 := by
        intro p
        by_cases hpr : p = r
        · subst hpr
          omega
        · rw [Bool.eq_not.mpr hpr]
          exact hother
      obtain ⟨hkept, hstages⟩ := d.unsaved ops s hcount
      have hstage := hstages r
      rw [show order.count r = 2 by omega] at hstage
      obtain ⟨told, bots?, hhears, hprepares, hfinished, hsaved⟩ := d.advance_of_two hstage
      rw [stage_step_self, d.stage_step_of_ne ops _ hne]
      rw [hkept] at hsaved
      exact ⟨⟨told, bots?, hhears.concat r, hprepares, hsaved⟩, hfinished,
        (hstages (!r)).imp fun _ h => h.concat r⟩
    · -- The other operation has loaded already, so its steps look at the store no more.
      obtain rfl : r = !p := Bool.eq_not.mpr hr
      rw [count_concat_of_ne order (Bool.not_ne_self p).symm] at hp
      rw [count_concat_self] at hother ⊢
      obtain ⟨⟨told, bots?, hhears, hprepares, hsaved⟩, hfinished, hstage⟩ :=
        ih hbefore hp (by omega)
      have hloaded : 1 ≤ order.count (!p) := by
        obtain ⟨before, hinit, hcount⟩ := hbefore
        exact (hcount (!p)).1.trans (hinit.sublist.count_le (!p))
      obtain ⟨hstage', hkept⟩ := d.advance_of_lt hstage (by omega) (fun h => by omega)
        fun hone => d.hears_concat_self ops s hone (d.kept s)
      rw [stage_step_self, d.stage_step_of_ne ops _ (Bool.not_ne_self p).symm]
      exact ⟨⟨told, bots?, hhears.concat (!p), hprepares, hkept.trans hsaved⟩, hfinished,
        hstage'⟩

/-- **Of two operations that overlap, the one that saves last decides**: what is left is what it
made of the bots that both loaded or, if it has nothing to save, what the other one made of them. -/
theorem kept_of_overlaps (hoverlaps : Overlaps (order ++ [p]))
    (hthree : ∀ r, (order ++ [p]).count r = 3) :
    (∀ r, (d.interleave ops (order ++ [p]) s).stage r = .finished) ∧
    ((ops p).Saves (d.kept s) → ∃ told, d.Hears ops s (order ++ [p]) p (d.kept s) told ∧
      (ops p).Records told (d.kept s) (d.kept (d.interleave ops (order ++ [p]) s).world)) ∧
    (¬ (ops p).Saves (d.kept s) → ∃ told, d.Hears ops s (order ++ [p]) (!p) (d.kept s) told ∧
      (ops (!p)).Records told (d.kept s)
        (d.kept (d.interleave ops (order ++ [p]) s).world)) := by
  have hbefore : Overlaps order := hoverlaps.of_concat (hthree p).ge
  have hp := hthree p
  have hother := hthree (!p)
  rw [count_concat_self] at hp
  rw [count_concat_of_ne order (Bool.not_ne_self p)] at hother
  obtain ⟨⟨first, first?, hfirst, hprepared, hsaved⟩, hfinished, hstage⟩ :=
    d.saved_once ops s hbefore hother (by rw [Bool.not_not]; omega)
  rw [Bool.not_not, show order.count p = 2 by omega] at hstage
  obtain ⟨told, bots?, hhears, hprepares, hdone, hkept⟩ := d.advance_of_two hstage
  rw [hsaved] at hkept
  rw [interleave_concat]
  refine ⟨fun r => ?_, fun hsaves => ?_, fun hnot => ?_⟩
  · by_cases hr : r = p
    · subst hr
      rw [stage_step_self]
      exact hdone
    · rw [d.stage_step_of_ne ops _ hr, Bool.eq_not.mpr hr]
      exact hfinished
  · cases hprepares with
    | some _ =>
      rw [world_step, hkept]
      exact ⟨told, hhears.concat p, (ops p).records_recorded told (d.kept s)⟩
    | none hnot => exact absurd hsaves hnot
  · cases hprepares with
    | some hsaves => exact absurd hsaves hnot
    | none =>
      rw [world_step, hkept]
      exact ⟨first, hfirst.concat p, hprepared.records⟩

/-! ### One operation after the other -/

/-- **The steps of an operation, one after the other, are the operation.** -/
theorem run_three (op : Operation) (s : σ) :
    let loaded := (d.advance op .ready).run s
    let ran := (d.advance op loaded.1).run loaded.2
    let saved := (d.advance op ran.1).run ran.2
    saved.1 = .finished ∧ saved.2 = d.perform op s := by
  dsimp only
  rw [run_advance_ready, perform_eq, run_advance_work]
  rcases (d.work op (d.kept s)).run (d.store.load.run s).2 with ⟨_ | bots, s'⟩
  · exact ⟨rfl, rfl⟩
  · exact ⟨rfl, rfl⟩

theorem records_perform (op : Operation) (s : σ) :
    op.Records (d.told op s) (d.kept s) (d.kept (d.perform op s)) := by
  rw [kept_perform]
  exact op.records_recorded (d.told op s) (d.kept s)

/-- Two operations overlap, or one comes after the other. -/
theorem serial_or_overlaps (hthree : ∀ r, order.count r = 3) :
    (∃ p, order = List.replicate 3 (!p) ++ List.replicate 3 p) ∨ Overlaps order := by
  have hlength : order.length = 6 := by
    rw [← List.count_true_add_count_false order, hthree, hthree]
  have hall : ∀ a b c d e f : Bool, (∀ r, [a, b, c, d, e, f].count r = 3) →
      (∃ p, [a, b, c, d, e, f] = List.replicate 3 (!p) ++ List.replicate 3 p) ∨
        ∃ n, n < 6 ∧ ∀ p, 1 ≤ ([a, b, c, d, e, f].take n).count p ∧
          ([a, b, c, d, e, f].take n).count p ≤ 2 := by
    decide
  match order, hlength with
  | [a, b, c, d, e, f], _ =>
    rcases hall a b c d e f hthree with hserial | ⟨n, -, hcount⟩
    · exact Or.inl hserial
    · exact Or.inr ⟨_, List.take_prefix n _, hcount⟩

/-- Of two operations, the one that has not begun takes all its steps. -/
theorem foldl_step_three (p : Bool) (c : Progress σ) (hready : c.stage p = .ready) :
    ((List.replicate 3 p).foldl (d.step ops) c).world = d.perform (ops p) c.world ∧
      ((List.replicate 3 p).foldl (d.step ops) c).stage p = .finished ∧
      ((List.replicate 3 p).foldl (d.step ops) c).stage (!p) = c.stage (!p) := by
  obtain ⟨hfinished, hworld⟩ := d.run_three (ops p) c.world
  have hne : (!p) ≠ p := Bool.not_ne_self p
  simp only [List.replicate, List.foldl_cons, List.foldl_nil]
  rw [d.stage_step_of_ne ops _ hne, d.stage_step_of_ne ops _ hne, d.stage_step_of_ne ops _ hne]
  simp only [world_step, stage_step_self, hready]
  exact ⟨hworld, hfinished, trivial⟩

/-- **One operation after the other** is the one and then the other. -/
theorem interleave_serial (p : Bool) :
    (∀ r, (d.interleave ops (List.replicate 3 (!p) ++ List.replicate 3 p) s).stage r = .finished) ∧
    (d.interleave ops (List.replicate 3 (!p) ++ List.replicate 3 p) s).world
      = d.perform (ops p) (d.perform (ops (!p)) s) := by
  obtain ⟨hworld, hfinished, hready⟩ :=
    d.foldl_step_three ops (!p) ⟨fun _ => .ready, s⟩ rfl
  rw [Bool.not_not] at hready
  obtain ⟨hworld', hfinished', hkeep⟩ := d.foldl_step_three ops p _ hready
  rw [interleave, List.foldl_append]
  refine ⟨fun r => ?_, ?_⟩
  · by_cases hr : r = p
    · subst hr
      exact hfinished'
    · obtain rfl : r = !p := Bool.eq_not.mpr hr
      exact hkeep.trans hfinished
  · exact hworld'.trans (congrArg (d.perform (ops p)) hworld)

/-! ### What is recorded -/

/-- **What two operations leave**, in whatever order their steps are taken.  Both come to an end.
If the one begins when the other has ended, every run of both is recorded: the second operation
records its runs in what the first has left, so that each bot has the record of its last run.  If
they overlap, what is left is as if only the operation that saves last had happened, unless that one
has nothing to save; so the runs of the other, of bots that the last one does not run, are lost.
What is recorded of a run is what the dispatch told the operation that made it. -/
theorem kept_interleaved (hthree : ∀ r, order.count r = 3) (hlast : order.getLast? = some p) :
    (∀ r, (d.interleave ops order s).stage r = .finished) ∧
    (order = List.replicate 3 (!p) ++ List.replicate 3 p →
      (d.interleave ops order s).world = d.perform (ops p) (d.perform (ops (!p)) s) ∧
      ∃ between, (ops (!p)).Records (d.told (ops (!p)) s) (d.kept s) between ∧
        (ops p).Records (d.told (ops p) (d.perform (ops (!p)) s)) between
          (d.kept (d.interleave ops order s).world)) ∧
    (order ≠ List.replicate 3 (!p) ++ List.replicate 3 p →
      ((ops p).Saves (d.kept s) → ∃ told, d.Hears ops s order p (d.kept s) told ∧
        (ops p).Records told (d.kept s) (d.kept (d.interleave ops order s).world)) ∧
      (¬ (ops p).Saves (d.kept s) → ∃ told, d.Hears ops s order (!p) (d.kept s) told ∧
        (ops (!p)).Records told (d.kept s) (d.kept (d.interleave ops order s).world))) := by
  by_cases hserial : order = List.replicate 3 (!p) ++ List.replicate 3 p
  · obtain ⟨hfinished, hworld⟩ := d.interleave_serial ops s p
    rw [← hserial] at hfinished hworld
    refine ⟨hfinished, fun _ => ⟨hworld, ?_⟩, fun hne => absurd hserial hne⟩
    rw [hworld]
    exact ⟨_, d.records_perform _ s, d.records_perform _ _⟩
  · have hoverlaps : Overlaps order := by
      refine (serial_or_overlaps hthree).resolve_left ?_
      rintro ⟨q, rfl⟩
      have hpq : p = q := by
        rw [List.getLast?_append] at hlast
        exact (Option.some.inj hlast).symm
      exact hserial (by rw [hpq])
    obtain ⟨init, rfl⟩ := List.getLast?_eq_some_iff.mp hlast
    obtain ⟨hfinished, hsaves, hnot⟩ := d.kept_of_overlaps ops s hoverlaps hthree
    exact ⟨hfinished, fun h => absurd h hserial, fun _ => ⟨hsaves, hnot⟩⟩

/-! ### A run that is lost -/

/-- A bot that is due in an hour. -/
def patient : BotRecord :=
  { greeter 60 with id := "b", name := "Bob", nextRun := some (epoch.addSeconds 3600) }

/-- A tick, and a request for the patient bot. -/
def tickAndRequest : Bool → Operation
  | true => .tick epoch
  | false => .runNow "b" epoch

/-- The request loads the bots before the tick does, and saves them after it. -/
def around : List Bool := [false, true, true, true, false, false]

theorem runs_request (i : Nat) :
    (tickAndRequest false).Runs [greeter 60, patient] i ↔ i = 1 := by
  have hfound : BotRecord.findIndex [greeter 60, patient] "b" = .ok 1 := rfl
  show BotRecord.findIndex [greeter 60, patient] "b" = .ok i ↔ i = 1
  rw [hfound]
  exact ⟨fun h => (Except.ok.inj h).symm, fun h => h ▸ rfl⟩

theorem kept_interleaved_around :
    let d := inMemory (.ok ⟨"post-1", "hi"⟩)
    (∀ r, around.count r = 3) ∧ around.getLast? = some false ∧
      (tickAndRequest false).Saves [greeter 60, patient] ∧
      (tickAndRequest false).Records (fun _ => .ok ⟨"post-1", "hi"⟩) [greeter 60, patient]
        (d.interleave tickAndRequest around [greeter 60, patient]).world := by
  intro d
  have hthree : ∀ r, around.count r = 3 := by decide
  have hsaves : (tickAndRequest false).Saves [greeter 60, patient] := ⟨1, (runs_request 1).mpr rfl⟩
  have h := d.kept_interleaved tickAndRequest [greeter 60, patient] hthree rfl
  obtain ⟨told, ⟨before, later, -, -, htold⟩, hrecords⟩ := (h.2.2 (by decide)).1 hsaves
  -- Whatever the world is like, all posts end the same way.
  obtain rfl : told = fun _ => .ok ⟨"post-1", "hi"⟩ := htold
  exact ⟨hthree, rfl, hsaves, hrecords⟩

/-- **A recorded run is lost.**  The tick runs the first bot, and saves that it did; the request,
which is for the second bot, then saves the bots that it loaded before.  So the first bot looks as
if it had not run, and the next tick runs it again. -/
theorem lost_run :
    let d := inMemory (.ok ⟨"post-1", "hi"⟩)
    let c := d.interleave tickAndRequest around [greeter 60, patient]
    (∀ r, c.stage r = .finished) ∧ (tickAndRequest true).Runs [greeter 60, patient] 0 ∧
      c.world[0]? = some (greeter 60) ∧ (greeter 60).lastRun = none ∧
      (Operation.tick (epoch.addSeconds 1)).Runs c.world 0 := by
  intro d c
  have hthree : ∀ r, around.count r = 3 := by decide
  have hoverlaps : Overlaps ([false, true, true, true, false] ++ [false]) :=
    ⟨[false, true], ⟨[true, true, false, false], rfl⟩, by decide⟩
  obtain ⟨hfinished, hsaves, -⟩ := d.kept_of_overlaps tickAndRequest [greeter 60, patient]
    hoverlaps hthree
  obtain ⟨told, -, hrecords⟩ := hsaves ⟨1, (runs_request 1).mpr rfl⟩
  have hfirst : c.world[0]? = some (greeter 60) := hrecords.idle 0 (greeter 60) rfl fun h =>
    absurd ((runs_request 0).mp h) (by decide)
  exact ⟨hfinished, ⟨greeter 60, rfl, rfl⟩, hfirst, rfl, ⟨greeter 60, hfirst, rfl⟩⟩

end Scheduler

end Schedule

end GrammarBots

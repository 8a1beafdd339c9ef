import GrammarBots.Proofs.Schedule.Tick

/-!
# Histories of a store

`last_run_of_history` is about everything that may happen to a store: ticks and runs on request, in
any order, at times that need not go forward, with posts that succeed and posts that fail.  A bot
that has run knows when it last did, and its next run is a schedule after that.  A bot whose script
is no grammar keeps the next run that it had to begin with, so that every tick tries it again.

What carries the proof is the step.  An operation has the dispatch post for the bots that it runs,
if they have a grammar, and for no others (`Operation.mem_asked_iff`), and saves what it was told of
them (`Scheduler.perform_of_saves`).  So an operation that runs a bot makes `BotRecord.afterRun` of
its record, and an operation that does not run it leaves the record alone.
-/

namespace GrammarBots

/-! ### What runs change and what they keep -/

/-- Nothing about the bot has changed but the record of its runs, and its next run only if its
script is a grammar. -/
structure BotRecord.Persists (bot bot' : BotRecord) : Prop where
  /-- All but the record of the runs is the same. -/
  same : bot' = { bot with
    nextRun := bot'.nextRun
    lastRun := bot'.lastRun
    lastError := bot'.lastError }
  /-- Without a grammar, the next run stays where it was. -/
  nextRun : ∀ e, bot.grammar = .error e → bot'.nextRun = bot.nextRun

namespace BotRecord

variable {bot bot' bot'' : BotRecord}

theorem Persists.refl (bot : BotRecord) : bot.Persists bot := ⟨rfl, fun _ _ => rfl⟩

theorem Persists.grammar_eq (h : bot.Persists bot') : bot'.grammar = bot.grammar := by
  rw [h.same]
  rfl

theorem Persists.trans (h : bot.Persists bot') (h' : bot'.Persists bot'') :
    bot.Persists bot'' := by
  constructor
  · rw [h'.same, h.same]
  · intro e he
    rw [h'.nextRun e (h.grammar_eq.trans he), h.nextRun e he]

theorem persists_afterRun (bot : BotRecord) (now : Instant) (posting : Posting) :
    bot.Persists (bot.afterRun now (bot.runEnd posting)) := by
  refine ⟨rfl, fun e he => ?_⟩
  have hend : bot.runEnd posting = .invalidScript := by
    rw [runEnd, he]
  exact if_pos hend

/-- With a grammar, every run moves the bot to its next run, whatever came of the post. -/
theorem nextRun_afterRun {g : Grammar} (hg : bot.grammar = .ok g) (now : Instant)
    (posting : Posting) :
    (bot.afterRun now (bot.runEnd posting)).nextRun = some (bot.nextRunAfter now) := by
  rw [afterRun, runEnd, hg]
  cases posting <;> rfl

/-- A bot is due when it is enabled and its next run, if it has one, is not later. -/
theorem isDue_iff_of_enabled (henabled : bot.disabled = false) {now : Instant} :
    bot.isDue now = true ↔ ∀ next, bot.nextRun = some next → next ≤ now := by
  rw [isDue_iff, SitsOut, henabled]
  simp only [Bool.false_eq_true, false_or, not_exists, not_and, ← Instant.not_le_iff, not_not]

/-- A bot that is found has its place in the store. -/
theorem exists_of_findIndex {bots : List BotRecord} {query : String} {i : Nat}
    (h : findIndex bots query = .ok i) : ∃ bot, bots[i]? = some bot := by
  have hplace : ∀ {p : BotRecord → Bool} {j : Nat}, bots.findIdx? p = some j →
      ∃ bot, bots[j]? = some bot := by
    intro p j hj
    obtain ⟨hlt, _⟩ := List.findIdx?_eq_some_iff_getElem.mp hj
    exact ⟨bots[j], List.getElem?_eq_getElem hlt⟩
  unfold findIndex at h
  cases hid : bots.findIdx? (·.id == query) with
  | some j =>
    rw [hid] at h
    obtain rfl : j = i := Except.ok.inj h
    exact hplace hid
  | none =>
    rw [hid] at h
    cases hname : bots.findIdx? (hasName query) with
    | some j =>
      rw [hname] at h
      obtain rfl : j = i := Except.ok.inj h
      exact hplace hname
    | none =>
      rw [hname] at h
      cases h

end BotRecord

namespace Schedule

variable {σ : Type}

/-! ### Operations -/

/-- What may be asked of a scheduler. -/
inductive Operation where
  /-- To run what is due at the given time. -/
  | tick (now : Instant)
  /-- To run the bot with the given id or name, when the clock shows the given time. -/
  | runNow (query : String) (now : Instant)

namespace Operation

/-- The time of an operation. -/
def time : Operation → Instant
  | tick now => now
  | runNow _ now => now

/-- The operation runs the bot at the given place of the store. -/
def Runs (bots : List BotRecord) (i : Nat) : Operation → Prop
  | tick now => ∃ bot, bots[i]? = some bot ∧ bot.isDue now = true
  | runNow query _ => BotRecord.findIndex bots query = .ok i

theorem runs_tick_iff {bots : List BotRecord} {i : Nat} {bot : BotRecord}
    (hbot : bots[i]? = some bot) {now : Instant} :
    (tick now).Runs bots i ↔ bot.isDue now = true := by
  constructor
  · rintro ⟨bot', hbot', hdue⟩
    rw [hbot] at hbot'
    rw [Option.some.inj hbot']
    exact hdue
  · exact fun hdue => ⟨bot, hbot, hdue⟩

/-- The operation has something to save: a request has to find its bot. -/
def Saves (bots : List BotRecord) : Operation → Prop
  | tick _ => True
  | runNow query _ => ∃ i, BotRecord.findIndex bots query = .ok i

/-- The bots that the operation has the dispatch post for. -/
def asked (bots : List BotRecord) : Operation → List Candidate
  | tick now => candidates bots now
  | runNow query now =>
    match BotRecord.findIndex bots query with
    | .error _ => []
    | .ok i => (bots[i]?.bind fun bot => Candidate.of? bot i now).toList

/-- The bots with the runs of the operation recorded, given what the dispatch tells of each place of
the store. -/
def recorded (bots : List BotRecord) (told : Nat → Posting) : Operation → List BotRecord
  | tick now => botsAfter bots now told
  | runNow query now =>
    match BotRecord.findIndex bots query with
    | .error _ => bots
    | .ok i => bots.modify i fun bot => bot.afterRun now (bot.runEnd (told i))

variable {bots : List BotRecord} {op : Operation} {i : Nat} {bot : BotRecord}

/-- **Whom an operation posts for**: the bots that it runs, if they have a grammar. -/
theorem mem_asked_iff {c : Candidate} :
    c ∈ op.asked bots ↔ bots[c.index]? = some c.bot ∧ op.Runs bots c.index ∧ c.now = op.time ∧
      c.bot.grammar = .ok c.grammar := by
  cases op with
  | tick now =>
    rw [asked, mem_candidates_iff]
    constructor
    · rintro ⟨hbot, hnow, hdue, hgrammar⟩
      exact ⟨hbot, (runs_tick_iff hbot).mpr (BotRecord.isDue_iff.mpr hdue), hnow, hgrammar⟩
    · rintro ⟨hbot, hruns, hnow, hgrammar⟩
      exact ⟨hbot, hnow, BotRecord.isDue_iff.mp ((runs_tick_iff hbot).mp hruns), hgrammar⟩
  | runNow query now =>
    rw [asked, Runs]
    cases hfound : BotRecord.findIndex bots query with
    | error e => simp
    | ok i =>
      dsimp only
      rw [Option.mem_toList, Option.bind_eq_some_iff]
      constructor
      · rintro ⟨bot, hbot, hc⟩
        obtain ⟨rfl, rfl, hnow, hgrammar⟩ := Candidate.of?_eq_some_iff.mp hc
        exact ⟨hbot, rfl, hnow, hgrammar⟩
      · rintro ⟨hbot, hi, hnow, hgrammar⟩
        obtain rfl := Except.ok.inj hi
        exact ⟨c.bot, hbot, Candidate.of?_eq_some_iff.mpr ⟨rfl, rfl, hnow, hgrammar⟩⟩

/-- An operation has no post made for a bot that it does not run. -/
theorem index_ne_of_not_runs (hruns : ¬ op.Runs bots i) : ∀ c ∈ op.asked bots, c.index ≠ i := by
  rintro c hc rfl
  exact hruns (mem_asked_iff.mp hc).2.1

/-- No bot is posted for twice. -/
theorem nodup_asked (op : Operation) (bots : List BotRecord) :
    ((op.asked bots).map (·.index)).Nodup := by
  cases op with
  | tick now => exact nodup_candidates bots now
  | runNow query now =>
    rw [asked]
    cases BotRecord.findIndex bots query with
    | error e => exact List.nodup_nil
    | ok i =>
      dsimp only
      cases bots[i]?.bind fun bot => Candidate.of? bot i now with
      | none => exact List.nodup_nil
      | some c => exact List.nodup_singleton c.index

/-- A bot that is run has its place in the store. -/
theorem exists_of_runs (hruns : op.Runs bots i) : ∃ bot, bots[i]? = some bot := by
  cases op with
  | tick now =>
    obtain ⟨bot, hbot, -⟩ := hruns
    exact ⟨bot, hbot⟩
  | runNow query now => exact BotRecord.exists_of_findIndex hruns

theorem length_recorded (op : Operation) (bots : List BotRecord) (told : Nat → Posting) :
    (op.recorded bots told).length = bots.length := by
  cases op with
  | tick now => exact length_botsAfter bots now told
  | runNow query now =>
    rw [recorded]
    split
    · rfl
    · rw [List.length_modify]

theorem getElem?_recorded_of_runs (told : Nat → Posting) (hbot : bots[i]? = some bot)
    (hruns : op.Runs bots i) :
    (op.recorded bots told)[i]? = some (bot.afterRun op.time (bot.runEnd (told i))) := by
  cases op with
  | tick now =>
    have hdue := (runs_tick_iff hbot).mp hruns
    rw [recorded, getElem?_botsAfter, hbot, Option.map_some, afterTick, if_pos hdue]
    rfl
  | runNow query now =>
    have hfound : BotRecord.findIndex bots query = .ok i := hruns
    rw [recorded, hfound]
    dsimp only
    rw [List.getElem?_modify_eq, hbot]
    rfl

theorem getElem?_recorded_of_not_runs (told : Nat → Posting) (hbot : bots[i]? = some bot)
    (hruns : ¬ op.Runs bots i) : (op.recorded bots told)[i]? = some bot := by
  cases op with
  | tick now =>
    have hdue : ¬ bot.isDue now = true := fun h => hruns ((runs_tick_iff hbot).mpr h)
    rw [recorded, getElem?_botsAfter, hbot, Option.map_some, afterTick, if_neg hdue]
  | runNow query now =>
    rw [recorded]
    cases hfound : BotRecord.findIndex bots query with
    | error e => exact hbot
    | ok j =>
      have hne : j ≠ i := by
        rintro rfl
        exact hruns hfound
      dsimp only
      rw [List.getElem?_modify_ne _ _ hne, hbot]

/-- An operation that has nothing to save runs nothing. -/
theorem not_runs_of_not_saves (h : ¬ op.Saves bots) (i : Nat) : ¬ op.Runs bots i := by
  cases op with
  | tick now => exact absurd trivial h
  | runNow query now => exact fun hruns => h ⟨i, hruns⟩

theorem recorded_of_not_saves (h : ¬ op.Saves bots) (told : Nat → Posting) :
    op.recorded bots told = bots := by
  cases op with
  | tick now => exact absurd trivial h
  | runNow query now =>
    rw [recorded]
    cases hfound : BotRecord.findIndex bots query with
    | error e => rfl
    | ok i => exact absurd ⟨i, hfound⟩ h

end Operation

/-- A scheduler with a store that loads what was saved and is changed by nothing else. -/
structure Scheduler (σ : Type) where
  /-- Where the bots are kept. -/
  store : BotStore (StateM σ)
  /-- How posts are made. -/
  dispatch : Dispatch (StateM σ)
  /-- The bots in the store. -/
  kept : σ → List BotRecord
  /-- Loading succeeds. -/
  load_ok : ∀ s, (store.load.run s).1 = .ok (kept s)
  /-- Loading changes nothing. -/
  kept_load : ∀ s, kept (store.load.run s).2 = kept s
  /-- Posts are none of the store's business. -/
  kept_dispatch : ∀ candidates s, kept ((dispatch candidates).run s).2 = kept s
  /-- Saving succeeds. -/
  save_ok : ∀ bots s, ((store.save bots).run s).1 = .ok ()
  /-- What is saved is kept. -/
  kept_save : ∀ bots s, kept ((store.save bots).run s).2 = bots

namespace Scheduler

/-- The world after an operation. -/
def perform (d : Scheduler σ) : Operation → σ → σ
  | .tick now, s => ((tick d.store d.dispatch now).run s).2
  | .runNow query now, s => ((runNow d.store d.dispatch (pure now) query).run s).2

/-- Runs what the operation has to run of the bots; gives the bots to be saved, if any. -/
def work (d : Scheduler σ) : Operation → List BotRecord → StateM σ (Option (List BotRecord))
  | .tick now, bots => do
    let postings ← d.dispatch (candidates bots now)
    return some (botsAfter bots now postings)
  | .runNow query now, bots =>
    match BotRecord.findIndex bots query with
    | .error _ => return none
    | .ok i =>
      match bots[i]? with
      | none => return none
      | some bot => do
        let (_, bot) ← runBot d.dispatch bot i now
        return some (bots.set i bot)

/-- What the dispatch tells of each place of the store when the operation is performed. -/
def told (d : Scheduler σ) (op : Operation) (s : σ) : Nat → Posting :=
  ((d.dispatch (op.asked (d.kept s))).run (d.store.load.run s).2).1

/-- The world after several operations, first to last. -/
def after (d : Scheduler σ) (ops : List Operation) (s : σ) : σ :=
  ops.foldl (fun s op => d.perform op s) s

/-- None of the operations, first to last, runs the bot at the given place. -/
def Idle (d : Scheduler σ) (i : Nat) : List Operation → σ → Prop
  | [], _ => True
  | op :: ops, s => ¬ op.Runs (d.kept s) i ∧ d.Idle i ops (d.perform op s)

variable (d : Scheduler σ) {s : σ} {op : Operation} {i : Nat} {bot : BotRecord}

/-! ### Steps -/

theorem run_bind {α β : Type} (x : StateM σ α) (f : α → StateM σ β) (s : σ) :
    (x >>= f).run s = (f (x.run s).1).run (x.run s).2 := rfl

theorem run_loadBots (s : σ) :
    (loadBots d.store).run s = (.ok (d.kept s), (d.store.load.run s).2) := by
  rw [loadBots, run_bind, d.load_ok]
  rfl

/-- **Running bots** is posting for those that are asked for and recording what is told of them. -/
theorem run_work_of_saves {bots : List BotRecord} (hsaves : op.Saves bots) (s : σ) :
    (d.work op bots).run s = (some (op.recorded bots ((d.dispatch (op.asked bots)).run s).1),
      ((d.dispatch (op.asked bots)).run s).2) := by
  cases op with
  | tick now => rfl
  | runNow query now =>
    obtain ⟨i, hfound⟩ := hsaves
    obtain ⟨bot, hbot⟩ := BotRecord.exists_of_findIndex hfound
    rw [work, Operation.asked, Operation.recorded, hfound]
    dsimp only
    -- The bot that was found is in its place, so to set its record is to modify it.
    rw [List.modify_eq_set_getElem?, hbot]
    rfl

/-- An operation that has nothing to save does not even ask the dispatch. -/
theorem run_work_of_not_saves {bots : List BotRecord} (hnot : ¬ op.Saves bots) (s : σ) :
    (d.work op bots).run s = (none, s) := by
  cases op with
  | tick now => exact absurd trivial hnot
  | runNow query now =>
    rw [work]
    cases hfound : BotRecord.findIndex bots query with
    | error e => rfl
    | ok i => exact absurd ⟨i, hfound⟩ hnot

/-- An operation loads the bots, runs what it has to run of them, and saves what it has to save. -/
theorem perform_eq (op : Operation) (s : σ) :
    d.perform op s =
      let (bots?, s') := (d.work op (d.kept s)).run (d.store.load.run s).2
      match bots? with
      | some bots => ((d.store.save bots).run s').2
      | none => s' := by
  cases op with
  | tick now =>
    rw [perform, tick, run_bind, run_loadBots]
    rfl
  | runNow query now =>
    rw [perform, runNow, run_bind, run_loadBots, work]
    dsimp only
    cases hfound : BotRecord.findIndex (d.kept s) query with
    | error e => rfl
    | ok i =>
      obtain ⟨bot, hbot⟩ := BotRecord.exists_of_findIndex hfound
      dsimp only
      rw [hbot]
      rfl

theorem perform_of_saves (hsaves : op.Saves (d.kept s)) :
    d.perform op s = ((d.store.save (op.recorded (d.kept s) (d.told op s))).run
      ((d.dispatch (op.asked (d.kept s))).run (d.store.load.run s).2).2).2 := by
  rw [perform_eq, d.run_work_of_saves hsaves]
  rfl

theorem perform_of_not_saves (hnot : ¬ op.Saves (d.kept s)) :
    d.perform op s = (d.store.load.run s).2 := by
  rw [perform_eq, d.run_work_of_not_saves hnot]

/-- **What an operation leaves in the store** is what it loaded, with its own runs recorded. -/
theorem kept_perform (op : Operation) (s : σ) :
    d.kept (d.perform op s) = op.recorded (d.kept s) (d.told op s) := by
  by_cases hsaves : op.Saves (d.kept s)
  · rw [d.perform_of_saves hsaves, d.kept_save]
  · rw [d.perform_of_not_saves hsaves, d.kept_load, Operation.recorded_of_not_saves hsaves]

theorem length_kept_perform (op : Operation) (s : σ) :
    (d.kept (d.perform op s)).length = (d.kept s).length := by
  rw [kept_perform, Operation.length_recorded]

/-- **An operation that runs a bot** writes the end of the run into its record, at the time of the
operation. -/
theorem getElem?_perform_of_runs (hbot : (d.kept s)[i]? = some bot)
    (hruns : op.Runs (d.kept s) i) :
    (d.kept (d.perform op s))[i]?
      = some (bot.afterRun op.time (bot.runEnd (d.told op s i))) := by
  rw [kept_perform, Operation.getElem?_recorded_of_runs _ hbot hruns]

/-- **An operation that does not run a bot** leaves its record alone. -/
theorem getElem?_perform_of_not_runs (hbot : (d.kept s)[i]? = some bot)
    (hruns : ¬ op.Runs (d.kept s) i) : (d.kept (d.perform op s))[i]? = some bot := by
  rw [kept_perform, Operation.getElem?_recorded_of_not_runs _ hbot hruns]

/-! ### Histories -/

theorem after_cons (op : Operation) (ops : List Operation) (s : σ) :
    d.after (op :: ops) s = d.after ops (d.perform op s) := rfl

theorem length_kept_after (ops : List Operation) (s : σ) :
    (d.kept (d.after ops s)).length = (d.kept s).length := by
  induction ops generalizing s with
  | nil => rfl
  | cons op ops ih => rw [after_cons, ih, length_kept_perform]

/-- While no operation runs a bot, its record stays as it is. -/
theorem getElem?_after_of_idle {ops : List Operation} (hidle : d.Idle i ops s)
    (hbot : (d.kept s)[i]? = some bot) : (d.kept (d.after ops s))[i]? = some bot := by
  induction ops generalizing s with
  | nil => exact hbot
  | cons op ops ih => exact ih hidle.2 (d.getElem?_perform_of_not_runs hbot hidle.1)

/-- A bot that some operation runs is run by a last one. -/
theorem exists_last_run {ops : List Operation} (hran : ¬ d.Idle i ops s) :
    ∃ before op later, ops = before ++ op :: later ∧ op.Runs (d.kept (d.after before s)) i ∧
      d.Idle i later (d.after (before ++ [op]) s) := by
  induction ops generalizing s with
  | nil => exact absurd trivial hran
  | cons op ops ih =>
    -- The first operation is the last run only if none of the others runs the bot.
    by_cases hlater : d.Idle i ops (d.perform op s)
    · have hruns : op.Runs (d.kept s) i := not_not.mp fun h => hran ⟨h, hlater⟩
      exact ⟨[], op, ops, rfl, hruns, hlater⟩
    · obtain ⟨before, op', later, rfl, hruns, hidle⟩ := ih hlater
      exact ⟨op :: before, op', later, rfl, hruns, hidle⟩

/-- Whatever happens, a bot is still there, and nothing about it has changed but the record of its
runs. -/
theorem exists_persists (ops : List Operation) (hbot : (d.kept s)[i]? = some bot) :
    ∃ bot', (d.kept (d.after ops s))[i]? = some bot' ∧ bot.Persists bot' := by
  induction ops generalizing s bot with
  | nil => exact ⟨bot, hbot, .refl bot⟩
  | cons op ops ih =>
    by_cases hruns : op.Runs (d.kept s) i
    · obtain ⟨bot', hbot', hpersists⟩ := ih (d.getElem?_perform_of_runs hbot hruns)
      exact ⟨bot', hbot', (bot.persists_afterRun op.time (d.told op s i)).trans hpersists⟩
    · exact ih (d.getElem?_perform_of_not_runs hbot hruns)

/-- A bot that is there now was there before. -/
theorem exists_first {ops : List Operation} (hbot : (d.kept (d.after ops s))[i]? = some bot) :
    ∃ bot₀, (d.kept s)[i]? = some bot₀ ∧ bot₀.Persists bot := by
  have hlt : i < (d.kept s).length := by
    rw [← d.length_kept_after ops s]
    exact (List.getElem?_eq_some_iff.mp hbot).1
  obtain ⟨bot', hbot', hpersists⟩ := d.exists_persists ops (List.getElem?_eq_getElem hlt)
  rw [hbot] at hbot'
  rw [← Option.some.inj hbot'] at hpersists
  exact ⟨_, List.getElem?_eq_getElem hlt, hpersists⟩

theorem after_append (ops ops' : List Operation) (s : σ) :
    d.after (ops ++ ops') s = d.after ops' (d.after ops s) := List.foldl_append

/-- **The last run of a bot with a grammar** has a post made for it, and is the one that the record
of the bot knows of; the next run is a schedule later, whatever came of the post. -/
theorem record_of_last_run {before later : List Operation} {g : Grammar}
    (hruns : op.Runs (d.kept (d.after before s)) i)
    (hidle : d.Idle i later (d.after (before ++ [op]) s))
    (hbot : (d.kept (d.after (before ++ op :: later) s))[i]? = some bot)
    (hg : bot.grammar = .ok g) :
    (∃ bot₁, ⟨i, bot₁, g, op.time⟩ ∈ op.asked (d.kept (d.after before s))) ∧
      bot.lastRun = some op.time ∧ bot.nextRun = some (bot.nextRunAfter op.time) := by
  obtain ⟨bot₁, hbot₁⟩ := Operation.exists_of_runs hruns
  -- The step writes the record, and from there on it stays as it is.
  have hstep := d.getElem?_perform_of_runs hbot₁ hruns
  have hlater := d.getElem?_after_of_idle hidle (by rw [after_append]; exact hstep)
  rw [← after_append, List.append_assoc, List.singleton_append, hbot] at hlater
  obtain rfl := Option.some.inj hlater
  have hg₁ : bot₁.grammar = .ok g := hg
  exact ⟨⟨bot₁, Operation.mem_asked_iff.mpr ⟨hbot₁, hruns, rfl, hg₁⟩⟩, rfl,
    BotRecord.nextRun_afterRun hg₁ op.time _⟩

/-- **A bot in the history of its store.**  If it has a grammar and any operation ran it, it knows
the time of the last of these operations; its next run is a schedule after that, as far as the
calendar reaches, and the next tick to post for it is the first one that does not come before.  If
it has no grammar, every tick that does not come before the next run it had at first runs it again.
Operations have the dispatch post for the bots that they run and that have a grammar, once each, and
save what they are told of them. -/
theorem last_run_of_history (ops : List Operation)
    (hbot : (d.kept (d.after ops s))[i]? = some bot) :
    -- a bot with a grammar that has run
    (∀ g, bot.grammar = .ok g → ¬ d.Idle i ops s →
      ∃ before op later, ops = before ++ op :: later ∧
        op.Runs (d.kept (d.after before s)) i ∧ d.Idle i later (d.after (before ++ [op]) s) ∧
        (∃ bot₁, ⟨i, bot₁, g, op.time⟩ ∈ op.asked (d.kept (d.after before s))) ∧
        bot.lastRun = some op.time ∧
        ∃ next, bot.nextRun = some next ∧
          next.position = (if Instant.last < op.time ∧ bot.schedule = 0 then op.time.position
            else min (op.time.positionAfter bot.schedule) Instant.last.position) ∧
          (∀ now, now < next → ¬ (Operation.tick now).Runs (d.kept (d.after ops s)) i ∧
            ∀ c ∈ candidates (d.kept (d.after ops s)) now, c.index ≠ i) ∧
          (bot.disabled = false → ∀ now, next ≤ now →
            (Operation.tick now).Runs (d.kept (d.after ops s)) i ∧
              ⟨i, bot, g, now⟩ ∈ candidates (d.kept (d.after ops s)) now)) ∧
    -- a bot without a grammar
    (∀ e, bot.grammar = .error e → ∃ bot₀, (d.kept s)[i]? = some bot₀ ∧ bot₀.Persists bot ∧
      bot.nextRun = bot₀.nextRun ∧
      (bot.disabled = false → ∀ now, (Operation.tick now).Runs (d.kept (d.after ops s)) i ↔
        ∀ next, bot₀.nextRun = some next → next ≤ now)) ∧
    -- whom an operation has the dispatch post for, in any state of the store
    (∀ (op : Operation) (s : σ),
      (∀ c, c ∈ op.asked (d.kept s) ↔ (d.kept s)[c.index]? = some c.bot ∧
        op.Runs (d.kept s) c.index ∧ c.now = op.time ∧ c.bot.grammar = .ok c.grammar) ∧
      ((op.asked (d.kept s)).map (·.index)).Nodup) ∧
    -- that it does so, and saves what it is told
    (∀ (op : Operation) (s : σ),
      (op.Saves (d.kept s) →
        d.perform op s = ((d.store.save (op.recorded (d.kept s) (d.told op s))).run
          ((d.dispatch (op.asked (d.kept s))).run (d.store.load.run s).2).2).2) ∧
      (¬ op.Saves (d.kept s) →
        d.perform op s = (d.store.load.run s).2 ∧ ∀ i, ¬ op.Runs (d.kept s) i)) ∧
    -- what it means to be run by an operation, and what it means not to be
    (∀ op : Operation, (op.Runs (d.kept (d.after ops s)) i →
        (d.kept (d.perform op (d.after ops s)))[i]?
          = some (bot.afterRun op.time (bot.runEnd (d.told op (d.after ops s) i)))) ∧
      (¬ op.Runs (d.kept (d.after ops s)) i →
        (d.kept (d.perform op (d.after ops s)))[i]? = some bot)) := by
  refine ⟨?_, ?_, fun op s => ⟨fun c => Operation.mem_asked_iff, Operation.nodup_asked op _⟩,
    fun op s => ⟨d.perform_of_saves, fun hnot => ⟨d.perform_of_not_saves hnot,
      Operation.not_runs_of_not_saves hnot⟩⟩,
    fun op => ⟨d.getElem?_perform_of_runs hbot, d.getElem?_perform_of_not_runs hbot⟩⟩
  · intro g hg hran
    obtain ⟨before, op, later, rfl, hruns, hidle⟩ := d.exists_last_run hran
    obtain ⟨hasked, hlast, hnext⟩ := d.record_of_last_run hruns hidle hbot hg
    refine ⟨before, op, later, rfl, hruns, hidle, hasked, hlast, bot.nextRunAfter op.time, hnext,
      Instant.position_addSeconds op.time bot.schedule, ?_, ?_⟩
    · intro now hbefore
      have hnot : ¬ (Operation.tick now).Runs (d.kept (d.after (before ++ op :: later) s)) i := by
        intro htick
        have hdue := (Operation.runs_tick_iff hbot).mp htick
        exact BotRecord.isDue_iff.mp hdue (Or.inr ⟨_, hnext, hbefore⟩)
      exact ⟨hnot, Operation.index_ne_of_not_runs hnot⟩
    · intro henabled now hafter
      have htick : (Operation.tick now).Runs (d.kept (d.after (before ++ op :: later) s)) i := by
        refine (Operation.runs_tick_iff hbot).mpr
          ((BotRecord.isDue_iff_of_enabled henabled).mpr fun next hsome => ?_)
        rw [hnext] at hsome
        exact Option.some.inj hsome ▸ hafter
      have hasked : ⟨i, bot, g, now⟩ ∈
          (Operation.tick now).asked (d.kept (d.after (before ++ op :: later) s)) :=
        Operation.mem_asked_iff.mpr ⟨hbot, htick, rfl, hg⟩
      exact ⟨htick, hasked⟩
  · intro e he
    obtain ⟨bot₀, hbot₀, hpersists⟩ := d.exists_first hbot
    have hnext := hpersists.nextRun e (hpersists.grammar_eq.symm.trans he)
    refine ⟨bot₀, hbot₀, hpersists, hnext, fun henabled now => ?_⟩
    rw [Operation.runs_tick_iff hbot, BotRecord.isDue_iff_of_enabled henabled, hnext]

/-! ### A store in memory -/

/-- A scheduler with a store in memory, whose posts all end the same way. -/
def inMemory (posting : Posting) : Scheduler (List BotRecord) where
  store := ⟨fun bots => (.ok bots, bots), fun bots _ => (.ok (), bots)⟩
  dispatch _ := pure fun _ => posting
  kept := id
  load_ok _ := rfl
  kept_load _ := rfl
  kept_dispatch _ _ := rfl
  save_ok _ _ := rfl
  kept_save _ _ := rfl

/-- A bot that runs every minute, if no post gets through and someone asks for it half a minute
after its first run: no post is made for it before a minute and a half have passed, and then one
is. -/
theorem last_run_of_history_greeter :
    let d := inMemory (.error (.post (.publish (.transport "no route to host"))))
    let ops : List Operation := [.tick epoch, .runNow "ADA" (epoch.addSeconds 30)]
    ∃ bot g, (d.after ops [greeter 60])[0]? = some bot ∧
      bot.lastRun = some (epoch.addSeconds 30) ∧ bot.nextRun = some (epoch.addSeconds 90) ∧
      (∀ c ∈ candidates (d.after ops [greeter 60]) (epoch.addSeconds 89), c.index ≠ 0) ∧
      ⟨0, bot, g, epoch.addSeconds 90⟩ ∈
        candidates (d.after ops [greeter 60]) (epoch.addSeconds 90) := by
  intro d ops
  obtain ⟨bot, hbot, hpersists⟩ := d.exists_persists (s := [greeter 60]) (i := 0) ops rfl
  obtain ⟨g, hg⟩ := exists_grammar_greeter 60
  have hran : ¬ d.Idle 0 ops [greeter 60] := fun hidle => hidle.1 ⟨greeter 60, rfl, rfl⟩
  have hasked : (Operation.runNow "ADA" (epoch.addSeconds 30)).Runs
      (d.after [.tick epoch] [greeter 60]) 0 := by rfl
  obtain ⟨hrun, -⟩ := d.last_run_of_history ops hbot
  have hg : bot.grammar = .ok g := hpersists.grammar_eq.trans hg
  obtain ⟨before, op, later, hops, -, hidle, -, hlast, next, hnext, hposition, hwaits, hposts⟩ :=
    hrun g hg hran
  rcases before with _ | ⟨first, _ | ⟨second, before⟩⟩
  · -- The tick cannot be the last run, since the request runs the bot as well.
    obtain ⟨rfl, rfl⟩ := List.cons.inj hops
    exact absurd hasked hidle.1
  · obtain ⟨-, hrest⟩ := List.cons.inj hops
    obtain ⟨rfl, rfl⟩ := List.cons.inj hrest
    have hschedule : bot.schedule = 60 := by rw [hpersists.same]; rfl
    rw [hschedule] at hposition
    obtain rfl : next = epoch.addSeconds 90 :=
      Instant.eq_of_position (hposition.trans (by decide))
    have henabled : bot.disabled = false := by rw [hpersists.same]; rfl
    exact ⟨bot, g, hbot, hlast, hnext, (hwaits _ (by decide)).2,
      (hposts henabled _ (by decide)).2⟩
  · obtain ⟨-, hrest⟩ := List.cons.inj hops
    obtain ⟨-, hnil⟩ := List.cons.inj hrest
    exact absurd hnil.symm (List.append_ne_nil_of_right_ne_nil _ (List.cons_ne_nil _ _))

/-- An instant within a leap second at the end of the calendar. -/
def beyond : Instant := { Instant.last with nanos := 1500000000, nanos_lt := by decide }

/-- A bot that runs all the time does not wait for the last instant but for a later one, and sits
out a tick at the last instant, so that no post is made for it. -/
theorem next_run_beyond_last :
    let d := inMemory (.ok ⟨"post-1", "hi"⟩)
    let bots := d.after [.tick beyond] [greeter 0]
    ∃ bot next, bots[0]? = some bot ∧ (∃ g, bot.grammar = .ok g) ∧ bot.disabled = false ∧
      bot.lastRun = some beyond ∧ bot.nextRun = some next ∧
      next.position ≠ min (beyond.positionAfter bot.schedule) Instant.last.position ∧
      ¬ (Operation.tick .last).Runs bots 0 ∧ ∀ c ∈ candidates bots .last, c.index ≠ 0 := by
  intro d bots
  obtain ⟨bot, hbot, hpersists⟩ := d.exists_persists (s := [greeter 0]) (i := 0) [.tick beyond] rfl
  obtain ⟨g, hg⟩ := exists_grammar_greeter 0
  have hg : bot.grammar = .ok g := hpersists.grammar_eq.trans hg
  have hruns : (Operation.tick beyond).Runs (d.kept (d.after [] [greeter 0])) 0 :=
    ⟨greeter 0, rfl, rfl⟩
  have hidle : d.Idle 0 [] (d.after ([] ++ [.tick beyond]) [greeter 0]) := trivial
  obtain ⟨-, hlast, hnext⟩ := d.record_of_last_run hruns hidle hbot hg
  have hschedule : bot.schedule = 0 := by rw [hpersists.same]; rfl
  have hdisabled : bot.disabled = false := by rw [hpersists.same]; rfl
  rw [BotRecord.nextRunAfter, hschedule] at hnext
  have hnot : ¬ (Operation.tick .last).Runs bots 0 := by
    intro hruns
    have hdue := (Operation.runs_tick_iff hbot).mp hruns
    exact absurd ((BotRecord.isDue_iff_of_enabled hdisabled).mp hdue _ hnext) (by decide)
  refine ⟨bot, _, hbot, ⟨g, hg⟩, hdisabled, hlast, hnext, ?_, hnot,
    Operation.index_ne_of_not_runs hnot⟩
  rw [hschedule]
  decide

end Scheduler

end Schedule

end GrammarBots

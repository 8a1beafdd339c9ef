import GrammarBots.Proofs.Schedule.Dispatch
import GrammarBots.Proofs.Time.Order
import Mathlib.Data.List.Permutation

/-!
# What a tick leaves behind

`tick_bookkeeping` says what a tick does to the world and to the records of the bots.  It loads; if
that fails, that is all.  Otherwise it posts for the bots that are due and have a grammar, and saves
once, all bots in their places.  `Recorded` lists what may become of a record, and which end of a
run goes into the report; it looks at the bot itself and at what came of its own post, so neither
the other bots nor the order in which their posts go on make a difference.
-/

namespace GrammarBots

/-! ### A single bot -/

/-- The bot sits out a tick at the given time: it is disabled, or its next run is later. -/
def BotRecord.SitsOut (bot : BotRecord) (now : Instant) : Prop :=
  bot.disabled = true ∨ ∃ next, bot.nextRun = some next ∧ now < next

theorem BotRecord.isDue_iff {bot : BotRecord} {now : Instant} :
    bot.isDue now = true ↔ ¬ bot.SitsOut now := by
  rw [isDue, SitsOut, not_or, Bool.and_eq_true, Bool.not_eq_true', Bool.not_eq_true]
  refine and_congr_right fun _ => ?_
  cases bot.nextRun with
  | none => simp
  | some next =>
    rw [Option.all_some, Instant.notAfter_iff]
    simp only [Option.some.injEq, exists_eq_left', ← Instant.not_le_iff, not_not]

/-- A bot comes to posting with the grammar of its script, if there is one. -/
theorem Candidate.of?_eq_some_iff {bot : BotRecord} {i : Nat} {now : Instant} {c : Candidate} :
    of? bot i now = some c ↔
      c.index = i ∧ c.bot = bot ∧ c.now = now ∧ bot.grammar = .ok c.grammar := by
  rw [of?, Option.map_eq_some_iff]
  constructor
  · rintro ⟨g, hg, rfl⟩
    refine ⟨rfl, rfl, rfl, ?_⟩
    cases hgrammar : bot.grammar with
    | error e =>
      rw [hgrammar] at hg
      cases hg
    | ok g' =>
      rw [hgrammar] at hg
      rw [Option.some.inj hg]
  · rintro ⟨rfl, rfl, rfl, hgrammar⟩
    exact ⟨c.grammar, by rw [hgrammar]; rfl, rfl⟩

namespace Schedule

/-- What becomes of a bot in a tick at the given time: the end of its run, if it runs, and its
record.  `posting` is what comes of its post, if it comes to that. -/
inductive Recorded (now : Instant) (bot : BotRecord) (posting : Posting) :
    Option RunEnd → BotRecord → Prop where
  /-- A bot that sits out stays as it is. -/
  | satOut (h : bot.SitsOut now) : Recorded now bot posting none bot
  /-- A bot whose script is no grammar stays due. -/
  | invalidScript {e : GrammarError} (hdue : ¬ bot.SitsOut now) (hscript : bot.grammar = .error e) :
    Recorded now bot posting (some .invalidScript)
      { bot with
        lastRun := some now
        lastError := some "Error parsing script. Please check the JSON source." }
  /-- A bot that posted has no error. -/
  | posted {g : Grammar} {receipt : Receipt} (hdue : ¬ bot.SitsOut now)
      (hscript : bot.grammar = .ok g) (hposting : posting = .ok receipt) :
    Recorded now bot posting (some (.posted receipt))
      { bot with
        lastRun := some now
        lastError := none
        nextRun := some (bot.nextRunAfter now) }
  /-- A bot that did not post notes why, and waits for its next run like the others. -/
  | failed {g : Grammar} {e : PostingError} (hdue : ¬ bot.SitsOut now)
      (hscript : bot.grammar = .ok g) (hposting : posting = .error e) :
    Recorded now bot posting (some (.failed e))
      { bot with
        lastRun := some now
        lastError := some
          ("Error posting with error code: " ++ e.code ++ " | Error message: " ++ e.detail)
        nextRun := some (bot.nextRunAfter now) }

/-- The end of the run of a bot in a tick, if it runs. -/
def endOf (now : Instant) (posting : Posting) (bot : BotRecord) : Option RunEnd :=
  if bot.isDue now then some (bot.runEnd posting) else none

theorem recorded_afterTick (now : Instant) (posting : Posting) (bot : BotRecord) :
    Recorded now bot posting (endOf now posting bot) (afterTick now posting bot) := by
  unfold endOf afterTick
  by_cases hdue : bot.isDue now
  · rw [if_pos hdue, if_pos hdue]
    rw [BotRecord.isDue_iff] at hdue
    unfold BotRecord.runEnd BotRecord.afterRun
    cases hscript : bot.grammar with
    | error e => exact .invalidScript hdue hscript
    | ok g =>
      cases hposting : posting with
      | error e => exact .failed hdue hscript rfl
      | ok receipt => exact .posted hdue hscript rfl
  · rw [if_neg hdue, if_neg hdue]
    exact .satOut (not_not.mp fun h => hdue (BotRecord.isDue_iff.mpr h))

/-! ### The bots that come to posting -/

/-- The bots that come to posting are those that do not sit out and have a grammar. -/
theorem mem_candidates_iff {bots : List BotRecord} {now : Instant} {c : Candidate} :
    c ∈ candidates bots now ↔
      bots[c.index]? = some c.bot ∧ c.now = now ∧ ¬ c.bot.SitsOut now ∧
        c.bot.grammar = .ok c.grammar := by
  rw [candidates, List.mem_filterMap]
  constructor
  · rintro ⟨⟨bot, i⟩, hmem, hc⟩
    rw [List.mem_filter, placed, List.mem_zipIdx_iff_getElem?, BotRecord.isDue_iff] at hmem
    obtain ⟨rfl, rfl, hnow, hgrammar⟩ := Candidate.of?_eq_some_iff.mp hc
    exact ⟨hmem.1, hnow, hmem.2, hgrammar⟩
  · rintro ⟨hbot, hnow, hdue, hgrammar⟩
    refine ⟨(c.bot, c.index), ?_, Candidate.of?_eq_some_iff.mpr ⟨rfl, rfl, hnow, hgrammar⟩⟩
    rw [List.mem_filter, placed, List.mem_zipIdx_iff_getElem?]
    exact ⟨hbot, BotRecord.isDue_iff.mpr hdue⟩

/-- While they post, their last run is this one, and no error is known of it. -/
theorem started_of_mem_candidates {bots : List BotRecord} {now : Instant} {c : Candidate}
    (hc : c ∈ candidates bots now) :
    c.started = { c.bot with lastRun := some now, lastError := none } := by
  obtain ⟨-, hnow, -⟩ := mem_candidates_iff.mp hc
  rw [Candidate.started, hnow]

/-- They come in the order of the store. -/
theorem pairwise_candidates (bots : List BotRecord) (now : Instant) :
    (candidates bots now).Pairwise fun c c' => c.index < c'.index := by
  have hplaced : (placed bots).Pairwise fun entry entry' => entry.2 < entry'.2 := by
    rw [← List.pairwise_map, placed, List.zipIdx_map_snd]
    exact List.pairwise_lt_range'
  refine (hplaced.filter _).filterMap _ ?_
  intro entry entry' hlt c hc c' hc'
  rw [(Candidate.of?_eq_some_iff.mp hc).1, (Candidate.of?_eq_some_iff.mp hc').1]
  exact hlt

theorem nodup_candidates (bots : List BotRecord) (now : Instant) :
    ((candidates bots now).map (·.index)).Nodup :=
  List.pairwise_map.mpr ((pairwise_candidates bots now).imp fun h => Nat.ne_of_lt h)

/-! ### All bots -/

theorem getElem?_botsAfter (bots : List BotRecord) (now : Instant) (postings : Nat → Posting)
    (i : Nat) :
    (botsAfter bots now postings)[i]? = bots[i]?.map (afterTick now (postings i)) := by
  rw [botsAfter, placed, List.getElem?_map, List.getElem?_zipIdx, Option.map_map, Nat.zero_add]
  rfl

theorem length_botsAfter (bots : List BotRecord) (now : Instant) (postings : Nat → Posting) :
    (botsAfter bots now postings).length = bots.length := by
  rw [botsAfter, placed, List.length_map, List.length_zipIdx]

/-- Only the postings of the bots that come to posting matter. -/
theorem afterTick_congr {bots : List BotRecord} {now : Instant} {postings postings' : Nat → Posting}
    (h : ∀ c ∈ candidates bots now, postings c.index = postings' c.index) :
    botsAfter bots now postings = botsAfter bots now postings' ∧
      report bots now postings = report bots now postings' := by
  have hend : ∀ entry ∈ placed bots, entry.1.isDue now = true →
      entry.1.runEnd (postings entry.2) = entry.1.runEnd (postings' entry.2) := by
    rintro ⟨bot, i⟩ hentry hdue
    rw [placed, List.mem_zipIdx_iff_getElem?] at hentry
    unfold BotRecord.runEnd
    cases hgrammar : bot.grammar with
    | error e => rfl
    | ok g =>
      have := h ⟨i, bot, g, now⟩
        (mem_candidates_iff.mpr ⟨hentry, rfl, BotRecord.isDue_iff.mp hdue, hgrammar⟩)
      dsimp only at this ⊢
      rw [this]
  -- The posting of a bot is looked at only if the bot is due and has a grammar.
  constructor
  · refine List.map_congr_left fun entry hentry => ?_
    show afterTick now (postings entry.2) entry.1 = afterTick now (postings' entry.2) entry.1
    unfold afterTick
    by_cases hdue : entry.1.isDue now = true
    · rw [if_pos hdue, if_pos hdue, hend entry hentry hdue]
    · rw [if_neg hdue, if_neg hdue]
  · unfold report
    refine congrArg (fun ran => (⟨ran, _⟩ : TickReport))
      (List.map_congr_left fun entry hentry => ?_)
    obtain ⟨hentry, hdue⟩ := List.mem_filter.mp hentry
    exact congrArg (entry.1.id, ·) (hend entry hentry hdue)

/-- The report lists the bots that ran, with the ends of their runs, in the order of the store. -/
theorem ran_report (bots : List BotRecord) (now : Instant) (postings : Nat → Posting) :
    (report bots now postings).ran = bots.zipIdx.filterMap fun (bot, i) =>
      (endOf now (postings i) bot).map (bot.id, ·) := by
  rw [report, placed, ← List.filterMap_eq_map, List.filterMap_filter]
  refine List.filterMap_congr fun entry _ => ?_
  dsimp only [endOf]
  split_ifs <;> rfl

/-- It lists all others by their ids, in the order of the store. -/
theorem skipped_report (bots : List BotRecord) (now : Instant) (postings : Nat → Posting) :
    (report bots now postings).skipped = (bots.zipIdx.filter fun (bot, i) =>
      (endOf now (postings i) bot).isNone).map fun (bot, _) => bot.id := by
  have hends : (fun entry : BotRecord × Nat => (endOf now (postings entry.2) entry.1).isNone)
      = (fun bot : BotRecord => !bot.isDue now) ∘ Prod.fst := by
    funext entry
    rw [endOf, Function.comp_apply]
    cases entry.1.isDue now <;> rfl
  have hbots : bots.zipIdx.map Prod.fst = bots := List.zipIdx_map_fst 0 bots
  rw [report]
  conv_lhs => rw [← hbots]
  rw [List.filter_map, List.map_map, ← hends]
  rfl

/-! ### Ticks -/

theorem tick_eq {m : Type → Type} [Monad m] [LawfulMonad m] (store : BotStore m)
    (dispatch : Dispatch m) (now : Instant) :
    tick store dispatch now = (do
      match ← store.load with
      | .error f => return .error (f.within "Failed to load bots")
      | .ok bots =>
        let postings ← dispatch (candidates bots now)
        match ← store.save (botsAfter bots now postings) with
        | .error f => return .error (f.within "Failed to save bots")
        | .ok () => return .ok (report bots now postings)) := by
  rw [tick, loadBots, bind_assoc]
  refine bind_congr fun loaded => ?_
  rw [pure_bind]
  cases loaded with
  | error f => rfl
  | ok bots =>
    refine bind_congr fun postings => ?_
    rw [saveBots, bind_assoc]
    refine bind_congr fun saved => ?_
    rw [pure_bind]
    cases saved <;> rfl

/-- **The books of a tick.**  Nothing happens but what the bots that come to posting have their
sessions do; all bots are saved once, each in its place and with a record of its own run, in
whatever order the posts go on. -/
theorem tick_bookkeeping (now : Instant) :
    -- what becomes of one bot, given what comes of its own post
    (∀ posting bot, Recorded now bot posting (endOf now posting bot) (afterTick now posting bot)) ∧
    -- what becomes of all bots
    (∀ bots postings, (botsAfter bots now postings).length = bots.length ∧
      (∀ i, (botsAfter bots now postings)[i]? = bots[i]?.map (afterTick now (postings i))) ∧
      (report bots now postings).ran = (bots.zipIdx.filterMap fun (bot, i) =>
        (endOf now (postings i) bot).map (bot.id, ·)) ∧
      (report bots now postings).skipped = (bots.zipIdx.filter fun (bot, i) =>
        (endOf now (postings i) bot).isNone).map fun (bot, _) => bot.id) ∧
    -- the bots that come to posting, and their records while they post; nobody else's posting makes
    -- a difference
    (∀ bots, (∀ c, c ∈ candidates bots now ↔
        bots[c.index]? = some c.bot ∧ c.now = now ∧ ¬ c.bot.SitsOut now ∧
          c.bot.grammar = .ok c.grammar) ∧
      (∀ c ∈ candidates bots now,
        c.started = { c.bot with lastRun := some now, lastError := none }) ∧
      ((candidates bots now).Pairwise fun c c' => c.index < c'.index) ∧
      ∀ postings postings', (∀ c ∈ candidates bots now, postings c.index = postings' c.index) →
        botsAfter bots now postings = botsAfter bots now postings' ∧
          report bots now postings = report bots now postings') ∧
    -- what a tick does
    (∀ (m : Type → Type) [Monad m] [LawfulMonad m] (store : BotStore m) (dispatch : Dispatch m),
      tick store dispatch now = do
        match ← store.load with
        | .error f => return .error (f.within "Failed to load bots")
        | .ok bots =>
          let postings ← dispatch (candidates bots now)
          match ← store.save (botsAfter bots now postings) with
          | .error f => return .error (f.within "Failed to save bots")
          | .ok () => return .ok (report bots now postings)) ∧
    -- posts one after the other: each bot's own session and post are told at its place
    (∀ (m : Type → Type) [Monad m] [LawfulMonad m] (γ : Type) [Chooser γ]
      (session : BotRecord → m (Except Failure (Session m γ))) bots,
      Dispatch.oneByOne session (candidates bots now) = (candidates bots now).foldr
        (fun c rest => do
          let posting ← Dispatch.postFor session c
          let told ← rest
          return Function.update told c.index posting)
        (pure (Dispatch.lookUp []))) ∧
    -- posts side by side, in any order: the same
    (∀ (σ γ : Type) [Chooser γ] (order : List (Dispatch.PostJob σ) → List Event),
      (∀ jobs, (order jobs).Perm (Timeline.allEvents jobs)) →
      ∀ (session : BotRecord → Except Failure (Dispatch.TimedSession σ γ)) bots,
        (∀ s, ∀ c ∈ candidates bots now, Dispatch.Outcome session c
          (((Dispatch.inOrder order session (candidates bots now)).run s).1 c.index)) ∧
        ∀ session', (∀ c ∈ candidates bots now, session c.started = session' c.started) →
          Dispatch.inOrder order session (candidates bots now)
            = Dispatch.inOrder order session' (candidates bots now)) ∧
    -- the order of time is one of these orders
    (∀ σ : Type, ∃ order : List (Dispatch.PostJob σ) → List Event,
      (∀ jobs, (order jobs).Perm (Timeline.allEvents jobs)) ∧
      ∀ (γ : Type) [Chooser γ]
        (session : BotRecord → Except Failure (Dispatch.TimedSession σ γ)),
        Dispatch.sideBySide session = Dispatch.inOrder order session) := by
  refine ⟨recorded_afterTick now, ?_, ?_, fun m _ _ store dispatch => tick_eq store dispatch now,
    ?_, ?_, ?_⟩
  · intro bots postings
    exact ⟨length_botsAfter bots now postings, getElem?_botsAfter bots now postings,
      ran_report bots now postings, skipped_report bots now postings⟩
  · intro bots
    exact ⟨fun c => mem_candidates_iff, fun c => started_of_mem_candidates,
      pairwise_candidates bots now,
      fun postings postings' h => afterTick_congr h⟩
  · intro m _ _ γ _ session bots
    exact Dispatch.oneByOne_eq (candidates bots now)
  · intro σ γ _ order horder session bots
    exact ⟨fun s => Dispatch.outcome_inOrder horder session (nodup_candidates bots now) s,
      fun session' h => Dispatch.inOrder_congr h⟩
  · intro σ
    exact ⟨Timeline.events, Timeline.events_perm, fun γ _ => Dispatch.sideBySide_eq_inOrder⟩

/-! ### A bot to look at -/

/-- A bot that greets. -/
def greeter (schedule : Nat) : BotRecord where
  id := "a"
  name := "Ada"
  schedule := schedule
  script := "\x7b\"origin\": \"hi\"\x7d"

theorem exists_grammar_greeter (schedule : Nat) : ∃ g, (greeter schedule).grammar = .ok g := by
  have hsome : (Grammar.ofScript "\x7b\"origin\": \"hi\"\x7d").toOption.isSome = true := by cbv
  cases hg : Grammar.ofScript "\x7b\"origin\": \"hi\"\x7d" with
  | ok g => exact ⟨g, hg⟩
  | error e =>
    rw [hg] at hsome
    cases hsome

/-- The first instant of 1970. -/
def epoch : Instant := ⟨0, 0, by decide, by decide, by decide⟩

/-- A tick with two bots of which one is disabled, if no session can be begun and everything that
happens happens last thing first. -/
theorem tick_bookkeeping_backwards :
    let bots := [{ greeter 60 with disabled := true }, greeter 60]
    let session : BotRecord → Except Failure (Dispatch.TimedSession Unit Generator) :=
      fun _ => .error (.ofCause (.message "no account"))
    let order : List (Dispatch.PostJob Unit) → List Event :=
      fun jobs => (Timeline.events jobs).reverse
    ((Dispatch.inOrder order session (candidates bots epoch)).run ()).1 1
      = .error (.session (.ofCause (.message "no account"))) := by
  intro bots session order
  obtain ⟨-, -, hcandidates, -, -, hside, -⟩ := tick_bookkeeping epoch
  obtain ⟨g, hg⟩ := exists_grammar_greeter 60
  have hdue : ¬ (greeter 60).SitsOut epoch := by
    rintro (hdisabled | ⟨next, hnext, -⟩)
    · cases hdisabled
    · cases hnext
  have hmem : ⟨1, greeter 60, g, epoch⟩ ∈ candidates bots epoch :=
    ((hcandidates bots).1 ⟨1, greeter 60, g, epoch⟩).mpr ⟨rfl, rfl, hdue, hg⟩
  have horder : ∀ jobs, (order jobs).Perm (Timeline.allEvents jobs) := fun jobs =>
    (List.reverse_perm _).trans (Timeline.events_perm jobs)
  have houtcome := (hside Unit Generator order horder session bots).1 () _ hmem
  dsimp only at houtcome
  generalize ((Dispatch.inOrder order session (candidates bots epoch)).run ()).1 1 = posting
    at houtcome
  cases houtcome with
  | session h => rw [Except.error.inj h]
  | grammar h => cases h
  | publish h => cases h

end Schedule

end GrammarBots

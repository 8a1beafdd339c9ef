import GrammarBots.Proofs.Post.Rendering
import Mathlib.Data.List.Forall2

/-!
# What a dispatch tells of each bot

A dispatch posts for several bots and tells what came of each place of the store.  Whether it
finishes one post before the next (`oneByOne_eq`) or carries them out side by side, with the
fetches, uploads and publications of all bots in any order (`outcome_inOrder`), what it tells of a
bot is an outcome of that bot's own session and of its own post, and no session but those of the
bots given is looked at (`inOrder_congr`).
-/

namespace GrammarBots

variable {σ β γ : Type}

/-! ### Results of posts that are carried out together -/

/-- The result may come of the work: it is that of completing it with some post of its text, in some
state of the world. -/
def Job.MayEnd (j : Job σ β) (r : β) : Prop :=
  ∃ post s, post.text = j.draft.text ∧ r = (j.complete post s).1

namespace Timeline

variable {jobs : List (Job σ β)} {n : Nat} {j : Job σ β}

/-- What happens to all posts, in no order of time. -/
def allEvents (jobs : List (Job σ β)) : List Event :=
  jobs.zipIdx.flatMap fun (j, number) => j.events number

/-- The order of time is one of the orders of what happens. -/
theorem events_perm (jobs : List (Job σ β)) : (events jobs).Perm (allEvents jobs) :=
  List.mergeSort_perm _ _

theorem completion_mem_allEvents (hj : jobs[n]? = some j) : j.completion n ∈ allEvents jobs :=
  List.mem_flatMap.mpr ⟨(j, n), List.mem_zipIdx_iff_getElem?.mpr hj,
    List.mem_append_right _ (List.mem_singleton_self _)⟩

/-- An event completes a post, or leaves its result as it was. -/
theorem lookup_results_step (hj : jobs[n]? = some j) (p : Progress σ β) (e : Event) :
    (∃ r, j.MayEnd r ∧ (step jobs p e).results.lookup n = some r) ∨
      e ≠ j.completion n ∧ (step jobs p e).results.lookup n = p.results.lookup n := by
  by_cases hcomplete : e.act = .complete
  · by_cases hjob : e.job = n
    · left
      unfold step
      rw [hjob, hj, hcomplete]
      exact ⟨_, ⟨⟨j.draft.text, _⟩, _, rfl, rfl⟩, List.lookup_cons_self⟩
    · right
      refine ⟨fun h => hjob (h ▸ rfl), ?_⟩
      have hne : (n == e.job) = false := beq_eq_false_iff_ne.mpr (Ne.symm hjob)
      unfold step
      rw [hcomplete]
      cases jobs[e.job]? with
      | none => rfl
      | some j' =>
        dsimp only
        rw [List.lookup_cons, hne]
  · right
    refine ⟨fun h => hcomplete (h ▸ rfl), ?_⟩
    unfold step
    cases jobs[e.job]? with
    | none => rfl
    | some j' =>
      cases hact : e.act with
      | complete => exact absurd hact hcomplete
      | fetch url => rfl
      | upload i payload mime =>
        dsimp only
        cases (j'.world.upload payload mime p.world).1 <;> rfl

/-- Once it is complete, a post has a result that may come of it. -/
theorem exists_result (hj : jobs[n]? = some j) (s : σ) {order : List Event}
    (hmem : j.completion n ∈ order) :
    ∃ r, j.MayEnd r ∧ (progressIn order jobs s).results.lookup n = some r := by
  -- The latest event counts: what it leaves alone, the events before it have settled.
  induction order using List.reverseRecOn with
  | nil => cases hmem
  | append_singleton order e ih =>
    rw [progressIn, List.foldl_append]
    rcases lookup_results_step hj (progressIn order jobs s) e with hresult | ⟨hne, hsame⟩
    · exact hresult
    · have hbefore : j.completion n ∈ order :=
        (List.mem_append.mp hmem).resolve_right fun h => hne (List.mem_singleton.mp h).symm
      obtain ⟨r, hr, hlookup⟩ := ih hbefore
      exact ⟨r, hr, hsame.trans hlookup⟩

/-- **In whatever order things happen**, every post has a result, in its place, that may come of
it. -/
theorem forall₂_runIn {order : List Event} (horder : order.Perm (allEvents jobs)) (s : σ) :
    List.Forall₂ Job.MayEnd jobs (runIn order jobs s).1 := by
  have hplaces : List.range jobs.length = jobs.zipIdx.map Prod.snd := by
    rw [List.zipIdx_map_snd, List.range_eq_range']
  have hresult : ∀ entry ∈ jobs.zipIdx, ∃ r, entry.1.MayEnd r ∧
      (progressIn order jobs s).results.lookup entry.2 = some r := by
    intro entry hentry
    have hj := List.mem_zipIdx_iff_getElem?.mp hentry
    exact exists_result hj s (horder.mem_iff.mpr (completion_mem_allEvents hj))
  rw [runIn, hplaces, List.filterMap_map]
  -- No place is left out of the results, so they line up with the posts.
  have hentries : List.Forall₂ (fun entry r => entry.1.MayEnd r) jobs.zipIdx
      (jobs.zipIdx.filterMap fun entry => (progressIn order jobs s).results.lookup entry.2) := by
    generalize jobs.zipIdx = entries at hresult
    induction entries with
    | nil => exact .nil
    | cons entry entries ih =>
      rw [List.forall_mem_cons] at hresult
      obtain ⟨⟨r, hr, hlookup⟩, hresult⟩ := hresult
      rw [List.filterMap_cons, hlookup]
      exact .cons hr (ih hresult)
  rw [← List.forall₂_map_left_iff (f := Prod.fst), List.zipIdx_map_fst] at hentries
  exact hentries

end Timeline

namespace Dispatch

theorem lookUp_cons (told : Nat × Posting) (rest : List (Nat × Posting)) (i : Nat) :
    lookUp (told :: rest) i = if i = told.1 then told.2 else lookUp rest i := by
  rw [lookUp, lookUp, List.lookup_cons]
  by_cases hi : i = told.1
  · rw [if_pos hi, beq_iff_eq.mpr hi, Option.getD_some]
  · rw [if_neg hi, beq_eq_false_iff_ne.mpr hi]

/-- What is told of the bots at different places is found at these places. -/
theorem forall_lookUp {own : Candidate → Posting → Prop} {candidates : List Candidate}
    {told : List (Nat × Posting)}
    (htold : List.Forall₂ (fun c told => told.1 = c.index ∧ own c told.2) candidates told)
    (hnodup : (candidates.map (·.index)).Nodup) :
    ∀ c ∈ candidates, own c (lookUp told c.index) := by
  induction htold with
  | nil => exact fun c hc => nomatch hc
  | @cons first told candidates rest hfirst _ ih =>
    rw [List.map_cons, List.nodup_cons] at hnodup
    intro c hc
    rw [lookUp_cons]
    rcases List.mem_cons.mp hc with rfl | hc
    · rw [if_pos hfirst.1.symm]
      exact hfirst.2
    · have hne : c.index ≠ told.1 := fun h =>
        hnodup.1 (List.mem_map.mpr ⟨c, hc, h.trans hfirst.1⟩)
      rw [if_neg hne]
      exact ih hnodup.2 c hc

/-! ### Side by side -/

variable [Chooser γ]

/-- Posts for all bots at the same time, if what happens to their posts happens in the given
order. -/
def inOrder (order : List (PostJob σ) → List Event)
    (session : BotRecord → Except Failure (TimedSession σ γ)) :
    Dispatch (StateM σ) := fun candidates => do
  let begun := beginAll session candidates
  let results ← modifyGet (Timeline.runIn (order (jobs begun)) (jobs begun))
  return lookUp (postings begun results)

/-- Posts that are made side by side are made in the order of time. -/
theorem sideBySide_eq_inOrder (session : BotRecord → Except Failure (TimedSession σ γ)) :
    sideBySide session = inOrder Timeline.events session := rfl

/-- What may come of a bot's own session and of its own post. -/
inductive Outcome (session : BotRecord → Except Failure (TimedSession σ γ)) (c : Candidate) :
    Posting → Prop where
  /-- The session cannot be begun. -/
  | session {f : Failure} (h : session c.started = .error f) :
      Outcome session c (.error (.session f))
  /-- The text cannot be expanded. -/
  | grammar {s : TimedSession σ γ} {e : GrammarError} (h : session c.started = .ok s)
      (he : (c.grammar.draft s.chance).1 = .error e) :
      Outcome session c (.error (.post (.grammar e)))
  /-- The service of the session answers to the post. -/
  | publish {s : TimedSession σ γ} {draft : Draft} (h : session c.started = .ok s)
      (hdraft : (c.grammar.draft s.chance).1 = .ok draft) (post : Post)
      (htext : post.text = draft.text) (world : σ) :
      Outcome session c ((s.publish post world).1.mapError (.post ∘ .publish))

/-- What may come of a post that has begun, or could not begin. -/
def MayTell : Except PostingError (PostJob σ) → Posting → Prop
  | .error e, posting => posting = .error e
  | .ok j, posting => ∃ r, j.MayEnd r ∧ posting = r.mapError (.post ∘ .publish)

theorem outcome_of_mayTell_begin {session : BotRecord → Except Failure (TimedSession σ γ)}
    {c : Candidate} {posting : Posting} (h : MayTell (begin session c) posting) :
    Outcome session c posting := by
  unfold begin at h
  cases hsession : session c.started with
  | error f =>
    rw [hsession] at h
    obtain rfl : posting = .error (.session f) := h
    exact .session hsession
  | ok s =>
    rw [hsession] at h
    dsimp only [Job.ofGrammar] at h
    cases hdraft : (c.grammar.draft s.chance).1 with
    | error e =>
      rw [hdraft] at h
      obtain rfl : posting = .error (.post (.grammar e)) := h
      exact .grammar hsession hdraft
    | ok draft =>
      rw [hdraft] at h
      obtain ⟨_, ⟨post, world, htext, rfl⟩, rfl⟩ := h
      exact .publish hsession hdraft post htext world

/-- The results find their way back to the places that they belong to. -/
theorem forall₂_postings {begun : Begun σ} {results : List (Except PublishError Receipt)}
    (h : List.Forall₂ Job.MayEnd (jobs begun) results) :
    List.Forall₂ (fun entry told => told.1 = entry.1 ∧ MayTell entry.2 told.2) begun
      (postings begun results) := by
  induction begun generalizing results with
  | nil =>
    cases h
    exact .nil
  | cons entry begun ih =>
    obtain ⟨i, started⟩ := entry
    cases started with
    | error e =>
      rw [postings]
      exact .cons ⟨rfl, rfl⟩ (ih h)
    | ok j =>
      obtain ⟨result, results, hresult, hresults, rfl⟩ :=
        List.forall₂_cons_left_iff.mp (show List.Forall₂ Job.MayEnd (j :: jobs begun) _ from h)
      rw [postings]
      exact .cons ⟨rfl, result, hresult, rfl⟩ (ih hresults)

/-- **Side by side, in any order**, what is told of a bot may come of its own session and post. -/
theorem outcome_inOrder {order : List (PostJob σ) → List Event}
    (horder : ∀ jobs, (order jobs).Perm (Timeline.allEvents jobs))
    (session : BotRecord → Except Failure (TimedSession σ γ)) {candidates : List Candidate}
    (hnodup : (candidates.map (·.index)).Nodup) (s : σ) :
    ∀ c ∈ candidates, Outcome session c (((inOrder order session candidates).run s).1 c.index) := by
  have hresults := Timeline.forall₂_runIn (horder (jobs (beginAll session candidates))) s
  have htold := forall₂_postings hresults
  rw [beginAll, List.forall₂_map_left_iff] at htold
  have hown := forall_lookUp htold hnodup
  exact fun c hc => outcome_of_mayTell_begin (hown c hc)

/-- No session is looked at but those of the bots that are given. -/
theorem inOrder_congr {order : List (PostJob σ) → List Event}
    {session session' : BotRecord → Except Failure (TimedSession σ γ)}
    {candidates : List Candidate} (h : ∀ c ∈ candidates, session c.started = session' c.started) :
    inOrder order session candidates = inOrder order session' candidates := by
  have hbegun : beginAll session candidates = beginAll session' candidates :=
    List.map_congr_left fun c hc => by rw [begin, begin, h c hc]
  rw [inOrder, inOrder, hbegun]

/-! ### One after the other -/

variable {m : Type → Type} [Monad m] [LawfulMonad m]
  {session session' : BotRecord → m (Except Failure (Session m γ))}

/-- Posts for one bot. -/
def postFor (session : BotRecord → m (Except Failure (Session m γ))) (c : Candidate) :
    m Posting := do
  match ← session c.started with
  | .error f => return .error (.session f)
  | .ok s => return (← s.post c.grammar).mapError .post

theorem oneByOne_nil : oneByOne session [] = pure (lookUp []) := by
  rw [oneByOne, List.mapM_nil, pure_bind]

theorem oneByOne_cons (c : Candidate) (candidates : List Candidate) :
    oneByOne session (c :: candidates) = do
      let posting ← postFor session c
      let told ← oneByOne session candidates
      return Function.update told c.index posting := by
  have htold : ∀ posting (rest : List (Nat × Posting)),
      lookUp ((c.index, posting) :: rest) = Function.update (lookUp rest) c.index posting := by
    intro posting rest
    funext i
    rw [lookUp_cons, Function.update_apply]
  rw [oneByOne, List.mapM_cons, postFor]
  simp only [bind_assoc]
  refine bind_congr fun started => ?_
  cases started with
  | error f => simp only [pure_bind, bind_assoc, htold, oneByOne]
  | ok s => simp only [pure_bind, bind_assoc, htold, oneByOne]

/-- **One after the other**, the session of each bot is asked for once, its post is made once, and
what came of that is told of its place. -/
theorem oneByOne_eq (candidates : List Candidate) :
    oneByOne session candidates = candidates.foldr
      (fun c rest => do
        let posting ← postFor session c
        let told ← rest
        return Function.update told c.index posting)
      (pure (lookUp [])) := by
  induction candidates with
  | nil => exact oneByOne_nil
  | cons c candidates ih => rw [oneByOne_cons, List.foldr_cons, ih]

end Dispatch

end GrammarBots

import GrammarBots.Proofs.Grammar.Literal
import GrammarBots.Schedule.Dispatch
import Mathlib.Data.List.Induction

/-!
# What a render makes of a draft

A renderer fetches, detects and uploads for several directives at once, some fetches end too late,
and uploads finish in any order.  `render_eq_postOf` says that none of this shows in the post: it is
`Renderer.postOf`, the text of the draft with the handles of the directives that succeed, latest
first and no more than the limit allows.  It is the same for every order in which the fetches and
uploads of the post happen, for every number of directives at a time, and for directives resolved
one after the other; and it is handed on exactly once, or not at all if the grammar cannot be
expanded.

What carries the proof is `Collected`: however many of the planned calls have happened, and in
whatever order, each directive has either no handle yet or the one that it will have.
-/

namespace GrammarBots

variable {σ β γ : Type}

/-! ### Renderers and the world -/

/-- The renderers there are: one with any limit on the time of a fetch, changed any number of
times. -/
inductive Renderer.IsBuilt : Renderer → Prop where
  /-- A renderer to begin with. -/
  | new (timeout : Nat) : IsBuilt { timeout }
  /-- Another number of directives at a time. -/
  | withConcurrency {r : Renderer} (h : r.IsBuilt) (n : Nat) : (r.withConcurrency n).IsBuilt
  /-- Another limit on media. -/
  | withMaxMedia {r : Renderer} (h : r.IsBuilt) (n : Nat) : (r.withMaxMedia n).IsBuilt

/-- No renderer attaches more than the service takes. -/
theorem Renderer.IsBuilt.maxMedia_le {r : Renderer} (h : r.IsBuilt) :
    r.maxMedia ≤ GrammarBots.maxMedia := by
  induction h with
  | new => exact Nat.le_refl _
  | withConcurrency _ _ ih => exact ih
  | withMaxMedia _ n _ => exact Nat.min_le_right n _

/-- Answers that depend on nothing but what is asked. -/
structure Answers where
  /-- What a URL answers, if it is given the time. -/
  fetch : Text → Except MediaError Bytes
  /-- The type of a payload. -/
  detect : Bytes → Except MediaError String
  /-- What becomes of an upload. -/
  upload : Bytes → String → Except MediaError Handle

namespace Answers

/-- The handle that a directive ends with, if it succeeds: it has a URL whose answer comes in time
and is a payload, the type of the payload is known, and its upload is accepted. -/
def handle (a : Answers) (inTime : Text → Bool) (raw : Text) : Option Handle :=
  match Demand.ofDirective raw with
  | .fetch url =>
    if inTime url then
      (a.fetch url >>= fun payload => a.detect payload >>= a.upload payload).toOption
    else none
  | _ => none

/-- The handles of the directives that succeed, in the order of the text.  Whether an answer comes
in time may depend on the place of its directive. -/
def handles (a : Answers) (inTime : Nat → Text → Bool) (ds : List Directive) : List Handle :=
  (ds.mapIdx fun i d => a.handle (inTime i) d.raw).filterMap id

end Answers

/-- The post that a renderer makes of a draft: the latest handles as far as the limit allows, in
reverse order. -/
def Renderer.postOf (r : Renderer) (a : Answers) (inTime : Nat → Text → Bool) (draft : Draft) :
    Post where
  text := draft.text
  media :=
    let handles := a.handles inTime draft.directives
    (handles.drop (handles.length - min r.maxMedia handles.length)).reverse

/-- Which of the answers that come after the given delays come in time. -/
def Renderer.inTime (r : Renderer) (delay : Nat → Text → Nat) (i : Nat) (url : Text) : Bool :=
  delay i url ≤ r.timeout

/-- The world gives the answers, after the given delays. -/
structure World.Gives (w : World σ) (a : Answers) (delay : Nat → Text → Nat) : Prop where
  fetch : ∀ i url, w.fetch i url = ⟨delay i url, a.fetch url⟩
  detect : w.detect = a.detect
  upload : ∀ payload mime s, (w.upload payload mime s).1 = a.upload payload mime

/-- Uploads are answered as the answers say, whatever the state of the world. -/
def World.Uploads (w : World σ) (a : Answers) : Prop :=
  ∀ payload mime s, (w.upload payload mime s).1 = a.upload payload mime

/-- The world after a call. -/
def World.after (w : World σ) (s : σ) (e : Event) : σ :=
  match e.act with
  | .fetch url => w.noteFetch url s
  | .upload _ payload mime => (w.upload payload mime s).2
  | .complete => s

theorem Renderer.attach_eq (r : Renderer) (handles : List (Option Handle)) :
    r.attach handles = (((handles.filterMap id).drop
      ((handles.filterMap id).length - min r.maxMedia (handles.filterMap id).length)).reverse) := by
  generalize hhs : handles.filterMap id = hs
  have hcount : hs.length - min r.maxMedia hs.length = hs.length - r.maxMedia := by omega
  rw [Renderer.attach, capMedia, hhs, List.take_reverse, hcount]

/-! ### Plans -/

variable {w : World σ} {a : Answers} {delay : Nat → Text → Nat}

/-- The handle that the directive with the given number will have, if it will have one. -/
def Job.handleOf (j : Job σ β) (a : Answers) (i : Nat) : Option Handle :=
  (j.plans[i]?).bind fun plan => plan.2.2.bind fun (payload, mime) =>
    (a.upload payload mime).toOption

/-- The payload that a directive plans to upload gets the handle that the directive ends with. -/
theorem Job.upload_plan {j : Job σ β} (hw : j.world.Gives a delay) (i : Nat) (raw : Text) :
    ((j.plan i raw).2.2.bind fun (payload, mime) => (a.upload payload mime).toOption)
      = a.handle (j.renderer.inTime delay i) raw := by
  rw [Answers.handle, Job.plan]
  cases Demand.ofDirective raw with
  | nothing => rfl
  | withoutUrl => rfl
  | fetch url =>
    dsimp only
    rw [hw.fetch, hw.detect]
    by_cases htime : delay i url ≤ j.renderer.timeout
    · have hinTime : j.renderer.inTime delay i url = true := decide_eq_true htime
      rw [hinTime, if_pos rfl, Delayed.within, if_pos htime]
      dsimp only [fetched]
      cases a.fetch url with
      | error e => rfl
      | ok payload =>
        dsimp only [Bind.bind, Except.bind]
        cases a.detect payload <;> rfl
    · have hinTime : ¬ j.renderer.inTime delay i url = true := fun h =>
        htime (of_decide_eq_true h)
      rw [if_neg hinTime, Delayed.within, if_neg htime]
      rfl

theorem Job.handleOf_eq {j : Job σ β} (hw : j.world.Gives a delay) :
    (List.range j.draft.directives.length).map (j.handleOf a)
      = j.draft.directives.mapIdx fun i d => a.handle (j.renderer.inTime delay i) d.raw := by
  refine List.ext_getElem (by simp) fun i hi _ => ?_
  rw [List.length_map, List.length_range] at hi
  have hplan : j.plans[i]? = some (j.plan i j.draft.directives[i].raw) := by
    rw [Job.plans, List.getElem?_mapIdx, List.getElem?_eq_getElem hi, Option.map_some]
  rw [List.getElem_map, List.getElem_range, List.getElem_mapIdx, Job.handleOf, hplan,
    Option.bind_some, Job.upload_plan hw]

/-- An event that some directive of the post with the given number plans. -/
def Job.IsPlanned (j : Job σ β) (number : Nat) (e : Event) : Prop :=
  e.job = number ∧ match e.act with
    | .fetch _ => True
    | .upload i payload mime => ∃ plan, j.plans[i]? = some plan ∧ plan.2.2 = some (payload, mime)
    | .complete => False

theorem Job.mem_calls_iff {j : Job σ β} {number : Nat} {e : Event} :
    e ∈ j.calls number ↔ ∃ i slot plan, j.slots[i]? = some slot ∧ j.plans[i]? = some plan ∧
      e ∈ Job.directiveEvents number i slot plan := by
  rw [Job.calls, List.mem_flatMap]
  constructor
  · rintro ⟨⟨⟨slot, plan⟩, i⟩, hmem, he⟩
    obtain ⟨hslot, hplan⟩ := List.getElem?_zip_eq_some.mp (List.mem_zipIdx_iff_getElem?.mp hmem)
    exact ⟨i, slot, plan, hslot, hplan, he⟩
  · rintro ⟨i, slot, plan, hslot, hplan, he⟩
    exact ⟨((slot, plan), i), List.mem_zipIdx_iff_getElem?.mpr
      (List.getElem?_zip_eq_some.mpr ⟨hslot, hplan⟩), he⟩

theorem Job.mem_directiveEvents_iff {number i : Nat} {slot : Slot}
    {plan : Demand × Nat × Option (Bytes × String)} {e : Event} :
    e ∈ Job.directiveEvents number i slot plan ↔
      (∃ url, plan.1.url? = some url ∧ e = ⟨slot.start, number, .fetch url⟩) ∨
      ∃ payload mime, plan.2.2 = some (payload, mime) ∧
        e = ⟨slot.finish, number, .upload i payload mime⟩ := by
  rw [Job.directiveEvents, List.mem_append, List.mem_map, List.mem_map]
  simp only [Option.mem_toList, Prod.exists, eq_comm (a := e)]

theorem Job.isPlanned_of_mem_calls {j : Job σ β} {number : Nat} {e : Event}
    (he : e ∈ j.calls number) : j.IsPlanned number e := by
  obtain ⟨i, slot, plan, _, hplan, he⟩ := Job.mem_calls_iff.mp he
  rcases Job.mem_directiveEvents_iff.mp he with ⟨url, _, rfl⟩ | ⟨payload, mime, hupload, rfl⟩
  · exact ⟨rfl, trivial⟩
  · exact ⟨rfl, plan, hplan, hupload⟩

/-- Every planned upload is called. -/
theorem Job.exists_upload_mem_calls {j : Job σ β} (number : Nat) {i : Nat}
    {plan : Demand × Nat × Option (Bytes × String)} {payload : Bytes} {mime : String}
    (hplan : j.plans[i]? = some plan) (hupload : plan.2.2 = some (payload, mime)) :
    ∃ e ∈ j.calls number, e.act = .upload i payload mime := by
  have hlen : i < j.slots.length := by
    rw [Job.slots, FanOut.length_slots, List.length_map]
    exact (List.getElem?_eq_some_iff.mp hplan).1
  refine ⟨⟨j.slots[i].finish, number, .upload i payload mime⟩, Job.mem_calls_iff.mpr
    ⟨i, j.slots[i], plan, List.getElem?_eq_getElem hlen, hplan, ?_⟩, rfl⟩
  exact Job.mem_directiveEvents_iff.mpr (Or.inr ⟨payload, mime, hupload, rfl⟩)

/-! ### Calls in any order -/

/-- What is known of a post after some of its calls, in whatever order. -/
structure Collected (j : Job σ β) (a : Answers) (s : σ) (calls : List Event)
    (p : Timeline.Progress σ β) : Prop where
  /-- The world has seen these calls and no others. -/
  world : p.world = calls.foldl j.world.after s
  /-- The post is not complete. -/
  results : p.results = []
  /-- A directive has no handle yet, or the one that it will have. -/
  handles : ∀ i, p.handles.lookup (0, i) = none ∨ p.handles.lookup (0, i) = j.handleOf a i
  /-- A directive whose upload was called has the handle that it will have. -/
  uploaded : ∀ e ∈ calls, ∀ i payload mime, e.act = .upload i payload mime →
    p.handles.lookup (0, i) = j.handleOf a i

theorem Timeline.step_fetch (j : Job σ β) (p : Timeline.Progress σ β) {e : Event} {url : Text}
    (hjob : e.job = 0) (hact : e.act = .fetch url) :
    Timeline.step [j] p e = { p with world := j.world.after p.world e } := by
  unfold Timeline.step World.after
  rw [hjob, hact]
  rfl

/-- An upload that is accepted adds its handle. -/
theorem Timeline.step_upload (j : Job σ β) (p : Timeline.Progress σ β) {e : Event} {i : Nat}
    {payload : Bytes} {mime : String} (hjob : e.job = 0) (hact : e.act = .upload i payload mime) :
    Timeline.step [j] p e = { p with
      world := j.world.after p.world e
      handles := (j.world.upload payload mime p.world).1.toOption.toList.map (((0, i), ·))
        ++ p.handles } := by
  unfold Timeline.step World.after
  rw [hjob, hact]
  dsimp only [List.getElem?_cons_zero]
  cases (j.world.upload payload mime p.world).1 <;> rfl

/-- A new handle is found for its directive, and for the others what was found before. -/
theorem Timeline.lookup_append (i i' : Nat) (new : Option Handle)
    (handles : List ((Nat × Nat) × Handle)) :
    (new.toList.map (((0, i), ·)) ++ handles).lookup (0, i')
      = if i' = i then new.or (handles.lookup (0, i)) else handles.lookup (0, i') := by
  by_cases hi : i' = i
  · rw [if_pos hi, hi]
    cases new with
    | none => rfl
    | some handle => exact List.lookup_cons_self
  · rw [if_neg hi]
    cases new with
    | none => rfl
    | some handle =>
      have hne : (((0 : Nat), i') == (0, i)) = false := beq_eq_false_iff_ne.mpr (by simpa using hi)
      show (((0, i), handle) :: handles).lookup (0, i') = handles.lookup (0, i')
      rw [List.lookup_cons, hne]

/-- One more call. -/
theorem Collected.step {j : Job σ β} (hw : j.world.Uploads a) {s : σ} {calls : List Event}
    {p : Timeline.Progress σ β} (h : Collected j a s calls p) {e : Event} (he : j.IsPlanned 0 e) :
    Collected j a s (calls ++ [e]) (Timeline.step [j] p e) := by
  obtain ⟨hjob, hact⟩ := he
  have hworld : j.world.after p.world e = (calls ++ [e]).foldl j.world.after s := by
    rw [h.world, List.foldl_append]
    rfl
  cases hcase : e.act with
  | complete => rw [hcase] at hact; exact hact.elim
  | fetch url =>
    rw [Timeline.step_fetch j p hjob hcase]
    refine ⟨hworld, h.results, h.handles, fun e' he' i payload mime hupload => ?_⟩
    rcases List.mem_append.mp he' with he' | he'
    · exact h.uploaded e' he' i payload mime hupload
    · rw [List.mem_singleton.mp he', hcase] at hupload
      cases hupload
  | upload i payload mime =>
    rw [hcase] at hact
    obtain ⟨plan, hplan, hupload⟩ := hact
    have hhandle : j.handleOf a i = (a.upload payload mime).toOption := by
      rw [Job.handleOf, hplan, Option.bind_some, hupload, Option.bind_some]
    rw [Timeline.step_upload j p hjob hcase, hw, ← hhandle]
    -- a handle from before would be the one that the directive has now
    have hthis : (j.handleOf a i).or (p.handles.lookup (0, i)) = j.handleOf a i := by
      rcases h.handles i with hnone | hsome
      · rw [hnone, Option.or_none]
      · rw [hsome, Option.or_self]
    refine ⟨hworld, h.results, fun i' => ?_, fun e' he' i' payload' mime' hupload' => ?_⟩
    · rw [Timeline.lookup_append, hthis]
      by_cases hi : i' = i
      · rw [if_pos hi, hi]
        exact Or.inr rfl
      · rw [if_neg hi]
        exact h.handles i'
    · rw [Timeline.lookup_append, hthis]
      by_cases hi : i' = i
      · rw [if_pos hi, hi]
      · rw [if_neg hi]
        rcases List.mem_append.mp he' with he' | he'
        · exact h.uploaded e' he' i' payload' mime' hupload'
        · rw [List.mem_singleton.mp he', hcase] at hupload'
          cases hupload'
          exact absurd rfl hi

/-- The calls that have happened. -/
theorem Timeline.collected_progressIn {j : Job σ β} (hw : j.world.Uploads a) (s : σ)
    {calls : List Event} (hcalls : ∀ e ∈ calls, j.IsPlanned 0 e) :
    Collected j a s calls (Timeline.progressIn calls [j] s) := by
  induction calls using List.reverseRecOn with
  | nil => exact ⟨rfl, rfl, fun i => Or.inl rfl, fun e he => nomatch he⟩
  | append_singleton calls e ih =>
    have hstep := (ih fun e' he' => hcalls e' (List.mem_append_left [e] he')).step hw
      (hcalls e (List.mem_append_right calls (List.mem_singleton_self e)))
    rw [Timeline.progressIn, List.foldl_append]
    exact hstep

/-- When all calls have happened, in whatever order, every directive has its handle. -/
theorem Timeline.lookup_progressIn {j : Job σ β} (hw : j.world.Uploads a) (s : σ)
    {calls : List Event} (hcalls : calls.Perm (j.calls 0)) (i : Nat) :
    (Timeline.progressIn calls [j] s).handles.lookup (0, i) = j.handleOf a i := by
  have hcollected := Timeline.collected_progressIn hw s fun e he =>
    Job.isPlanned_of_mem_calls (hcalls.mem_iff.mp he)
  rcases hcollected.handles i with hnone | hsome
  · cases hhandle : j.handleOf a i with
    | none => exact hnone
    | some handle =>
      obtain ⟨plan, hplan, hbind⟩ := Option.bind_eq_some_iff.mp hhandle
      obtain ⟨⟨payload, mime⟩, hupload, -⟩ := Option.bind_eq_some_iff.mp hbind
      obtain ⟨e, he, hact⟩ := Job.exists_upload_mem_calls 0 hplan hupload
      rw [← hhandle]
      exact hcollected.uploaded e (hcalls.mem_iff.mpr he) i payload mime hact
  · exact hsome

/-- A post that is completed after all its calls is the one that its draft makes. -/
theorem Timeline.runIn_eq {j : Job σ β} (hw : j.world.Gives a delay) (s : σ) {calls : List Event}
    (hcalls : calls.Perm (j.calls 0)) :
    Timeline.runIn (calls ++ [j.completion 0]) [j] s =
      let (result, s') := j.complete (j.renderer.postOf a (j.renderer.inTime delay) j.draft)
        (calls.foldl j.world.after s)
      ([result], s') := by
  have hcollected := Timeline.collected_progressIn hw.upload s fun e he =>
    Job.isPlanned_of_mem_calls (hcalls.mem_iff.mp he)
  have hhandles : ((List.range j.draft.directives.length).map fun i =>
      (Timeline.progressIn calls [j] s).handles.lookup (0, i))
        = j.draft.directives.mapIdx fun i d => a.handle (j.renderer.inTime delay i) d.raw := by
    rw [← Job.handleOf_eq hw]
    exact List.map_congr_left fun i _ => Timeline.lookup_progressIn hw.upload s hcalls i
  have hlast : Timeline.progressIn (calls ++ [j.completion 0]) [j] s
      = Timeline.step [j] (Timeline.progressIn calls [j] s) (j.completion 0) := by
    rw [Timeline.progressIn, List.foldl_append]
    rfl
  rw [Timeline.runIn, hlast]
  unfold Timeline.step
  dsimp only [Job.completion, List.getElem?_cons_zero]
  rw [hhandles, Renderer.attach_eq, hcollected.world]
  rfl

/-! ### The order of time -/

theorem Timeline.precedes_iff {d e : Event} : Timeline.precedes d e = true ↔
    d.time < e.time ∨ d.time = e.time ∧ d.job ≤ e.job := by
  rw [Timeline.precedes, Bool.or_eq_true, Bool.and_eq_true, decide_eq_true_eq, decide_eq_true_eq,
    beq_iff_eq]

theorem Timeline.precedes_trans (d e f : Event) (hde : Timeline.precedes d e = true)
    (hef : Timeline.precedes e f = true) : Timeline.precedes d f = true := by
  rw [Timeline.precedes_iff] at hde hef ⊢
  omega

theorem Timeline.precedes_total (d e : Event) :
    (Timeline.precedes d e || Timeline.precedes e d) = true := by
  rw [Bool.or_eq_true, Timeline.precedes_iff, Timeline.precedes_iff]
  omega

/-- What nothing follows stays behind when the rest is sorted. -/
theorem Timeline.mergeSort_append_singleton {e : Event} {events : List Event}
    (h : ∀ d ∈ events, Timeline.precedes d e = true) :
    ∃ sorted, sorted.Perm events ∧
      (events ++ [e]).mergeSort Timeline.precedes = sorted ++ [e] := by
  induction events with
  | nil => exact ⟨[], List.Perm.refl _, List.mergeSort_singleton e⟩
  | cons d events ih =>
    obtain ⟨sorted, hperm, hsorted⟩ := ih fun d' hd' => h d' (List.mem_cons_of_mem d hd')
    obtain ⟨before, behind, hmerge, hsplit, hbefore⟩ :=
      List.mergeSort_cons Timeline.precedes_trans Timeline.precedes_total d (events ++ [e])
    rw [hsorted] at hsplit
    -- the first event cannot come behind the last one
    have hbehind : behind ≠ [] := by
      rintro rfl
      rw [List.append_nil] at hsplit
      have hd := hbefore e (hsplit ▸ List.mem_append_right sorted (List.mem_singleton_self e))
      rw [h d List.mem_cons_self] at hd
      cases hd
    obtain ⟨front, last, rfl⟩ := List.eq_nil_or_concat behind |>.resolve_left hbehind
    rw [List.concat_eq_append, ← List.append_assoc] at hsplit
    obtain ⟨hfront, hlast⟩ := List.append_inj' hsplit rfl
    refine ⟨before ++ d :: front, ?_, ?_⟩
    · rw [hfront] at hperm
      exact List.perm_middle.trans (hperm.cons d)
    · rw [List.cons_append, hmerge, List.concat_eq_append, ← hlast, List.append_assoc,
        List.cons_append]

theorem FanOut.start_le_finish {limit : Nat} {done durations : List Nat} {slot : Slot}
    (h : slot ∈ FanOut.slotsAfter limit done durations) : slot.start ≤ slot.finish := by
  induction durations generalizing done with
  | nil => cases h
  | cons duration durations ih =>
    rcases List.mem_cons.mp h with rfl | h
    · exact Nat.le_add_right _ _
    · exact ih h

theorem FanOut.le_latest (slots : List Slot) (t : Nat) :
    t ≤ slots.foldl (fun t slot => max t slot.finish) t ∧
      ∀ slot ∈ slots, slot.finish ≤ slots.foldl (fun t slot => max t slot.finish) t := by
  induction slots generalizing t with
  | nil => exact ⟨Nat.le_refl t, fun _ h => nomatch h⟩
  | cons first slots ih =>
    obtain ⟨hle, hall⟩ := ih (max t first.finish)
    refine ⟨Nat.le_trans (Nat.le_max_left t _) hle, fun slot h => ?_⟩
    rcases List.mem_cons.mp h with rfl | h
    · exact Nat.le_trans (Nat.le_max_right t _) hle
    · exact hall slot h

theorem FanOut.finish_le_finish {slots : List Slot} {slot : Slot} (h : slot ∈ slots) :
    slot.finish ≤ FanOut.finish slots := (FanOut.le_latest slots 0).2 slot h

/-- No call of a post comes after its completion. -/
theorem Job.precedes_completion {j : Job σ β} {number : Nat} {e : Event} (he : e ∈ j.calls number) :
    Timeline.precedes e (j.completion number) = true := by
  obtain ⟨i, slot, plan, hslot, _, he⟩ := Job.mem_calls_iff.mp he
  have hmem : slot ∈ j.slots := List.mem_of_getElem? hslot
  have hstart : slot.start ≤ slot.finish := FanOut.start_le_finish hmem
  have hfinish : slot.finish ≤ j.duration := FanOut.finish_le_finish hmem
  have hevent : e.time ≤ j.duration ∧ e.job = number := by
    rcases Job.mem_directiveEvents_iff.mp he with ⟨url, _, rfl⟩ | ⟨payload, mime, _, rfl⟩
    · exact ⟨Nat.le_trans hstart hfinish, rfl⟩
    · exact ⟨hfinish, rfl⟩
  rw [Timeline.precedes_iff]
  show e.time < j.duration ∨ e.time = j.duration ∧ e.job ≤ number
  omega

/-- In time, too, a post is complete after all its calls. -/
theorem Timeline.events_singleton (j : Job σ β) :
    ∃ calls, calls.Perm (j.calls 0) ∧ Timeline.events [j] = calls ++ [j.completion 0] := by
  have hevents : Timeline.events [j] =
      (j.calls 0 ++ [j.completion 0]).mergeSort Timeline.precedes := by
    rw [Timeline.events, List.zipIdx_singleton, List.flatMap_singleton]
    rfl
  rw [hevents]
  exact Timeline.mergeSort_append_singleton fun e he => Job.precedes_completion he

/-! ### One directive after the other -/

section Sequential

variable {m : Type → Type} [Monad m] [LawfulMonad m] {α δ : Type}

/-- Whatever else happens, the outcome is the given one. -/
def Always (v : α) (x : m α) : Prop := x = (fun _ => v) <$> x

theorem always_pure (v : α) : Always v (pure v : m α) :=
  (map_pure (fun _ => v) v).symm

theorem Always.bind_eq {v : α} {x : m α} (h : Always v x) (f : α → m δ) :
    x >>= f = x >>= fun _ => f v := by
  calc x >>= f = ((fun _ => v) <$> x) >>= f := by rw [← h]
    _ = x >>= fun _ => f v := bind_map_left _ x f

theorem Always.bind {v : α} {u : δ} {x : m α} {f : α → m δ} (h : Always v x)
    (hf : Always u (f v)) : Always u (x >>= f) := by
  rw [h.bind_eq, Always, map_bind, ← hf]

theorem Always.exists_bind {v : α} {x : m α} {f : α → m δ} {p : δ → Prop} (h : Always v x)
    (hf : ∃ u, Always u (f v) ∧ p u) : ∃ u, Always u (x >>= f) ∧ p u := by
  obtain ⟨u, hu, hp⟩ := hf
  exact ⟨u, h.bind hu, hp⟩

theorem always_mapM {f : α → m δ} {g : α → δ} (h : ∀ x, Always (g x) (f x)) (l : List α) :
    Always (l.map g) (l.mapM f) := by
  induction l with
  | nil => exact always_pure []
  | cons x l ih =>
    rw [List.mapM_cons]
    exact (h x).bind (ih.bind (always_pure (g x :: l.map g)))

/-- The services give the answers, in time where `inTime` says so. -/
structure MediaServices.Give (services : MediaServices m) (a : Answers) (inTime : Text → Bool) :
    Prop where
  fetch : ∀ url, Always (if inTime url then some (a.fetch url) else none) (services.fetch url)
  detect : services.detect = a.detect
  upload : ∀ payload mime, Always (a.upload payload mime) (services.upload payload mime)

variable {services : MediaServices m} {inTime : Text → Bool}

/-- A directive that is resolved on its own ends with the same handle. -/
theorem always_resolve (hservices : services.Give a inTime) (timeout : Nat) (raw : Text) :
    ∃ result, Always result (resolve services timeout raw) ∧
      handle? result = a.handle inTime raw := by
  unfold resolve Answers.handle
  cases Demand.ofDirective raw with
  | nothing => exact ⟨_, always_pure _, rfl⟩
  | withoutUrl => exact ⟨_, always_pure _, rfl⟩
  | fetch url =>
    rw [hservices.detect]
    refine (hservices.fetch url).exists_bind ?_
    dsimp only
    cases inTime url with
    | false => exact ⟨_, always_pure _, rfl⟩
    | true =>
      rw [if_pos rfl, if_pos rfl]
      dsimp only [fetched]
      cases a.fetch url with
      | error e => exact ⟨_, always_pure _, rfl⟩
      | ok payload =>
        dsimp only [Bind.bind, Except.bind]
        cases a.detect payload with
        | error e => exact ⟨_, always_pure _, rfl⟩
        | ok mime =>
          refine ⟨_, (hservices.upload payload mime).bind (always_pure _), ?_⟩
          show handle? ((a.upload payload mime).map some) = (a.upload payload mime).toOption
          cases a.upload payload mime <;> rfl

theorem always_render (hservices : services.Give a inTime) (r : Renderer) (draft : Draft) :
    Always (r.postOf a (fun _ => inTime) draft) (r.render services draft) := by
  choose result hresult hhandle using always_resolve (m := m) hservices r.timeout
  have hhandles : ((draft.directives.map fun d => result d.raw).map handle?)
      = draft.directives.mapIdx fun _ d => a.handle inTime d.raw := by
    rw [List.map_map]
    refine List.ext_getElem (by simp) fun i _ _ => ?_
    rw [List.getElem_map, List.getElem_mapIdx]
    exact hhandle _
  have hpost : (⟨draft.text, r.attach ((draft.directives.map fun d => result d.raw).map handle?)⟩
      : Post) = r.postOf a (fun _ => inTime) draft := by
    rw [hhandles, Renderer.attach_eq]
    rfl
  rw [← hpost, Renderer.render]
  have hall := always_mapM (fun d : Directive => hresult d.raw) draft.directives
  exact hall.bind (always_pure _)

end Sequential

/-! ### Rendering a grammar -/

/-- Renders a post from a grammar and completes it, if its calls happen in the given order. -/
def Timeline.renderIn [Chooser γ] (order : Job σ β → List Event) (r : Renderer) (w : World σ)
    (complete : Post → σ → β × σ) (g : Grammar) (chance : γ) (s : σ) :
    Except GrammarError (List β) × σ :=
  match Job.ofGrammar r w complete g chance with
  | .error e => (.error e, s)
  | .ok j =>
    let (results, s') := Timeline.runIn (order j ++ [j.completion 0]) [j] s
    (.ok results, s')

/-- No post of a renderer has more handles than the limit allows. -/
theorem Renderer.length_media_postOf_le (r : Renderer) (a : Answers) (inTime : Nat → Text → Bool)
    (draft : Draft) : (r.postOf a inTime draft).media.length ≤ r.maxMedia := by
  rw [Renderer.postOf, List.length_reverse, List.length_drop]
  omega

/-- A draft fails as the expansion of the start symbol fails. -/
theorem Grammar.draft_eq_error_iff [Chooser γ] (g : Grammar) (chance : γ) (e : GrammarError) :
    (g.draft chance).1 = .error e ↔ (g.expand startSymbol chance).1 = .error e := by
  have hdraft : (g.draft chance).1 = (g.expand startSymbol chance).1.map Draft.ofExpanded := rfl
  rw [hdraft]
  cases (g.expand startSymbol chance).1 with
  | error e' => rw [Except.map, Except.error.injEq, Except.error.injEq]
  | ok expanded =>
    constructor
    · intro h
      cases h
    · intro h
      cases h

theorem Timeline.renderIn_eq [Chooser γ] {r : Renderer} (hw : w.Gives a delay) (g : Grammar)
    (chance : γ) (complete : Post → σ → β × σ) {order : Job σ β → List Event}
    (horder : ∀ j, (order j).Perm (j.calls 0)) (s : σ) :
    Timeline.renderIn order r w complete g chance s = match (g.draft chance).1 with
      | .error e => (.error e, s)
      | .ok draft =>
        let (result, s') := complete (r.postOf a (r.inTime delay) draft)
          ((order ⟨r, w, draft, complete⟩).foldl w.after s)
        (.ok [result], s') := by
  unfold Timeline.renderIn Job.ofGrammar
  cases (g.draft chance).1 with
  | error e => rfl
  | ok draft =>
    dsimp only [Except.map]
    rw [Timeline.runIn_eq (j := ⟨r, w, draft, complete⟩) hw s (horder _)]

section Sequential

variable {m : Type → Type} [Monad m] [LawfulMonad m] [Chooser γ] {session : Session m γ}
  {inTime : Text → Bool} {g : Grammar}

theorem Session.render_eq (hservices : session.services.Give a inTime) :
    session.render g = match (g.draft session.chance).1 with
      | .error e => pure (.error e)
      | .ok draft => (fun _ => .ok (session.renderer.postOf a (fun _ => inTime) draft)) <$>
          session.renderer.render session.services draft := by
  unfold Session.render
  cases (g.draft session.chance).1 with
  | error e => rfl
  | ok draft =>
    dsimp only
    rw [(always_render hservices session.renderer draft).bind_eq, map_eq_pure_bind]

theorem Session.post_eq (hservices : session.services.Give a inTime) :
    session.post g = match (g.draft session.chance).1 with
      | .error e => pure (.error (.grammar e))
      | .ok draft => do
        let _ ← session.renderer.render session.services draft
        let receipt ← session.publish (session.renderer.postOf a (fun _ => inTime) draft)
        return receipt.mapError .publish := by
  unfold Session.post
  rw [Session.render_eq hservices]
  cases (g.draft session.chance).1 with
  | error e => rw [pure_bind]
  | ok draft => rw [bind_map_left]

end Sequential

/-- **The post of a draft.**  It depends neither on the order in which fetches and uploads happen
nor on how many happen at a time, and is completed exactly once, if the grammar can be expanded at
all; if not, nothing is asked of the world. -/
theorem render_eq_postOf [Chooser γ] {r : Renderer} (hr : r.IsBuilt) (a : Answers) (g : Grammar)
    (chance : γ) :
    (∀ e, (g.draft chance).1 = .error e ↔ (g.expand startSymbol chance).1 = .error e) ∧
    r.maxMedia ≤ 4 ∧
    (∀ inTime draft, (r.postOf a inTime draft).media.length ≤ r.maxMedia ∧
      ∀ n, (r.withConcurrency n).postOf a inTime draft = r.postOf a inTime draft) ∧
    -- directives resolved side by side, in any order
    (∀ (σ β : Type) (w : World σ) (delay : Nat → Text → Nat), w.Gives a delay →
      ∀ (complete : Post → σ → β × σ) (order : Job σ β → List Event),
      (∀ j, (order j).Perm (j.calls 0)) → ∀ s,
      Timeline.renderIn order r w complete g chance s = match (g.draft chance).1 with
        | .error e => (.error e, s)
        | .ok draft =>
          let (result, s') := complete (r.postOf a (r.inTime delay) draft)
            ((order ⟨r, w, draft, complete⟩).foldl w.after s)
          (.ok [result], s')) ∧
    -- the order of time is one of these orders
    (∀ (σ β : Type), ∃ order : Job σ β → List Event, (∀ j, (order j).Perm (j.calls 0)) ∧
      ∀ j, Timeline.events [j] = order j ++ [j.completion 0]) ∧
    -- directives resolved one after the other
    (∀ (m : Type → Type) [Monad m] [LawfulMonad m] (services : MediaServices m)
      (inTime : Text → Bool), services.Give a inTime → ∀ publish,
      Session.render ⟨chance, r, services, publish⟩ g = (match (g.draft chance).1 with
        | .error e => pure (.error e)
        | .ok draft => (fun _ => .ok (r.postOf a (fun _ => inTime) draft)) <$>
            r.render services draft) ∧
      Session.post ⟨chance, r, services, publish⟩ g = match (g.draft chance).1 with
        | .error e => pure (.error (.grammar e))
        | .ok draft => do
          let _ ← r.render services draft
          let receipt ← publish (r.postOf a (fun _ => inTime) draft)
          return receipt.mapError .publish) := by
  refine ⟨Grammar.draft_eq_error_iff g chance, hr.maxMedia_le, fun inTime draft =>
    ⟨Renderer.length_media_postOf_le r a inTime draft, fun n => rfl⟩, ?_, ?_, ?_⟩
  · intro σ β w delay hw complete order horder s
    exact Timeline.renderIn_eq hw g chance complete horder s
  · intro σ β
    choose order horder hevents using Timeline.events_singleton (σ := σ) (β := β)
    exact ⟨order, horder, hevents⟩
  · intro m _ _ services inTime hservices publish
    exact ⟨Session.render_eq hservices, Session.post_eq hservices⟩

/-- Three pictures, of which the first is late, requested and uploaded last to first by a renderer
that takes two. -/
theorem render_eq_postOf_late :
    let text : Text := ['h', 'i', '{', 'i', 'm', 'g', ' ', 'a', '}', '{', 'i', 'm', 'g',
      ' ', 'b', '}', '{', 'v', 'i', 'd', ' ', 'c', '}']
    let w : World (List Text) :=
      { fetch := fun i url => ⟨if i = 0 then 9000 else 10, .ok (url.map fun c => c.toNat.toUInt8)⟩
        noteFetch := fun url urls => url :: urls
        detect := fun _ => .ok "image/png"
        upload := fun payload _ urls => (.ok (if payload = [98] then "B" else "C"), urls) }
    (Timeline.renderIn (fun j => (j.calls 0).reverse)
      ((Renderer.withMaxMedia { timeout := 5000 } 2).withConcurrency 0) w
      (fun post urls => (post, urls)) (Grammar.ofRules [(startSymbol, [Section.escape text])])
      (Generator.ofSeed 7) []).1 = .ok [⟨['h', 'i'], ["C", "B"]⟩] := by
  intro text w
  obtain ⟨_, _, _, htimed, _, _⟩ := render_eq_postOf
    (r := (Renderer.withMaxMedia { timeout := 5000 } 2).withConcurrency 0)
    (.withConcurrency (.withMaxMedia (.new 5000) 2) 0)
    ⟨fun url => .ok (url.map fun c => c.toNat.toUInt8), fun _ => .ok "image/png",
      fun payload _ => .ok (if payload = [98] then "B" else "C")⟩
    (Grammar.ofRules [(startSymbol, [Section.escape text])]) (Generator.ofSeed 7)
  have hdraft := Grammar.draft_escape
    (g := Grammar.ofRules [(startSymbol, [Section.escape text])]) rfl (Generator.ofSeed 7)
  rw [htimed _ _ w (fun i _ => if i = 0 then 9000 else 10)
    ⟨fun _ _ => rfl, rfl, fun _ _ _ => rfl⟩ _ _ (fun j => List.reverse_perm _), hdraft]
  rfl

end GrammarBots

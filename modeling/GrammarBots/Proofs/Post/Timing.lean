import GrammarBots.Proofs.Post.Rendering
import Mathlib.Data.List.Basic
import Mathlib.Data.List.Pairwise

/-!
# How long a post takes

The directives of a post are resolved a few at a time, and one that is late delays those behind it.
`Job.fanOut` says by how much: of `n` at a time, the directive with number `i` has finished after
`i / n + 1` times the limit on a fetch.  It also says that every URL is asked for once and in the
order of the text, and that a late or failing fetch costs no other directive its attachment.

The first half is about tasks of any kind.  `FanOut.IsTimetable` says only that tasks give up their
places in order, and this leaves one timetable (`FanOut.isTimetable_iff`).  The bound is proved by
induction on the number of the task, which starts when tasks of earlier rounds have finished
(`FanOut.IsTimetable.finish_le`).  Since tasks start in order, sorting the calls of a post by time
keeps its fetches in the order of the text.
-/

namespace GrammarBots

namespace FanOut

/-! ### Timetables -/

/-- The slots of tasks of which `limit` may be under way at a time and which give up their places in
order.  Nothing else is said of them. -/
structure IsTimetable (limit : Nat) (durations : List Nat) (slots : List Slot) : Prop where
  /-- Every task has a slot. -/
  length : slots.length = durations.length
  /-- A task is under way for as long as it takes. -/
  taken : ∀ (i : Nat) slot duration, slots[i]? = some slot → durations[i]? = some duration →
    slot.finish = slot.start + duration
  /-- The first tasks start at once. -/
  first : ∀ (i : Nat) slot, i < limit → slots[i]? = some slot → slot.start = 0
  /-- Any other task starts as soon as the task `limit` places earlier and all before that one have
  finished. -/
  later : ∀ (i : Nat) slot, slots[i + limit]? = some slot → slot.start = finish (slots.take (i + 1))

theorem finish_append_singleton (slots : List Slot) (slot : Slot) :
    finish (slots ++ [slot]) = max (finish slots) slot.finish := by
  rw [finish, List.foldl_append]
  rfl

theorem finish_le_iff {slots : List Slot} {t : Nat} :
    finish slots ≤ t ↔ ∀ slot ∈ slots, slot.finish ≤ t := by
  constructor
  · intro h slot hslot
    exact Nat.le_trans (finish_le_finish hslot) h
  · intro h
    induction slots using List.reverseRecOn with
    | nil => exact Nat.zero_le t
    | append_singleton slots slot ih =>
      rw [finish_append_singleton, Nat.max_le]
      exact ⟨ih fun slot' h' => h slot' (List.mem_append_left _ h'),
        h slot (List.mem_append_right _ (List.mem_singleton_self slot))⟩

theorem finish_take_mono (slots : List Slot) {i i' : Nat} (h : i ≤ i') :
    finish (slots.take i) ≤ finish (slots.take i') :=
  finish_le_iff.mpr fun _ hslot =>
    finish_le_finish ((List.take_prefix_take_left h).subset hslot)

/-! ### The only timetable -/

variable {limit : Nat} {durations : List Nat} {table table' : List Slot}

/-- What the tasks so far hand on to those behind them: for each, latest first, when it and all
tasks before it have finished. -/
def ends (slots : List Slot) : List Nat :=
  (List.range slots.length).reverse.map fun i => finish (slots.take (i + 1))

theorem ends_append_singleton (slots : List Slot) (slot : Slot) :
    ends (slots ++ [slot]) = finish (slots ++ [slot]) :: ends slots := by
  have hlength : (slots ++ [slot]).length = slots.length + 1 := List.length_append
  have hbefore : ∀ i ∈ (List.range slots.length).reverse,
      finish ((slots ++ [slot]).take (i + 1)) = finish (slots.take (i + 1)) := by
    intro i hi
    rw [List.mem_reverse, List.mem_range] at hi
    rw [List.take_append_of_le_length hi]
  rw [ends, hlength, List.range_succ, List.reverse_append, List.reverse_singleton,
    List.singleton_append, List.map_cons, List.map_congr_left hbefore, ← hlength, List.take_length]
  rfl

theorem headD_ends (slots : List Slot) : (ends slots).headD 0 = finish slots := by
  induction slots using List.reverseRecOn with
  | nil => rfl
  | append_singleton slots slot _ => rw [ends_append_singleton, List.headD_cons]

/-- The time that a task reads off from those before it. -/
theorem getD_ends (slots : List Slot) (hlimit : 0 < limit) :
    (ends slots).getD (limit - 1) 0
      = if slots.length < limit then 0 else finish (slots.take (slots.length - limit + 1)) := by
  rw [ends, List.getD_eq_getElem?_getD, List.getElem?_map]
  split_ifs with h
  · rw [List.getElem?_eq_none]
    · rfl
    · rw [List.length_reverse, List.length_range]
      omega
  · have hindex : limit - 1 < (List.range slots.length).reverse.length := by
      rw [List.length_reverse, List.length_range]
      omega
    rw [List.getElem?_eq_getElem hindex, List.getElem_reverse, List.getElem_range,
      List.length_range, Option.map_some, Option.getD_some]
    congr 2
    omega

/-- A slot starts as the timetable says, where `before` are the slots before the given ones. -/
theorem slotsAfter_spec (hlimit : 0 < limit) (before : List Slot) {i : Nat} {slot : Slot}
    (h : (slotsAfter limit (ends before) durations)[i]? = some slot) :
    slot.start = (if before.length + i < limit then 0 else
      finish ((before ++ slotsAfter limit (ends before) durations).take
        (before.length + i - limit + 1))) ∧
      ∀ duration, durations[i]? = some duration → slot.finish = slot.start + duration := by
  induction durations generalizing before i with
  | nil => cases h
  | cons duration durations ih =>
    rw [slotsAfter] at h ⊢
    set first : Slot := ⟨(ends before).getD (limit - 1) 0,
      (ends before).getD (limit - 1) 0 + duration⟩ with hfirst
    cases i with
    | zero =>
      obtain rfl := Option.some.inj h
      refine ⟨?_, fun d hd => ?_⟩
      · show (ends before).getD (limit - 1) 0 = _
        simp only [getD_ends before hlimit, Nat.add_zero]
        split_ifs with hstart
        · rfl
        · rw [List.take_append_of_le_length]
          omega
      · rw [← Option.some.inj hd]
    | succ i =>
      have hends : max first.finish ((ends before).headD 0) :: ends before
          = ends (before ++ [first]) := by
        rw [ends_append_singleton, finish_append_singleton, headD_ends, Nat.max_comm]
      rw [hends] at h ⊢
      have hnext := ih (before ++ [first]) h
      rw [List.length_append, List.length_singleton, List.append_assoc, List.singleton_append,
        Nat.add_assoc, Nat.add_comm 1 i] at hnext
      exact hnext

theorem isTimetable_slots (hlimit : 0 < limit) (durations : List Nat) :
    IsTimetable limit durations (slots limit durations) := by
  have hspec : ∀ (i : Nat) slot, (slots limit durations)[i]? = some slot →
      slot.start = (if i < limit then 0 else
        finish ((slots limit durations).take (i - limit + 1))) ∧
      ∀ duration, durations[i]? = some duration → slot.finish = slot.start + duration := by
    intro i slot h
    have hslot := slotsAfter_spec hlimit [] h
    rwa [List.length_nil, Nat.zero_add, List.nil_append] at hslot
  refine ⟨length_slots limit durations, ?_, ?_, ?_⟩
  · exact fun i slot duration h => (hspec i slot h).2 duration
  · intro i slot hi h
    rw [(hspec i slot h).1, if_pos hi]
  · intro i slot h
    rw [(hspec (i + limit) slot h).1, if_neg (Nat.not_lt.mpr (Nat.le_add_left limit i)),
      Nat.add_sub_cancel]

/-- Two timetables of the same tasks are the same.  The induction is on the number of the task: its
start depends on earlier tasks only. -/
theorem IsTimetable.eq (hlimit : 0 < limit) (h : IsTimetable limit durations table)
    (h' : IsTimetable limit durations table') : table = table' := by
  refine List.ext_getElem (h.length.trans h'.length.symm) fun i => ?_
  induction i using Nat.strongRecOn with
  | ind i ih =>
  intro hi hi'
  have hslot := List.getElem?_eq_getElem hi
  have hslot' := List.getElem?_eq_getElem hi'
  have hduration := List.getElem?_eq_getElem (h.length ▸ hi)
  have hstart : table[i].start = table'[i].start := by
    by_cases hfirst : i < limit
    · rw [h.first i _ hfirst hslot, h'.first i _ hfirst hslot']
    · obtain ⟨k, rfl⟩ := Nat.exists_eq_add_of_le' (Nat.not_lt.mp hfirst)
      rw [h.later k _ hslot, h'.later k _ hslot']
      congr 1
      refine List.ext_getElem ?_ fun j hj hj' => ?_
      · rw [List.length_take, List.length_take, h.length, h'.length]
      · rw [List.length_take] at hj hj'
        rw [List.getElem_take, List.getElem_take]
        exact ih j (by omega) (by omega) (by omega)
  have hfinish : table[i].finish = table'[i].finish := by
    rw [h.taken i _ _ hslot hduration, h'.taken i _ _ hslot' hduration, hstart]
  exact congrArg₂ Slot.mk hstart hfinish

/-- **The timetable** is determined by what is said of it. -/
theorem isTimetable_iff (hlimit : 0 < limit) :
    IsTimetable limit durations table ↔ table = slots limit durations := by
  constructor
  · exact fun h => h.eq hlimit (isTimetable_slots hlimit durations)
  · rintro rfl
    exact isTimetable_slots hlimit durations

/-! ### Bounds -/

/-- Tasks start in order. -/
theorem IsTimetable.start_mono (h : IsTimetable limit durations table) {i i' : Nat} (hle : i ≤ i')
    {slot slot' : Slot} (hslot : table[i]? = some slot) (hslot' : table[i']? = some slot') :
    slot.start ≤ slot'.start := by
  by_cases hfirst : i < limit
  · rw [h.first i slot hfirst hslot]
    exact Nat.zero_le _
  · obtain ⟨k, rfl⟩ := Nat.exists_eq_add_of_le' (Nat.not_lt.mp hfirst)
    obtain ⟨d, rfl⟩ := Nat.exists_eq_add_of_le hle
    rw [Nat.add_right_comm] at hslot'
    rw [h.later k slot hslot, h.later (k + d) slot' hslot']
    exact finish_take_mono table (by omega)

/-- **Every task finishes within as many rounds as there are full sets of tasks up to it**, where a
round is as long as a task may take.  The induction is on the number of the task: it starts when
tasks that belong to earlier rounds have finished. -/
theorem IsTimetable.finish_le (hlimit : 0 < limit) (h : IsTimetable limit durations table)
    {longest : Nat} (hlongest : ∀ d ∈ durations, d ≤ longest) {i : Nat} {slot : Slot}
    (hslot : table[i]? = some slot) : slot.finish ≤ (i / limit + 1) * longest := by
  induction i using Nat.strongRecOn generalizing slot with
  | ind i ih =>
  obtain ⟨hi, -⟩ := List.getElem?_eq_some_iff.mp hslot
  have hduration := List.getElem?_eq_getElem (h.length ▸ hi)
  have hstart : slot.start ≤ i / limit * longest := by
    by_cases hfirst : i < limit
    · rw [h.first i slot hfirst hslot]
      exact Nat.zero_le _
    · obtain ⟨k, rfl⟩ := Nat.exists_eq_add_of_le' (Nat.not_lt.mp hfirst)
      rw [h.later k slot hslot, Nat.add_div_right k hlimit, finish_le_iff]
      intro earlier hearlier
      obtain ⟨j, hj, rfl⟩ := List.getElem_of_mem hearlier
      rw [List.length_take] at hj
      have hround : j / limit + 1 ≤ k / limit + 1 :=
        Nat.succ_le_succ (Nat.div_le_div_right (by omega))
      refine Nat.le_trans (ih j (by omega) ?_) (Nat.mul_le_mul_right longest hround)
      rw [List.getElem_take, List.getElem?_eq_getElem]
  rw [h.taken i slot _ hslot hduration, Nat.succ_mul]
  exact Nat.add_le_add hstart (hlongest _ (List.getElem_mem _))

/-- All tasks finish within as many rounds as there are sets of tasks, the last of which need not be
full. -/
theorem IsTimetable.finish_table_le (hlimit : 0 < limit) (h : IsTimetable limit durations table)
    {longest : Nat} (hlongest : ∀ d ∈ durations, d ≤ longest) :
    finish table ≤ (durations.length + limit - 1) / limit * longest := by
  rw [finish_le_iff]
  intro slot hslot
  obtain ⟨i, hi, rfl⟩ := List.getElem_of_mem hslot
  refine Nat.le_trans (h.finish_le hlimit hlongest (List.getElem?_eq_getElem hi))
    (Nat.mul_le_mul_right longest ?_)
  rw [← Nat.add_div_right i hlimit]
  rw [h.length] at hi
  exact Nat.div_le_div_right (by omega)

end FanOut

variable {σ β : Type}

/-! ### The fetches of a post -/

/-- The URL that a call asks for. -/
def Event.url? (e : Event) : Option Text :=
  match e.act with
  | .fetch url => some url
  | .upload .. => none
  | .complete => none

/-- Where the media are that a directive names, if it names media and says where they are. -/
def Directive.url? (d : Directive) : Option Text :=
  ((Resource.ofDirective? d.raw).map (·.url)).filter (· ≠ [])

theorem Demand.url?_ofDirective (d : Directive) : (Demand.ofDirective d.raw).url? = d.url? := by
  rw [Demand.ofDirective, Directive.url?]
  cases Resource.ofDirective? d.raw with
  | none => rfl
  | some resource =>
    rw [Option.map_some, Option.filter_some]
    by_cases hurl : resource.url = [] <;> simp [Demand.url?, hurl]

/-- Sorting keeps the order of events that are in order already. -/
theorem Timeline.filter_mergeSort {p : Event → Bool} {events : List Event}
    (h : (events.filter p).Pairwise fun d e => Timeline.precedes d e = true) :
    (events.mergeSort Timeline.precedes).filter p = events.filter p := by
  have hsub := (List.sublist_mergeSort Timeline.precedes_trans Timeline.precedes_total h
    List.filter_sublist).filter p
  rw [List.filter_filter, List.filter_congr fun e _ => Bool.and_self (p e)] at hsub
  have hperm := (List.mergeSort_perm events Timeline.precedes).filter p
  exact (hsub.eq_of_length hperm.length_eq.symm).symm

namespace Job

variable {j j' : Job σ β} {number : Nat}

theorem fst_plan (i : Nat) (raw : Text) : (j.plan i raw).1 = Demand.ofDirective raw := by
  rw [plan]
  cases Demand.ofDirective raw with
  | nothing => rfl
  | withoutUrl => rfl
  | fetch url =>
    dsimp only
    split <;> rfl

/-- No directive takes longer than its fetch may. -/
theorem duration_plan_le (i : Nat) (raw : Text) : (j.plan i raw).2.1 ≤ j.renderer.timeout := by
  rw [plan]
  cases Demand.ofDirective raw with
  | nothing => exact Nat.zero_le _
  | withoutUrl => exact Nat.zero_le _
  | fetch url =>
    have hwithin : ((j.world.fetch i url).within j.renderer.timeout).1 ≤ j.renderer.timeout := by
      rw [Delayed.within]
      split_ifs with h
      · exact h
      · exact Nat.le_refl _
    dsimp only
    split <;> exact hwithin

/-- What a directive plans depends on the answer to its own fetch. -/
theorem plan_congr (htimeout : j'.renderer.timeout = j.renderer.timeout)
    (hdetect : j'.world.detect = j.world.detect) {i : Nat} {d : Directive}
    (hfetch : ∀ url, d.url? = some url → j'.world.fetch i url = j.world.fetch i url) :
    j'.plan i d.raw = j.plan i d.raw := by
  rw [← Demand.url?_ofDirective] at hfetch
  rw [plan, plan, htimeout, hdetect]
  cases hdemand : Demand.ofDirective d.raw with
  | nothing => rfl
  | withoutUrl => rfl
  | fetch url =>
    dsimp only
    rw [hfetch url (congrArg Demand.url? hdemand)]

theorem length_plans : j.plans.length = j.draft.directives.length := List.length_mapIdx

theorem length_slots : j.slots.length = j.draft.directives.length := by
  rw [slots, FanOut.length_slots, List.length_map, length_plans]

theorem filterMap_plans :
    (j.plans.filterMap fun plan => plan.1.url?) = j.draft.directives.filterMap Directive.url? := by
  have hdemands : j.plans.map (·.1) = j.draft.directives.map fun d => Demand.ofDirective d.raw := by
    rw [plans]
    refine List.ext_getElem (by simp) fun i _ _ => ?_
    rw [List.getElem_map, List.getElem_mapIdx, List.getElem_map, fst_plan]
  have hurls : (fun d : Directive => (Demand.ofDirective d.raw).url?) = Directive.url? :=
    funext Demand.url?_ofDirective
  rw [← hurls]
  have hmapped := congrArg (List.filterMap Demand.url?) hdemands
  rwa [List.filterMap_map, List.filterMap_map] at hmapped

theorem filterMap_directiveEvents (i : Nat) (slot : Slot)
    (plan : Demand × Nat × Option (Bytes × String)) :
    (directiveEvents number i slot plan).filterMap Event.url? = plan.1.url?.toList := by
  obtain ⟨demand, duration, upload?⟩ := plan
  cases demand <;> cases upload? <;> rfl

theorem filterMap_calls :
    (j.calls number).filterMap Event.url? = j.draft.directives.filterMap Directive.url? := by
  have hplans : (j.slots.zip j.plans).zipIdx.map (fun x => x.1.2) = j.plans := by
    have hsnd : (j.slots.zip j.plans).map Prod.snd = j.plans :=
      List.map_snd_zip (Nat.le_of_eq (length_plans.trans length_slots.symm))
    conv_rhs => rw [← hsnd, ← List.zipIdx_map_fst 0 (j.slots.zip j.plans), List.map_map]
    rfl
  rw [calls, List.filterMap_flatMap]
  simp only [filterMap_directiveEvents]
  rw [← filterMap_plans, List.filterMap_eq_flatMap_toList]
  conv_rhs => rw [← hplans, List.flatMap_map]

/-- The fetches of a post are in order of time. -/
theorem pairwise_fetches (hconcurrency : 0 < j.renderer.concurrency) :
    ((j.calls number).filter fun e => e.url?.isSome).Pairwise
      fun d e => Timeline.precedes d e = true := by
  have htimetable := FanOut.isTimetable_slots hconcurrency (j.plans.map fun plan => plan.2.1)
  have hfetch : ∀ {i slot plan} {e : Event},
      e ∈ (directiveEvents number i slot plan).filter (fun e => e.url?.isSome) →
        e.time = slot.start ∧ e.job = number := by
    intro i slot plan e he
    obtain ⟨he, hurl⟩ := List.mem_filter.mp he
    rcases mem_directiveEvents_iff.mp he with ⟨url, -, rfl⟩ | ⟨payload, mime, -, rfl⟩
    · exact ⟨rfl, rfl⟩
    · cases hurl
  rw [calls, List.filter_flatMap, List.pairwise_flatMap]
  constructor
  · rintro ⟨⟨slot, plan⟩, i⟩ -
    refine List.pairwise_of_forall_mem_list fun d hd e he => ?_
    obtain ⟨hdtime, hdjob⟩ := hfetch hd
    obtain ⟨hetime, hejob⟩ := hfetch he
    rw [Timeline.precedes_iff, hdtime, hetime, hdjob, hejob]
    exact Or.inr ⟨rfl, Nat.le_refl _⟩
  · rw [List.pairwise_iff_getElem]
    intro i i' hi hi' hlt d hd e he
    simp only [List.getElem_zipIdx, List.getElem_zip] at hd he
    obtain ⟨hdtime, hdjob⟩ := hfetch hd
    obtain ⟨hetime, hejob⟩ := hfetch he
    have hslot {k : Nat} (hk : k < (j.slots.zip j.plans).zipIdx.length) : k < j.slots.length := by
      rw [List.length_zipIdx, List.length_zip] at hk
      exact Nat.lt_of_lt_of_le hk (Nat.min_le_left _ _)
    have hstart := htimetable.start_mono (Nat.le_of_lt hlt) (List.getElem?_eq_getElem (hslot hi))
      (List.getElem?_eq_getElem (hslot hi'))
    rw [Timeline.precedes_iff, hdtime, hetime, hdjob, hejob]
    exact (Nat.lt_or_eq_of_le hstart).imp_right fun h => ⟨h, Nat.le_refl _⟩

theorem filterMap_events (hconcurrency : 0 < j.renderer.concurrency) :
    (Timeline.events [j]).filterMap Event.url?
      = j.draft.directives.filterMap Directive.url? := by
  have hevents : Timeline.events [j] =
      (j.calls 0 ++ [j.completion 0]).mergeSort Timeline.precedes := by
    rw [Timeline.events, List.zipIdx_singleton, List.flatMap_singleton]
    rfl
  have hfetches : (j.calls 0 ++ [j.completion 0]).filter (fun e => e.url?.isSome)
      = (j.calls 0).filter fun e => e.url?.isSome := by
    rw [List.filter_append]
    exact List.append_nil _
  have hpairwise : ((j.calls 0).filter fun e => e.url?.isSome).Pairwise
      fun d e => Timeline.precedes d e = true := pairwise_fetches hconcurrency
  have hsorted := Timeline.filter_mergeSort (hfetches ▸ hpairwise)
  have hdrop (events : List Event) : events.filterMap Event.url?
      = (events.filter fun e => e.url?.isSome).filterMap Event.url? := by
    rw [List.filterMap_filter]
    refine congrArg (fun f => List.filterMap f events) (funext fun e => ?_)
    cases e.url? <;> rfl
  rw [hdrop, hevents, hsorted, hfetches, ← hdrop, filterMap_calls]

/-! ### What the world sees -/

/-- The post leaves a record of its fetches, in order, and of nothing else that it does. -/
structure NotesFetches (j : Job σ β) (log : σ → List Text) : Prop where
  /-- A fetch is added to the record. -/
  fetch : ∀ url s, log (j.world.noteFetch url s) = log s ++ [url]
  /-- An upload is not. -/
  upload : ∀ payload mime s, log (j.world.upload payload mime s).2 = log s
  /-- The post itself is not. -/
  complete : ∀ post s, log (j.complete post s).2 = log s

theorem NotesFetches.step {log : σ → List Text} (h : j.NotesFetches log)
    (p : Timeline.Progress σ β) {e : Event} (hjob : e.job = 0) :
    log (Timeline.step [j] p e).world = log p.world ++ e.url?.toList := by
  cases hact : e.act with
  | fetch url =>
    rw [Timeline.step_fetch j p hjob hact, World.after, Event.url?, hact]
    exact h.fetch url p.world
  | upload i payload mime =>
    rw [Timeline.step_upload j p hjob hact, World.after, Event.url?, hact]
    exact (h.upload payload mime p.world).trans (List.append_nil _).symm
  | complete =>
    unfold Timeline.step
    rw [hjob, Event.url?, hact]
    exact (h.complete _ p.world).trans (List.append_nil _).symm

/-- The record of a run is that of the fetches among its events. -/
theorem NotesFetches.progressIn {log : σ → List Text} (h : j.NotesFetches log) {order : List Event}
    (hjob : ∀ e ∈ order, e.job = 0) (s : σ) :
    log (Timeline.progressIn order [j] s).world = log s ++ order.filterMap Event.url? := by
  induction order using List.reverseRecOn with
  | nil => exact (List.append_nil _).symm
  | append_singleton order e ih =>
    have hlast := hjob e (List.mem_append_right _ (List.mem_singleton_self e))
    have hbefore := ih fun e' he' => hjob e' (List.mem_append_left _ he')
    have hstep : Timeline.progressIn (order ++ [e]) [j] s
        = Timeline.step [j] (Timeline.progressIn order [j] s) e := by
      rw [Timeline.progressIn, List.foldl_append]
      rfl
    have hurl : [e].filterMap Event.url? = e.url?.toList := by
      cases hurl : e.url? <;> simp [hurl]
    rw [hstep, h.step _ hlast, hbefore, List.filterMap_append, hurl, List.append_assoc]

theorem job_of_mem_events {e : Event} (he : e ∈ Timeline.events [j]) : e.job = 0 := by
  obtain ⟨calls, hcalls, hevents⟩ := Timeline.events_singleton j
  rw [hevents, List.mem_append, List.mem_singleton] at he
  rcases he with he | rfl
  · exact (isPlanned_of_mem_calls (hcalls.mem_iff.mp he)).1
  · rfl

/-! ### The outcome of a directive -/

/-- The handle that a directive of a post has when all calls of the post have happened, if it has
one. -/
def outcome (j : Job σ β) (s : σ) (directive : Nat) : Option Handle :=
  (Timeline.progressIn (Timeline.events [j]) [j] s).handles.lookup (0, directive)

/-- Where uploads are answered by what is uploaded, the outcome of a directive is settled by what it
plans. -/
theorem outcome_eq {a : Answers} (hw : j.world.Uploads a) (s : σ) (i : Nat) :
    j.outcome s i = j.handleOf a i := by
  obtain ⟨calls, hcalls, hevents⟩ := Timeline.events_singleton j
  have hhandles : (Timeline.progressIn (calls ++ [j.completion 0]) [j] s).handles
      = (Timeline.progressIn calls [j] s).handles := by
    rw [Timeline.progressIn, List.foldl_append]
    rfl
  rw [outcome, hevents, hhandles, Timeline.lookup_progressIn hw s hcalls]

theorem handleOf_congr {a : Answers} {i : Nat} (h : j'.plans[i]? = j.plans[i]?) :
    j'.handleOf a i = j.handleOf a i := by
  rw [handleOf, handleOf, h]

/-! ### Fan-out -/

/-- **Bounded fan-out.**  Of the directives of an expanded text `n` are resolved at a time, and the
timetable is the only one in which they give up their places in order.  Each URL that a directive
gives for its media is asked for once, in the order of the text, and any record that the world keeps
of its fetches shows just these.  The directive with number `i` has
finished after `i / n + 1` times the limit on a fetch, and so the post is complete after as many
limits as there are sets of `n` directives.  What a directive uploads depends on the answer to its
own fetch only, and so does its outcome where uploads are answered by what is uploaded. -/
theorem fanOut (r : Renderer) (setting : Nat) (w : World σ) (complete : Post → σ → β × σ)
    (expanded : Text) :
    let j : Job σ β := ⟨r.withConcurrency setting, w, Draft.ofExpanded expanded, complete⟩
    let n := max 1 setting
    let directives := Directive.scan expanded
    (∀ slots, FanOut.IsTimetable n (j.plans.map fun plan => plan.2.1) slots ↔ slots = j.slots) ∧
      (Timeline.events [j]).filterMap Event.url? = directives.filterMap Directive.url? ∧
      (∀ log, j.NotesFetches log → ∀ s,
        log (Timeline.run [j] s).2 = log s ++ directives.filterMap Directive.url?) ∧
      j.slots.length = directives.length ∧
      (∀ (i : Nat) slot, j.slots[i]? = some slot → slot.finish ≤ (i / n + 1) * r.timeout) ∧
      j.duration ≤ (directives.length + n - 1) / n * r.timeout ∧
      ∀ (w' : World σ) (i : Nat) d, w'.detect = w.detect → directives[i]? = some d →
        (∀ url, d.url? = some url → w'.fetch i url = w.fetch i url) →
        ({ j with world := w' } : Job σ β).plans[i]? = j.plans[i]? ∧
          ∀ a, w.Uploads a → w'.Uploads a → ∀ s s',
            ({ j with world := w' } : Job σ β).outcome s' i = j.outcome s i := by
  intro j n directives
  have hn : j.renderer.concurrency = n := Nat.max_comm setting 1
  have hpos : 0 < n := Nat.le_max_left 1 setting
  have hslots : j.slots = FanOut.slots n (j.plans.map fun plan => plan.2.1) := by rw [slots, hn]
  have htimetable : FanOut.IsTimetable n (j.plans.map fun plan => plan.2.1) j.slots :=
    hslots ▸ FanOut.isTimetable_slots hpos _
  have hlongest : ∀ duration ∈ j.plans.map (fun plan => plan.2.1), duration ≤ r.timeout := by
    intro duration hduration
    obtain ⟨plan, hplan, rfl⟩ := List.mem_map.mp hduration
    obtain ⟨i, hi, rfl⟩ := List.mem_mapIdx.mp hplan
    exact duration_plan_le (j := j) i _
  have hfetches : (Timeline.events [j]).filterMap Event.url?
      = directives.filterMap Directive.url? := filterMap_events (hn ▸ hpos)
  refine ⟨fun slots => ?_, hfetches, ?_, length_slots, ?_, ?_, ?_⟩
  · rw [hslots]
    exact FanOut.isTimetable_iff hpos
  · intro log hlog s
    rw [← hfetches]
    exact hlog.progressIn (fun _ he => job_of_mem_events he) s
  · exact fun i slot => htimetable.finish_le hpos hlongest
  · have hduration := htimetable.finish_table_le hpos hlongest
    rwa [List.length_map, length_plans] at hduration
  · intro w' i d hdetect hd hfetch
    have htimeout : ({ j with world := w' } : Job σ β).renderer.timeout = j.renderer.timeout := rfl
    have hplan : ({ j with world := w' } : Job σ β).plan i d.raw = j.plan i d.raw :=
      plan_congr htimeout hdetect hfetch
    have hplans : ({ j with world := w' } : Job σ β).plans[i]? = j.plans[i]? := by
      rw [plans, plans, List.getElem?_mapIdx, List.getElem?_mapIdx]
      show (directives[i]?).map _ = (directives[i]?).map _
      rw [hd, Option.map_some, Option.map_some, hplan]
    refine ⟨hplans, fun a hw hw' s s' => ?_⟩
    rw [outcome_eq hw' s' i, outcome_eq hw s i, handleOf_congr hplans]

/-- A late picture and what stands behind it, two at a time: the directive that names no media has
finished at once, but holds its place until the picture has been given up. -/
theorem fanOut_late :
    let text : Text := ['\x7b', 'i', 'm', 'g', ' ', 'a', '\x7d', '\x7b', 'g', 'i', 'f', '\x7d',
      '\x7b', 'i', 'm', 'g', ' ', 'b', '\x7d', '\x7b', 'v', 'i', 'd', ' ', 'c', '\x7d']
    let w (delay : Nat) : World (List Text) :=
      { fetch := fun _ url => ⟨if url = ['a'] then delay else 1, .ok []⟩
        noteFetch := fun url urls => urls ++ [url]
        detect := fun _ => .ok "image/png"
        upload := fun _ mime urls => (.ok mime, urls) }
    let j (delay : Nat) : Job (List Text) Post :=
      ⟨Renderer.withConcurrency { timeout := 5 } 2, w delay, Draft.ofExpanded text, (·, ·)⟩
    (j 9).slots = [⟨0, 5⟩, ⟨0, 0⟩, ⟨5, 6⟩, ⟨5, 6⟩] ∧
      (j 9).duration ≤ 2 * 5 ∧
      (Timeline.events [j 9]).filterMap Event.url? = [['a'], ['b'], ['c']] ∧
      (Timeline.run [j 9] []).2 = [['a'], ['b'], ['c']] ∧
      (j 9).outcome [] 3 = (j 2).outcome [] 3 := by
  intro text w j
  obtain ⟨_, hfetches, hseen, _, _, hduration, houtcome⟩ :=
    fanOut { timeout := 5 } 2 (w 9) (fun post s => (post, s)) text
  have hnotes : (j 9).NotesFetches id := ⟨fun _ _ => rfl, fun _ _ _ => rfl, fun _ _ => rfl⟩
  have hsame := houtcome (w 2) 3 ⟨['\x7b', 'v', 'i', 'd', ' ', 'c', '\x7d'], 19, 26⟩ rfl rfl
    (fun url hurl => by rw [← Option.some.inj hurl]; rfl)
  have hlength : (Directive.scan text).length = 4 := rfl
  rw [hlength] at hduration
  refine ⟨rfl, hduration, hfetches, hseen id hnotes [], ?_⟩
  exact (hsame.2 ⟨fun _ => .ok [], fun _ => .ok "image/png", fun _ mime => .ok mime⟩
    (fun _ _ _ => rfl) (fun _ _ _ => rfl) [] []).symm

end Job

end GrammarBots

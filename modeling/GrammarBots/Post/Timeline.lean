import GrammarBots.Media.FanOut
import GrammarBots.Post.Renderer

/-!
# Rendering in time

Several posts are rendered side by side.  Within a post, directives are resolved a few at a time; a
fetch takes its time, while detection, uploads and publishing take none.  How long a fetch takes
depends on the directive and its URL only, so the whole timetable is known beforehand: `Job.events`
lists what a post asks of the world and when, and `Timeline.run` carries out the events of all posts
in order of time.  Among events of one time those of an earlier post come first, and within a post
those of an earlier directive.
-/

namespace GrammarBots

/-- The answer to a fetch and how long it takes. -/
structure Delayed where
  /-- The milliseconds until the answer. -/
  delay : Nat
  /-- The answer. -/
  answer : Except MediaError Bytes

/-- The milliseconds after which a fetch is over, and its answer if it came in time. -/
def Delayed.within (d : Delayed) (timeout : Nat) : Nat × Option (Except MediaError Bytes) :=
  if d.delay ≤ timeout then (d.delay, some d.answer) else (timeout, none)

/-- The world as it shows to one post.  `σ` is the state of the world. -/
structure World (σ : Type) where
  /-- What a URL answers to the directive with the given number. -/
  fetch : Nat → Text → Delayed
  /-- The world after a URL was asked for. -/
  noteFetch : Text → σ → σ
  /-- The type of a payload. -/
  detect : Bytes → Except MediaError String
  /-- The answer to an upload, and the world after it. -/
  upload : Bytes → String → σ → Except MediaError Handle × σ

/-- A draft to be rendered, and what is done with the post. -/
structure Job (σ β : Type) where
  /-- How it is rendered. -/
  renderer : Renderer
  /-- The world as it shows to this post. -/
  world : World σ
  /-- The draft. -/
  draft : Draft
  /-- What is done with the post. -/
  complete : Post → σ → β × σ

/-- What a post asks of the world. -/
inductive Act where
  /-- A URL is asked for. -/
  | fetch (url : Text)
  /-- The payload of a directive is uploaded. -/
  | upload (directive : Nat) (payload : Bytes) (mime : String)
  /-- The post is complete. -/
  | complete

/-- What happens at a time. -/
structure Event where
  /-- The milliseconds since the posts were begun. -/
  time : Nat
  /-- The number of the post. -/
  job : Nat
  /-- What happens. -/
  act : Act

namespace Job

variable {σ β : Type}

/-- The work of rendering a post from a grammar, or the error of its expansion. -/
def ofGrammar {γ : Type} [Chooser γ] (renderer : Renderer) (world : World σ)
    (complete : Post → σ → β × σ) (g : Grammar) (chance : γ) : Except GrammarError (Job σ β) :=
  (g.draft chance).1.map fun draft => ⟨renderer, world, draft, complete⟩

/-- What the directive with the given number asks for, how long it takes, and the payload that it
uploads. -/
def plan (j : Job σ β) (directive : Nat) (raw : Text) : Demand × Nat × Option (Bytes × String) :=
  match Demand.ofDirective raw with
  | .fetch url =>
    let (duration, answer?) := (j.world.fetch directive url).within j.renderer.timeout
    match fetched j.renderer.timeout url answer? with
    | .ok payload => (.fetch url, duration, (j.world.detect payload).toOption.map (payload, ·))
    | .error _ => (.fetch url, duration, none)
  | demand => (demand, 0, none)

/-- The events of one directive. -/
def directiveEvents (number : Nat) (directive : Nat) (slot : Slot)
    (plan : Demand × Nat × Option (Bytes × String)) : List Event :=
  (plan.1.url?.toList.map fun url => ⟨slot.start, number, .fetch url⟩) ++
    plan.2.2.toList.map fun (payload, mime) =>
      ⟨slot.finish, number, .upload directive payload mime⟩

/-- The plans of all directives. -/
def plans (j : Job σ β) : List (Demand × Nat × Option (Bytes × String)) :=
  j.draft.directives.mapIdx fun i d => j.plan i d.raw

/-- The times at which the directives are under way. -/
def slots (j : Job σ β) : List Slot :=
  FanOut.slots j.renderer.concurrency (j.plans.map fun plan => plan.2.1)

/-- When the post is complete. -/
def duration (j : Job σ β) : Nat := FanOut.finish j.slots

/-- What the directives of the post with the given number ask of the world. -/
def calls (number : Nat) (j : Job σ β) : List Event :=
  (j.slots.zip j.plans).zipIdx.flatMap fun ((slot, plan), i) =>
    directiveEvents number i slot plan

/-- The end of the post with the given number. -/
def completion (number : Nat) (j : Job σ β) : Event := ⟨j.duration, number, .complete⟩

/-- What happens to the post with the given number. -/
def events (number : Nat) (j : Job σ β) : List Event := j.calls number ++ [j.completion number]

end Job

namespace Timeline

variable {σ β : Type}

/-- What has become of the posts so far. -/
structure Progress (σ β : Type) where
  /-- The state of the world. -/
  world : σ
  /-- The handles of the uploads that were accepted, by post and directive. -/
  handles : List ((Nat × Nat) × Handle)
  /-- The results of the posts that are complete. -/
  results : List (Nat × β)

/-- What an event does. -/
def step (jobs : List (Job σ β)) (p : Progress σ β) (e : Event) : Progress σ β :=
  match jobs[e.job]? with
  | none => p
  | some j =>
    match e.act with
    | .fetch url => { p with world := j.world.noteFetch url p.world }
    | .upload i payload mime =>
      let (answer, world) := j.world.upload payload mime p.world
      match answer with
      | .ok handle => { p with world, handles := ((e.job, i), handle) :: p.handles }
      | .error _ => { p with world }
    | .complete =>
      let handles := (List.range j.draft.directives.length).map fun i =>
        p.handles.lookup (e.job, i)
      let (result, world) := j.complete ⟨j.draft.text, j.renderer.attach handles⟩ p.world
      { p with world, results := (e.job, result) :: p.results }

/-- Whether an event happens before another one of a later directive. -/
def precedes (a b : Event) : Bool := a.time < b.time || (a.time == b.time && a.job ≤ b.job)

/-- The events of all posts in the order they happen. -/
def events (jobs : List (Job σ β)) : List Event :=
  (jobs.zipIdx.flatMap fun (j, number) => j.events number).mergeSort precedes

/-- The posts after events that happen in the given order. -/
def progressIn (order : List Event) (jobs : List (Job σ β)) (world : σ) : Progress σ β :=
  order.foldl (step jobs) ⟨world, [], []⟩

/-- The posts after the events for which `happens` holds. -/
def runWhere (happens : Event → Bool) (jobs : List (Job σ β)) (world : σ) : Progress σ β :=
  progressIn ((events jobs).filter happens) jobs world

/-- The results of all posts, in the order of the posts, and the world after them, if their events
happen in the given order. -/
def runIn (order : List Event) (jobs : List (Job σ β)) (world : σ) : List β × σ :=
  let p := progressIn order jobs world
  ((List.range jobs.length).filterMap fun i => p.results.lookup i, p.world)

/-- The results of all posts, in the order of the posts, and the world after them. -/
def run (jobs : List (Job σ β)) (world : σ) : List β × σ := runIn (events jobs) jobs world

/-- When all posts are complete. -/
def duration (jobs : List (Job σ β)) : Nat := jobs.foldl (fun t j => max t j.duration) 0

end Timeline

end GrammarBots

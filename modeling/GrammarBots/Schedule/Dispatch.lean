import GrammarBots.Post.Timeline
import GrammarBots.Schedule.Tick

/-!
# Posting for several bots

Two ways of posting for the bots of a tick.  `Dispatch.oneByOne` finishes each post before it begins
the next and works in any monad.  `Dispatch.sideBySide` begins all posts at once and carries them
out on a timeline; it needs to know how long each fetch takes.  In both, every bot has a session of
its own, and a bot whose session cannot be begun keeps no other bot from posting.
-/

namespace GrammarBots

/-! ### One after the other -/

/-- What a bot posts with. -/
structure Session (m : Type → Type) (γ : Type) where
  /-- The state of chance. -/
  chance : γ
  /-- How posts are rendered. -/
  renderer : Renderer
  /-- What media are resolved with. -/
  services : MediaServices m
  /-- Publishes a post. -/
  publish : Post → m (Except PublishError Receipt)

namespace Session

variable {m : Type → Type} [Monad m] {γ : Type} [Chooser γ]

/-- Renders a post from a grammar. -/
def render (s : Session m γ) (g : Grammar) : m (Except GrammarError Post) :=
  match (g.draft s.chance).1 with
  | .error e => return .error e
  | .ok draft => return .ok (← s.renderer.render s.services draft)

/-- Renders a post from a grammar and publishes it. -/
def post (s : Session m γ) (g : Grammar) : m (Except PostError Receipt) := do
  match ← s.render g with
  | .error e => return .error (.grammar e)
  | .ok post => return (← s.publish post).mapError .publish

end Session

namespace Dispatch

/-- The posting found for a place of the store. -/
def lookUp (postings : List (Nat × Posting)) (index : Nat) : Posting :=
  (postings.lookup index).getD
    (.error (.session (.ofCause (.message "the bot was not asked to post"))))

/-- Posts for one bot after the other. -/
def oneByOne {m : Type → Type} [Monad m] {γ : Type} [Chooser γ]
    (session : BotRecord → m (Except Failure (Session m γ))) : Dispatch m := fun candidates => do
  let postings ← candidates.mapM fun c => do
    match ← session c.started with
    | .error f => return (c.index, .error (.session f))
    | .ok s => return (c.index, (← s.post c.grammar).mapError .post)
  return lookUp postings

/-! ### Side by side -/

/-- What a bot posts with when time counts.  `σ` is the state of the world. -/
structure TimedSession (σ γ : Type) where
  /-- The state of chance. -/
  chance : γ
  /-- How posts are rendered. -/
  renderer : Renderer
  /-- The world as it shows to the bot. -/
  world : World σ
  /-- Publishes a post. -/
  publish : Post → σ → Except PublishError Receipt × σ

/-- The work of posting. -/
abbrev PostJob (σ : Type) := Job σ (Except PublishError Receipt)

variable {σ γ : Type} [Chooser γ]

/-- The work of posting for a candidate, if it comes to that. -/
def begin (session : BotRecord → Except Failure (TimedSession σ γ)) (c : Candidate) :
    Except PostingError (PostJob σ) :=
  match session c.started with
  | .error f => .error (.session f)
  | .ok s =>
    (Job.ofGrammar s.renderer s.world s.publish c.grammar s.chance).mapError fun e =>
      .post (.grammar e)

/-- What has begun for several candidates, by their places in the store. -/
abbrev Begun (σ : Type) := List (Nat × Except PostingError (PostJob σ))

/-- Begins posting for several candidates. -/
def beginAll (session : BotRecord → Except Failure (TimedSession σ γ))
    (candidates : List Candidate) : Begun σ :=
  candidates.map fun c => (c.index, begin session c)

/-- The work that is to be carried out. -/
def jobs (begun : Begun σ) : List (PostJob σ) := begun.filterMap fun entry => entry.2.toOption

/-- What came of each place of the store, given the results of the work in order. -/
def postings : (begun : Begun σ) → (results : List (Except PublishError Receipt)) →
    List (Nat × Posting)
  | (i, .error e) :: begun, results => (i, .error e) :: postings begun results
  | (i, .ok _) :: begun, result :: results =>
    (i, result.mapError (.post ∘ .publish)) :: postings begun results
  | _, _ => []

/-- Posts for all bots at the same time. -/
def sideBySide (session : BotRecord → Except Failure (TimedSession σ γ)) :
    Dispatch (StateM σ) := fun candidates => do
  let begun := beginAll session candidates
  let results ← modifyGet (Timeline.run (jobs begun))
  return lookUp (postings begun results)

end Dispatch

end GrammarBots

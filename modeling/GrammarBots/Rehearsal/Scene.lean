import GrammarBots.Rehearsal.Stage
import GrammarBots.Schedule.Polling

/-!
# Rehearsing the schedule

A scene is a store of bots and the logs of what the bots did.  Some bots may be told to fail: they
play on a stage of their own, with a log of its own, on which no post is taken.  A bot may also be
kept from beginning a session at all.
-/

namespace GrammarBots.Rehearsal

/-- A part of a state that can be looked at and replaced. -/
structure Focus (σ τ : Type) where
  /-- The part. -/
  get : σ → τ
  /-- The state with the part replaced. -/
  set : τ → σ → σ

namespace Focus

variable {σ τ α : Type}

/-- What changes the part changes the state. -/
def lift (f : Focus σ τ) (step : τ → α × τ) (s : σ) : α × σ :=
  let (a, t) := step (f.get s)
  (a, f.set t s)

/-- A world that shows to a part of the state. -/
def world (f : Focus σ τ) (w : World τ) : World σ where
  fetch := w.fetch
  noteFetch url s := f.set (w.noteFetch url (f.get s)) s
  detect := w.detect
  upload payload mime := f.lift (w.upload payload mime)

/-- Access to files that are a part of the state. -/
def files (f : Focus σ FileTree) : FileAccess (StateM σ) where
  contains path := f.lift (FileAccess.tree.contains path)
  read path := f.lift (FileAccess.tree.read path)
  change step := f.lift (FileAccess.tree.change step)

end Focus

/-- Where a scene keeps its bots. -/
inductive Shelf where
  /-- In memory; the saves are counted. -/
  | memory (bots : List BotRecord) (saves : Nat)
  /-- In a file of a tree. -/
  | file (tree : FileTree) (path : Path)

/-- The state of a scene. -/
structure Scene where
  /-- The store. -/
  shelf : Shelf
  /-- The log of the bots that post. -/
  log : Log := {}
  /-- The log of the bots that are told to fail. -/
  failedLog : Log := {}

namespace Scene

/-- The log of the bots that post. -/
def onLog : Focus Scene Log := ⟨Scene.log, fun log s => { s with log }⟩

/-- The log of the bots that are told to fail. -/
def onFailedLog : Focus Scene Log := ⟨Scene.failedLog, fun failedLog s => { s with failedLog }⟩

/-- The tree of files. -/
def onTree : Focus Scene FileTree where
  get s := match s.shelf with
    | .file tree _ => tree
    | .memory _ _ => ⟨[]⟩
  set tree s := match s.shelf with
    | .file _ path => { s with shelf := .file tree path }
    | .memory _ _ => s

/-- The store of a scene. -/
def store : BotStore (StateM Scene) where
  load := do
    match (← get).shelf with
    | .memory bots _ => return .ok bots
    | .file _ path => (BotStore.ofFile onTree.files path).load
  save bots := do
    match (← get).shelf with
    | .memory _ saves => modifyGet fun s => (.ok (), { s with shelf := .memory bots (saves + 1) })
    | .file _ path => (BotStore.ofFile onTree.files path).save bots

end Scene

/-- What a rehearsal is like. -/
structure Cast where
  /-- The stage. -/
  stage : Stage
  /-- What every session is seeded with. -/
  seed : UInt64
  /-- Why posts of the bots that are told to fail are not taken. -/
  failure : Option PublishError := none
  /-- The ids of the bots that are told to fail; all of them if there is no list. -/
  failing : Option (List String) := none
  /-- The bots that cannot begin a session, and why not, outermost context first. -/
  absent : List (String × List String) := []

namespace Cast

/-- The failure told by a chain of messages, outermost first. -/
def chainFailure (chain : List String) : Failure :=
  ⟨chain.dropLast, .message (chain.getLast?.getD "")⟩

/-- Whether a bot is told to fail. -/
def fails (c : Cast) (bot : BotRecord) : Bool :=
  c.failure.isSome && c.failing.all (·.contains bot.id)

/-- What a bot posts with. -/
def session (c : Cast) (bot : BotRecord) :
    Except Failure (Dispatch.TimedSession Scene Generator) :=
  match c.absent.lookup bot.id with
  | some chain => .error (chainFailure chain)
  | none =>
    let (focus, stage) :=
      if c.fails bot then (Scene.onFailedLog, { c.stage with failure := c.failure })
      else (Scene.onLog, c.stage)
    .ok {
      chance := Generator.ofSeed c.seed
      renderer := {}
      world := focus.world stage.world
      publish := fun post => focus.lift (stage.publish post) }

/-- Posts for the bots of a rehearsal. -/
def dispatch (c : Cast) : Dispatch (StateM Scene) := Dispatch.sideBySide c.session

end Cast

end GrammarBots.Rehearsal

import GrammarBots.Bot.Lookup
import GrammarBots.Bot.Store
import GrammarBots.Schedule.Run

/-!
# Running the bots that are due

A tick loads the bots, runs those that are due, records how each run ended, and saves all bots once.
How the posts are made, one after the other or side by side, is left to a `Dispatch`; it is given
the bots that come to posting and tells what came of each.  So a bot's record after a tick depends
on that bot and on what came of its own post, and on nothing else.
-/

namespace GrammarBots

/-- A bot that comes to posting. -/
structure Candidate where
  /-- The place of the bot in the store. -/
  index : Nat
  /-- The bot as it is in the store. -/
  bot : BotRecord
  /-- The grammar of its script. -/
  grammar : Grammar
  /-- The time of its run. -/
  now : Instant

/-- Posts for the bots given and tells what came of the bot at each place of the store. -/
abbrev Dispatch (m : Type → Type) := List Candidate → m (Nat → Posting)

namespace Candidate

/-- The bot at a place of the store as a candidate, if its script is a grammar. -/
def of? (bot : BotRecord) (index : Nat) (now : Instant) : Option Candidate :=
  bot.grammar.toOption.map fun grammar => ⟨index, bot, grammar, now⟩

/-- The record of the bot while it posts: its run has begun, and no error is known of it. -/
def started (c : Candidate) : BotRecord := { c.bot with lastRun := some c.now, lastError := none }

end Candidate

/-- What a tick did. -/
structure TickReport where
  /-- The bots that ran, by id, and how their runs ended. -/
  ran : List (String × RunEnd)
  /-- The bots that were not due. -/
  skipped : List String
  deriving DecidableEq

namespace TickReport

/-- The number of bots that posted. -/
def posted (r : TickReport) : Nat := (r.ran.filter fun run => run.2.isPosted).length

/-- The number of bots that ran and did not post. -/
def failed (r : TickReport) : Nat := r.ran.length - r.posted

end TickReport

namespace Schedule

/-- The bots with their places in the store. -/
def placed (bots : List BotRecord) : List (BotRecord × Nat) := bots.zipIdx

/-- The bots that come to posting at the given time. -/
def candidates (bots : List BotRecord) (now : Instant) : List Candidate :=
  ((placed bots).filter fun entry => entry.1.isDue now).filterMap fun (bot, i) =>
    Candidate.of? bot i now

/-- A bot after a tick. -/
def afterTick (now : Instant) (posting : Posting) (bot : BotRecord) : BotRecord :=
  if bot.isDue now then bot.afterRun now (bot.runEnd posting) else bot

/-- All bots after a tick. -/
def botsAfter (bots : List BotRecord) (now : Instant) (postings : Nat → Posting) :
    List BotRecord :=
  (placed bots).map fun (bot, i) => afterTick now (postings i) bot

/-- The report of a tick. -/
def report (bots : List BotRecord) (now : Instant) (postings : Nat → Posting) : TickReport where
  ran := ((placed bots).filter fun entry => entry.1.isDue now).map fun (bot, i) =>
    (bot.id, bot.runEnd (postings i))
  skipped := (bots.filter fun bot => !bot.isDue now).map (·.id)

variable {m : Type → Type} [Monad m]

/-- Loads the bots, within the context of a failure to do so. -/
def loadBots (store : BotStore m) : m (Except Failure (List BotRecord)) :=
  return (← store.load).mapError (·.within "Failed to load bots")

/-- Saves the bots, within the context of a failure to do so. -/
def saveBots (store : BotStore m) (bots : List BotRecord) : m (Except Failure Unit) :=
  return (← store.save bots).mapError (·.within "Failed to save bots")

/-- Runs the bots that are due at the given time. -/
def tick (store : BotStore m) (dispatch : Dispatch m) (now : Instant) :
    m (Except Failure TickReport) := do
  match ← loadBots store with
  | .error f => return .error f
  | .ok bots =>
    let postings ← dispatch (candidates bots now)
    let saved ← saveBots store (botsAfter bots now postings)
    return saved.map fun _ => report bots now postings

/-- Runs a bot at the given place of the store. -/
def runBot (dispatch : Dispatch m) (bot : BotRecord) (index : Nat) (now : Instant) :
    m (RunEnd × BotRecord) := do
  let postings ← dispatch (Candidate.of? bot index now).toList
  let finish := bot.runEnd (postings index)
  return (finish, bot.afterRun now finish)

/-- Runs the bot with the given id or name, whether it is due or not.  The clock is read once the
bot is found. -/
def runNow (store : BotStore m) (dispatch : Dispatch m) (clock : m Instant) (query : String) :
    m (Except Failure RunEnd) := do
  match ← loadBots store with
  | .error f => return .error f
  | .ok bots =>
    match BotRecord.findIndex bots query with
    | .error e => return .error (.ofApp e)
    | .ok index =>
      match bots[index]? with
      | none => return .error (.ofApp (.botNotFound query []))
      | some bot =>
        let (finish, bot) ← runBot dispatch bot index (← clock)
        let saved ← saveBots store (bots.set index bot)
        return saved.map fun _ => finish

end Schedule

end GrammarBots

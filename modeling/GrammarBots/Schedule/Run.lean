import GrammarBots.Bot.Record
import GrammarBots.Failure

/-!
# How a run ends

A run of a bot ends in one of three ways: its script is no grammar, nothing could be posted, or
something was posted.  `BotRecord.afterRun` writes the end of a run into the record of the bot.  A
bot whose script is no grammar stays due; every other run moves the bot to its next run, whether
anything was posted or not.
-/

namespace GrammarBots

/-- Why a bot with a grammar posted nothing. -/
inductive PostingError where
  /-- There was nothing to post with. -/
  | session (f : Failure)
  /-- The post failed. -/
  | post (e : PostError)
  deriving DecidableEq

namespace PostingError

/-- The short code of the error. -/
def code : PostingError → String
  | .session _ => "session"
  | .post e => e.code

/-- The detail that goes with the code. -/
def detail : PostingError → String
  | .session f => f.oneLine
  | .post e => e.detail

/-- The error in words. -/
def message : PostingError → String
  | .session f => f.headline
  | .post e => e.message

/-- The error as the record of a bot keeps it. -/
def note (e : PostingError) : String :=
  "Error posting with error code: " ++ e.code ++ " | Error message: " ++ e.detail

end PostingError

/-- What came of posting: the receipt, or why there is none. -/
abbrev Posting := Except PostingError Receipt

/-- How a run ended. -/
inductive RunEnd where
  /-- The script is no grammar. -/
  | invalidScript
  /-- Nothing was posted. -/
  | failed (e : PostingError)
  /-- Something was posted. -/
  | posted (receipt : Receipt)
  deriving DecidableEq

/-- What a bot notes about a script that is no grammar. -/
def invalidScriptNote : String := "Error parsing script. Please check the JSON source."

namespace RunEnd

/-- The end of a run that came to posting. -/
def ofPosting : Posting → RunEnd
  | .ok receipt => .posted receipt
  | .error e => .failed e

/-- Whether something was posted. -/
def isPosted : RunEnd → Bool
  | .posted _ => true
  | _ => false

/-- What the record of the bot notes as its last error. -/
def note? : RunEnd → Option String
  | .invalidScript => some invalidScriptNote
  | .failed e => some e.note
  | .posted _ => none

end RunEnd

namespace BotRecord

/-- How a run of the bot ends, given what comes of posting if it comes to that. -/
def runEnd (bot : BotRecord) (posting : Posting) : RunEnd :=
  match bot.grammar with
  | .error _ => .invalidScript
  | .ok _ => .ofPosting posting

/-- The record of the bot after a run at the given time. -/
def afterRun (bot : BotRecord) (now : Instant) (finish : RunEnd) : BotRecord :=
  { bot with
    lastRun := some now
    lastError := finish.note?
    nextRun := if finish = .invalidScript then bot.nextRun else some (bot.nextRunAfter now) }

end BotRecord

end GrammarBots

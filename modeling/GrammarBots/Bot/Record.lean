import GrammarBots.Grammar.Source
import GrammarBots.Time.Instant

/-!
# Bots

A bot is a script with a schedule and the account that it posts to, together with the record of its
runs: when it last ran, when it runs next and what went wrong the last time.
-/

namespace GrammarBots

/-- The account of a bot. -/
structure Credentials where
  /-- The token that the service issued. -/
  accessToken : String := ""
  /-- The root of the service, if it is not that of the settings. -/
  apiBase : Option String := none
  deriving DecidableEq

/-- A scheduled bot. -/
structure BotRecord where
  /-- The id that commands know the bot by. -/
  id : String
  /-- The name, for people. -/
  name : String
  /-- Whether the schedule is suspended. -/
  disabled : Bool := false
  /-- The seconds between runs, below 2 to the power of 64. -/
  schedule : Nat
  /-- When the bot runs next. -/
  nextRun : Option Instant := none
  /-- When the bot last ran. -/
  lastRun : Option Instant := none
  /-- What went wrong in the last run. -/
  lastError : Option String := none
  /-- The grammar, as JSON. -/
  script : String
  /-- The account. -/
  credentials : Credentials := {}
  deriving DecidableEq

namespace BotRecord

/-- Whether the bot is to run at the given time: it is enabled and its next run is not later.  A bot
that never ran is due at once. -/
def isDue (bot : BotRecord) (now : Instant) : Bool :=
  !bot.disabled && bot.nextRun.all (·.notAfter now)

/-- The grammar of the bot. -/
def grammar (bot : BotRecord) : Except GrammarError Grammar := Grammar.ofScript bot.script

/-- When the bot runs next if it runs at the given time: a schedule later, but never past the last
instant. -/
def nextRunAfter (bot : BotRecord) (now : Instant) : Instant := now.addSeconds bot.schedule

end BotRecord

end GrammarBots

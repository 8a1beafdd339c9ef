import GrammarBots.Failure
import GrammarBots.Text.Basic

/-!
# Settings

The settings that all bots share.  Every setting has a default, and `Settings.validate` tells which
settings nothing can be run with.
-/

namespace GrammarBots

/-- What all bots share. -/
structure Settings where
  /-- Where the bots are kept; a path with variables. -/
  storePath : String := "~/.postbot/bots.toml"
  /-- The seconds between looks at the schedule, below 2 to the power of 64. -/
  pollInterval : Nat := 900
  /-- How many directives of a post are resolved at a time, below 2 to the power of 64. -/
  concurrency : Nat := 4
  /-- The root of the publishing service; a bot may have one of its own. -/
  apiBase : String := "https://api.x.com"
  deriving DecidableEq

namespace Settings

/-- Whether a text is the address of a web service. -/
def isWebAddress (base : String) : Bool :=
  Text.startsWith "http://".toList base.toList || Text.startsWith "https://".toList base.toList

/-- The first thing wrong with the settings, if there is one. -/
def validate (s : Settings) : Except AppError Unit :=
  if s.pollInterval = 0 then .error (.config "poll_interval_secs must be greater than zero")
  else if s.concurrency = 0 then
    .error (.config "max_concurrent_fetches must be greater than zero")
  else if !isWebAddress s.apiBase then
    .error (.config ("api_base must be an http(s) URL, got '" ++ s.apiBase ++ "'"))
  else .ok ()

end Settings

end GrammarBots

import GrammarBots.Bot.Record
import GrammarBots.Grammar.Expansion
import GrammarBots.Media.Resource

/-!
# Checking bots

Without expanding or fetching anything, the check reports what keeps a bot from posting (errors) and
what it will quietly leave out (warnings).  Every bot gets one report, in the order of the store.
-/

namespace GrammarBots

/-- What the check found about a bot. -/
structure BotReport where
  /-- The id of the bot. -/
  id : String
  /-- What keeps the bot from posting. -/
  errors : List String
  /-- What the bot leaves out. -/
  warnings : List String
  deriving DecidableEq

namespace BotReport

/-- Whether nothing keeps the bot from posting. -/
def isValid (r : BotReport) : Bool := r.errors.isEmpty

/-- The warnings about the directives of a rule of a symbol that name no media. -/
def directiveWarnings (symbol rule : Text) : List String :=
  ((Directive.scan rule).filter fun d => (Resource.ofDirective? d.raw).isNone).map fun d =>
    "directive " ++ d.raw.str ++ " in '" ++ symbol.str ++ "' is not img or vid and will be dropped"

/-- The warnings about the directives of a grammar. -/
def grammarWarnings (g : Grammar) : List String :=
  g.dictionary.entries.flatMap fun (symbol, rules) => rules.flatMap (directiveWarnings symbol)

/-- The report of a bot on its own. -/
def ofBot (bot : BotRecord) : BotReport :=
  let scheduleErrors :=
    if bot.schedule = 0 then ["schedule must be greater than zero"] else []
  let tokenWarnings :=
    if Text.trim bot.credentials.accessToken.toList = [] then
      ["no access_token; posting will be rejected"]
    else []
  match bot.grammar with
  | .error e => ⟨bot.id, scheduleErrors ++ [e.message], tokenWarnings⟩
  | .ok g =>
    ⟨bot.id, scheduleErrors ++ (g.lint startSymbol).map (·.message),
      tokenWarnings ++ grammarWarnings g⟩

/-- The error of an id that an earlier bot has. -/
def duplicateError (id : String) : String := "duplicate bot id '" ++ id ++ "'"

/-- The reports of further bots, where `seen` holds the ids of the bots before them. -/
def ofBotsAfter (seen : List String) : List BotRecord → List BotReport
  | [] => []
  | bot :: rest =>
    let report := ofBot bot
    let report :=
      if seen.contains bot.id then
        { report with errors := report.errors ++ [duplicateError bot.id] }
      else report
    report :: ofBotsAfter (bot.id :: seen) rest

/-- The reports of all bots, in order. -/
def ofBots (bots : List BotRecord) : List BotReport := ofBotsAfter [] bots

end BotReport

end GrammarBots

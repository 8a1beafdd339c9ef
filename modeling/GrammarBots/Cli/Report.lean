import GrammarBots.Bot.Check
import GrammarBots.Cli.Arguments
import GrammarBots.Json.Writer
import GrammarBots.Post.Renderer
import GrammarBots.Schedule.Tick
import GrammarBots.Time.Rfc3339

/-!
# What commands print

Lists, reports and posts as text and, where a command offers it, as JSON.  Every function gives the
complete output of a command, the final line break included.
-/

namespace GrammarBots.Report

/-- A text with blanks behind it up to the given width. -/
def padded (width : Nat) (t : String) : String :=
  t ++ String.ofList (List.replicate (width - t.toList.length) ' ')

/-- Lines, each with its line break. -/
def lines (texts : List String) : String := String.join (texts.map (· ++ "\n"))

/-- What is printed instead of an empty list. -/
def noBots : String := "No bots configured.\n"

/-! ### Lists of bots -/

/-- A schedule in the largest unit that it is a multiple of. -/
def scheduleText (seconds : Nat) : String :=
  if seconds = 0 then "0s"
  else if seconds % 86400 = 0 then toString (seconds / 86400) ++ "d"
  else if seconds % 3600 = 0 then toString (seconds / 3600) ++ "h"
  else if seconds % 60 = 0 then toString (seconds / 60) ++ "m"
  else toString seconds ++ "s"

/-- A line of a table of bots. -/
def row (id name status every next : String) : String :=
  " ".intercalate
    [padded 20 id, padded 24 name, padded 9 status, padded 8 every, padded 21 next]

/-- The lines of a bot in a table. -/
def botLines (bot : BotRecord) : List String :=
  row bot.id bot.name (if bot.disabled then "disabled" else "enabled")
      (scheduleText bot.schedule) ((bot.nextRun.map fun t => t.minuteText.str).getD "-") ::
    (bot.lastError.map fun e => "    last error: " ++ e).toList

/-- The bots as a table. -/
def table (bots : List BotRecord) : String :=
  if bots.isEmpty then noBots
  else
    lines (row "ID" "NAME" "STATUS" "EVERY" "NEXT RUN" :: bots.flatMap botLines ++
      ["", "Total: " ++ toString bots.length ++ " bot(s)"])

/-- A value that may be unset, as JSON. -/
def optionalValue {α : Type} (write : α → Json.Value) (value : Option α) : Json.Value :=
  (value.map write).getD .null

/-- A bot as JSON, without its script and its account. -/
def botValue (bot : BotRecord) : Json.Value :=
  let instant (t : Instant) : Json.Value := .string t.text
  .object
    [("id".toList, .ofString bot.id), ("name".toList, .ofString bot.name),
      ("disabled".toList, .bool bot.disabled), ("schedule".toList, .ofNat bot.schedule),
      ("next_run".toList, optionalValue instant bot.nextRun),
      ("last_run".toList, optionalValue instant bot.lastRun),
      ("last_error".toList, optionalValue Json.Value.ofString bot.lastError)]

/-- The bots as JSON. -/
def botsJson (bots : List BotRecord) : String :=
  (Json.Value.array (bots.map botValue)).pretty ++ "\n"

/-! ### Results of the check -/

/-- The number of errors in reports. -/
def errorCount (reports : List BotReport) : Nat := (reports.flatMap (·.errors)).length

/-- The lines of the report of a bot. -/
def checkLines (r : BotReport) : List String :=
  ((if r.isValid then "✓ " else "✗ ") ++ r.id) ::
    (r.errors.map fun e => "    error: " ++ e) ++ r.warnings.map fun w => "    warning: " ++ w

/-- The reports as text. -/
def checkText (reports : List BotReport) : String :=
  if reports.isEmpty then noBots
  else
    lines (reports.flatMap checkLines ++
      ["", toString (reports.filter BotReport.isValid).length ++ "/" ++
        toString reports.length ++ " bot(s) valid"])

/-- The report of a bot as JSON. -/
def checkValue (r : BotReport) : Json.Value :=
  .object
    [("id".toList, .ofString r.id), ("errors".toList, .array (r.errors.map Json.Value.ofString)),
      ("warnings".toList, .array (r.warnings.map Json.Value.ofString))]

/-- The reports as JSON. -/
def checkJson (reports : List BotReport) : String :=
  (Json.Value.array (reports.map checkValue)).pretty ++ "\n"

/-! ### Runs -/

/-- The line of a run. -/
def runLine (id : String) : RunEnd → String
  | .posted receipt => "✓ " ++ id ++ " posted " ++ receipt.id
  | .invalidScript => "✗ " ++ id ++ " has an invalid script"
  | .failed e => "✗ " ++ id ++ ": " ++ e.message

/-- The report of a tick. -/
def tickText (r : TickReport) : String :=
  lines ((r.ran.map fun (id, finish) => runLine id finish) ++
    [toString r.posted ++ " posted, " ++ toString r.failed ++ " failed, " ++
      toString r.skipped.length ++ " skipped"])

/-- The receipt of a post. -/
def receiptText (r : Receipt) : String := "✓ Posted " ++ r.id ++ ": " ++ r.text ++ "\n"

/-! ### Posts -/

/-- The line of a directive. -/
def directiveLine (d : Directive) : String :=
  match Resource.ofDirective? d.raw with
  | some r => "  • " ++ r.kind.letters.str ++ " " ++ r.url.str
  | none => "  ⚠ " ++ d.raw.str ++ " (ignored: prefix is not img or vid)"

/-- A draft and its directives. -/
def draftText (d : Draft) : String :=
  lines (d.text.str ::
    if d.directives.isEmpty then [] else
      ["", toString d.directives.length ++ " media directive(s):"] ++
        d.directives.map directiveLine)

/-- A post and its attachments. -/
def postText (p : Post) : String :=
  lines (p.text.str ::
    if p.media.isEmpty then [] else ["", "media: " ++ ", ".intercalate p.media])

/-! ### Faults -/

/-- What is printed about a failure, a part a line. -/
def failureText (r : ErrorReport) : String :=
  lines (("error: " ++ r.error.message) ::
    (r.details.map fun t => "details: " ++ t).toList ++
    (r.suggestion.map fun t => "suggestion: " ++ t).toList)

/-- The commands and options. -/
def usageText : String :=
  lines ["Scheduled social-media posting bot driven by Tracery grammars", "",
    "Usage: postbot [OPTIONS] <COMMAND>", "",
    "Commands:",
    "  run [--once]                          Run the scheduler",
    "  post <BOT>                            Post for one bot immediately",
    "  render <BOT> [--seed N] [--dry-run]   Render a bot's grammar without publishing",
    "  render --file <FILE> [--seed N]       Render a grammar file",
    "  validate [--format text|json]         Check bot scripts and the store for problems",
    "  list [--format text|json]             List configured bots", "",
    "Options:",
    "  -v, --verbose         Enable debug logging",
    "  -q, --quiet           Only log errors",
    "  -c, --config <PATH>   Path to the config file",
    "  -h, --help            Print help",
    "  -V, --version         Print version"]

/-- What is printed about arguments that do not lead to a command. -/
def usageErrorText : Arguments.UsageError → String
  | .help => usageText
  | .version => "postbot 0.1.0\n"
  | .noArguments => usageText
  | .noCommand => "error: a command is missing\n\n" ++ usageText
  | .unknownCommand => "error: there is no such command\n"
  | .unknownArgument => "error: there is no such argument\n"
  | .missingArgument => "error: an argument is missing\n"
  | .invalidValue => "error: a value is missing or not one of those possible\n"
  | .malformedValue => "error: a value is malformed\n"
  | .unexpectedValue => "error: a switch takes no value\n"
  | .conflict => "error: arguments are repeated or exclude each other\n"

end GrammarBots.Report

import GrammarBots.Cli.Arguments

/-!
# Commands

What the program is asked to do.  `Invocation.ofArguments` reads it from the arguments of the
command line: the options that every command shares, which may stand before and after the name of
the command, and the options of the command.
-/

namespace GrammarBots

open Arguments

/-- How lists are printed. -/
inductive OutputFormat where
  /-- For people. -/
  | text
  /-- As JSON. -/
  | json
  deriving DecidableEq

/-- Where a grammar is taken from. -/
inductive GrammarOrigin where
  /-- From the script of a bot. -/
  | bot (query : String)
  /-- From a file. -/
  | file (path : String)
  deriving DecidableEq

/-- What the program is asked to do. -/
inductive Command where
  /-- Runs the bots that are due, once or again and again. -/
  | run (once : Bool)
  /-- Posts for a bot at once. -/
  | post (query : String)
  /-- Shows a post without publishing it. -/
  | render (origin : GrammarOrigin) (seed : Option Nat) (dryRun : Bool)
  /-- Checks the bots. -/
  | validate (format : OutputFormat)
  /-- Lists the bots. -/
  | list (format : OutputFormat)
  deriving DecidableEq

/-- A command with the options that all commands share. -/
structure Invocation where
  /-- Whether more is logged than usual. -/
  verbose : Bool
  /-- Whether less is logged than usual. -/
  quiet : Bool
  /-- The file of the settings, if it is not the default one. -/
  settingsPath : Option String
  /-- What is to be done. -/
  command : Command
  deriving DecidableEq

/-- What is logged, by the switches for more and for less. -/
def logLevel (verbose quiet : Bool) : String :=
  if verbose then "debug" else if quiet then "error" else "info"

namespace Invocation

/-- The variable that names the file of the settings. -/
def settingsVariable : String := "POSTBOT_CONFIG"

/-- The name of the option that names the file of the settings. -/
def config : Text := "config".toList

/-- The options of every level. -/
def sharedOptions : List OptionSpec :=
  [{ name := "verbose".toList, letter := some 'v', effect := .switch },
    { name := "quiet".toList, letter := some 'q', effect := .switch },
    { name := config, letter := some 'c', effect := .value .path },
    { name := "help".toList, letter := some 'h', effect := .help }]

/-- The option that chooses how a list is printed. -/
def formatOption : OptionSpec :=
  { name := "format".toList, effect := .value (.oneOf ["text".toList, "json".toList]) }

/-- The arguments of the commands. -/
def commandLevels : List (Text × Level) :=
  [("run".toList,
      { options := { name := "once".toList, effect := .switch } :: sharedOptions }),
    ("post".toList, { options := sharedOptions, positional := some "bot".toList }),
    ("render".toList,
      { options :=
          [{ name := "file".toList, effect := .value .path },
            { name := "seed".toList, effect := .value .number },
            { name := "dry-run".toList, effect := .switch }] ++ sharedOptions
        positional := some "bot".toList }),
    ("validate".toList, { options := formatOption :: sharedOptions }),
    ("list".toList, { options := formatOption :: sharedOptions })]

/-- The command that explains the others. -/
def helpCommand : Text := "help".toList

/-- The arguments of the program itself. -/
def topLevel : Level where
  options := sharedOptions ++
    [{ name := "version".toList, letter := some 'V', effect := .version }]
  commands := commandLevels.map (·.1) ++ [helpCommand]

/-- Settles what was read of a level, and takes the file of the settings from the environment if it
was not given. -/
def finish (configured : Option String) (p : Progress) : Except UsageError Given := do
  let p ← p.settle
  match configured with
  | none => return p.given
  | some value =>
    if p.given.any (·.1 == config) then return p.given
    else if value.isEmpty then .error .invalidValue
    else return p.given

/-- Whether an argument is among those given. -/
def has (given : Given) (name : String) : Bool := given.any (·.1 == name.toList)

/-- The value of an argument. -/
def value? (given : Given) (name : String) : Option String :=
  (given.lookup name.toList).map Text.str

/-- Refuses to be loud and quiet at the same time. -/
def checkSwitches (given : Given) : Except UsageError Unit :=
  if has given "verbose" ∧ has given "quiet" then .error .conflict else .ok ()

/-- The format that was asked for. -/
def format (given : Given) : OutputFormat :=
  if value? given "format" = some "json" then .json else .text

/-- The command of a name, given its arguments. -/
def commandOf (name : Text) (given : Given) : Except UsageError Command := do
  checkSwitches given
  if name = "run".toList then return .run (has given "once")
  else if name = "post".toList then
    match value? given "bot" with
    | some query => return .post query
    | none => .error .missingArgument
  else if name = "render".toList then
    let seed := (given.lookup "seed".toList).bind number?
    let dryRun := has given "dry-run"
    match value? given "bot", value? given "file" with
    | some _, some _ => .error .conflict
    | some query, none => return .render (.bot query) seed dryRun
    | none, some path => return .render (.file path) seed dryRun
    | none, none => .error .missingArgument
  else if name = "validate".toList then return .validate (format given)
  else return .list (format given)

/-- What is said to someone who asks for an explanation of the commands listed. -/
def explain : List Text → UsageError
  | [] => .help
  | [name] => if topLevel.commands.contains name then .help else .unknownCommand
  | _ => .unknownCommand

/-- The invocation that arguments write.  `configured` is the value of `settingsVariable`. -/
def ofArguments (configured : Option String) (arguments : List Text) :
    Except UsageError Invocation := do
  let (p, rest) ← topLevel.read {} arguments
  match rest with
  | none =>
    let given ← finish configured p
    if given.isEmpty ∧ configured.isNone then .error .noArguments else .error .noCommand
  | some (name, arguments) =>
    match commandLevels.lookup name with
    | none => .error (explain arguments)
    | some level =>
      let (q, _) ← level.read {} arguments
      let own ← finish configured q
      let command ← commandOf name own
      let shared ← finish configured p
      checkSwitches shared
      return {
        verbose := has own "verbose" || has shared "verbose"
        quiet := has own "quiet" || has shared "quiet"
        settingsPath := (value? own "config").or ((value? shared "config").or configured)
        command }

end Invocation

end GrammarBots

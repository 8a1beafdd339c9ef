import GrammarBots.Cli.Command
import GrammarBots.Cli.Report
import GrammarBots.Random.Choice
import GrammarBots.Schedule.Dispatch
import GrammarBots.Service.Client
import GrammarBots.Settings.File

/-!
# Carrying out commands

A command needs files, an environment, a clock, a network and chance; a `Platform` gives all these,
in any monad.  `Invocation.execute` carries out a command and gives what it prints and how it
failed, if it did.
-/

namespace GrammarBots

/-- What commands run on. -/
structure Platform (m : Type → Type) where
  /-- The file system. -/
  files : FileAccess m
  /-- The environment. -/
  environment : Environment m
  /-- Reads the clock. -/
  clock : m Instant
  /-- The network. -/
  transport : Transport m
  /-- A state of chance that nobody can foresee. -/
  chance : m Generator

/-- What a command did. -/
structure CommandResult where
  /-- What it printed. -/
  output : String
  /-- How it failed, if it did. -/
  failure : Option Failure := none
  deriving DecidableEq

namespace Platform

variable {m : Type → Type} [Monad m]

/-- Part of a command, which may fail. -/
abbrev Part (m : Type → Type) := ExceptT Failure m

/-- The path of the bot store. -/
def storePath (platform : Platform m) (settings : Settings) : Part m Path :=
  ExceptT.mk (settings.expandedStorePath platform.environment)

/-- All bots. -/
def loadBots (platform : Platform m) (settings : Settings) : Part m (List BotRecord) := do
  let path ← storePath platform settings
  ExceptT.mk do
    return (← (BotStore.ofFile platform.files path).load).mapError
      (·.within ("Failed to load bots from " ++ path))

/-- The account of a bot. -/
def account (settings : Settings) (bot : BotRecord) : Account :=
  .ofPasted (bot.credentials.apiBase.getD settings.apiBase) bot.credentials.accessToken

/-- The renderer that the settings ask for. -/
def renderer (settings : Settings) : Renderer :=
  ({} : Renderer).withConcurrency settings.concurrency

/-- What a bot posts with. -/
def session (platform : Platform m) (settings : Settings) (chance : Generator) (bot : BotRecord) :
    Session m Generator :=
  let a := account settings bot
  { chance
    renderer := renderer settings
    services := a.services platform.transport
    publish := a.publish platform.transport }

/-- Posts for bots over the network. -/
def dispatch (platform : Platform m) (settings : Settings) : Dispatch m :=
  Dispatch.oneByOne fun bot => return .ok (session platform settings (← platform.chance) bot)

/-- Runs the bots that are due now. -/
def tickNow (platform : Platform m) (settings : Settings) (path : Path) : Part m TickReport :=
  ExceptT.mk do
    let now ← platform.clock
    Schedule.tick (.ofFile platform.files path) (dispatch platform settings) now

/-- Runs the bots that are due and prints what they did. -/
def run (platform : Platform m) (settings : Settings) : Part m CommandResult := do
  let path ← storePath platform settings
  return { output := Report.tickText (← tickNow platform settings path) }

/-- Posts for a bot at once. -/
def post (platform : Platform m) (settings : Settings) (query : String) : Part m CommandResult := do
  let path ← storePath platform settings
  let store := BotStore.ofFile platform.files path
  let finish ← ExceptT.mk
    (Schedule.runNow store (dispatch platform settings) platform.clock query)
  match finish with
  | .posted receipt => return { output := Report.receiptText receipt }
  | .invalidScript => throw (.ofApp (.invalidScript query invalidScriptNote))
  | .failed e =>
    throw (.ofApp (.other ("Bot '" ++ query ++ "' failed to post: " ++ e.message)))

/-- The grammar that is to be rendered, and the bot that it belongs to. -/
def grammarOf (platform : Platform m) (settings : Settings) :
    GrammarOrigin → Part m (Grammar × Option BotRecord)
  | .file path => do
    let script ← ExceptT.mk do
      return (← platform.files.read path).mapError fun e =>
        (Failure.ofCause (.file e)).within ("Failed to read grammar from " ++ path)
    match Grammar.ofScript script with
    | .ok g => return (g, none)
    | .error e => throw (.ofCause (.grammar e))
  | .bot query => do
    let bots ← loadBots platform settings
    let notFound := Failure.ofApp (.botNotFound query (BotRecord.similarNames bots query))
    match BotRecord.findIndex bots query with
    | .error e => throw (.ofApp e)
    | .ok index =>
      match bots[index]? with
      | none => throw notFound
      | some bot =>
        match bot.grammar with
        | .ok g => return (g, some bot)
        | .error e => throw (.ofApp (.invalidScript bot.id e.message))

/-- Prints a draft. -/
def renderDraft (g : Grammar) (chance : Generator) : Part m CommandResult :=
  match (g.draft chance).1 with
  | .ok draft => return { output := Report.draftText draft }
  | .error e => throw (.ofCause (.grammar e))

/-- Prints a post of a bot with all its media uploaded. -/
def renderPost (platform : Platform m) (settings : Settings) (bot : BotRecord) (g : Grammar)
    (chance : Generator) : Part m CommandResult := do
  match ← (session platform settings chance bot).render g with
  | .ok post => return { output := Report.postText post }
  | .error e => throw (.ofCause (.grammar e))

/-- Shows a post. -/
def render (platform : Platform m) (settings : Settings) (origin : GrammarOrigin)
    (seed : Option Nat) (dryRun : Bool) : Part m CommandResult := do
  let chance ← match seed with
    | some seed => pure (Generator.ofSeed seed.toUInt64)
    | none => platform.chance
  let (g, bot) ← grammarOf platform settings origin
  match bot, dryRun with
  | some bot, false => renderPost platform settings bot g chance
  | _, _ => renderDraft g chance

/-- Checks the bots. -/
def validate (platform : Platform m) (settings : Settings) (format : OutputFormat) :
    Part m CommandResult := do
  let reports := BotReport.ofBots (← loadBots platform settings)
  let errors := Report.errorCount reports
  return {
    output := match format with
      | .text => Report.checkText reports
      | .json => Report.checkJson reports
    failure := if errors = 0 then none else some (.ofApp (.validationFailed errors)) }

/-- Lists the bots. -/
def list (platform : Platform m) (settings : Settings) (format : OutputFormat) :
    Part m CommandResult := do
  let bots ← loadBots platform settings
  return {
    output := match format with
      | .text => Report.table bots
      | .json => Report.botsJson bots }

/-- Carries out a command with the given settings; bots are run once only. -/
def executeWith (platform : Platform m) (settings : Settings) : Command → Part m CommandResult
  | .run _ => run platform settings
  | .post query => post platform settings query
  | .render origin seed dryRun => render platform settings origin seed dryRun
  | .validate format => validate platform settings format
  | .list format => list platform settings format

end Platform

namespace Invocation

variable {m : Type → Type} [Monad m]

/-- The invocation that arguments ask for, the environment considered. -/
def read (platform : Platform m) (arguments : List Text) :
    m (Except Arguments.UsageError Invocation) :=
  return ofArguments (← platform.environment.valueOf settingsVariable) arguments

/-- The settings that an invocation uses. -/
def settings (platform : Platform m) (i : Invocation) : m (Except Failure Settings) :=
  Settings.load platform.files platform.environment i.settingsPath

/-- Carries out an invocation. -/
def execute (platform : Platform m) (i : Invocation) : m CommandResult := do
  let result ← ExceptT.run do
    let settings ← ExceptT.mk (i.settings platform)
    platform.executeWith settings i.command
  return match result with
    | .ok r => r
    | .error f => { output := "", failure := some f }

end Invocation

/-- How a call of the program ended. -/
inductive Ending where
  /-- The arguments could not be used, or needed no further use. -/
  | usage (e : Arguments.UsageError)
  /-- A command was carried out. -/
  | result (r : CommandResult)

namespace Ending

/-- The exit code of the program. -/
def exitCode : Ending → Nat
  | .usage .help => 0
  | .usage .version => 0
  | .usage _ => 2
  | .result r => if r.failure.isSome then 1 else 0

/-- The report of a failure, if the command failed. -/
def errorText? : Ending → Option String
  | .usage _ => none
  | .result r => r.failure.map fun f => f.advise.text

end Ending

/-- The program: reads the arguments and carries out what they ask for. -/
def call {m : Type → Type} [Monad m] (platform : Platform m) (arguments : List Text) :
    m Ending := do
  match ← Invocation.read platform arguments with
  | .error e => return .usage e
  | .ok i => return .result (← i.execute platform)

end GrammarBots

import GrammarBots.Post.Error

/-!
# Failures and what to tell people about them

A failure is a cause with the contexts in which it happened, outermost first.  `Failure.advise`
turns it into an error report: what went wrong, and, where something is known to help, details and a
suggestion.
-/

namespace GrammarBots

/-- The kinds of input and output errors that matter to a report. -/
inductive FileErrorKind where
  /-- There is no such file. -/
  | notFound
  /-- Permission is denied. -/
  | permissionDenied
  /-- Anything else. -/
  | other
  deriving DecidableEq

/-- An error of the file system. -/
structure FileError where
  /-- What kind of error it is. -/
  kind : FileErrorKind
  /-- The error in words. -/
  text : String
  deriving DecidableEq

/-- The words for a text that is not the TOML document it should be. -/
def notTomlReason : String := "the text is not a well-formed TOML document of the expected shape"

/-- The failures that commands tell apart. -/
inductive AppError where
  /-- The configuration cannot be used. -/
  | config (message : String)
  /-- No bot has the name or id asked for. -/
  | botNotFound (name : String) (suggestions : List String)
  /-- The bot store cannot be read or written. -/
  | store (path : String) (reason : String)
  /-- The script of a bot is no grammar. -/
  | invalidScript (bot : String) (reason : String)
  /-- The check of the bots found problems. -/
  | validationFailed (count : Nat)
  /-- The file system failed. -/
  | file (e : FileError)
  /-- A TOML text cannot be read. -/
  | tomlRead
  /-- A value cannot be written as TOML. -/
  | tomlWrite
  /-- A JSON text cannot be read. -/
  | jsonRead
  /-- Anything else. -/
  | other (message : String)
  deriving DecidableEq

/-- The error in words. -/
def AppError.message : AppError → String
  | .config message => "Configuration error: " ++ message
  | .botNotFound name _ => "Bot '" ++ name ++ "' not found"
  | .store path reason => "Bot store error at " ++ path ++ ": " ++ reason
  | .invalidScript bot reason => "Invalid script for bot '" ++ bot ++ "': " ++ reason
  | .validationFailed count => "Validation failed: " ++ toString count ++ " problem(s) found"
  | .file e => "IO error: " ++ e.text
  | .tomlRead => "TOML parsing error: " ++ notTomlReason
  | .tomlWrite => "TOML serialization error: " ++ notTomlReason
  | .jsonRead => "JSON error: " ++ notJsonReason
  | .other message => message

/-- Where a failure began. -/
inductive Cause where
  /-- With a grammar. -/
  | grammar (e : GrammarError)
  /-- With a post. -/
  | post (e : PostError)
  /-- With the publishing service. -/
  | publish (e : PublishError)
  /-- With a failure that commands tell apart. -/
  | app (e : AppError)
  /-- With the file system. -/
  | file (e : FileError)
  /-- With a TOML text. -/
  | toml
  /-- With a JSON text. -/
  | json
  /-- With an environment variable that is not set. -/
  | unsetVariable (name : String)
  /-- With something that is only told in words. -/
  | message (text : String)
  deriving DecidableEq

/-- The cause in words, followed by the causes behind it. -/
def Cause.chain : Cause → List String
  | .grammar e => [e.message]
  | .post e => [e.message]
  | .publish e => [e.message]
  | .app (.file e) => [(AppError.file e).message, e.text]
  | .app .tomlRead => [AppError.tomlRead.message, notTomlReason]
  | .app .tomlWrite => [AppError.tomlWrite.message, notTomlReason]
  | .app .jsonRead => [AppError.jsonRead.message, notJsonReason]
  | .app e => [e.message]
  | .file e => [e.text]
  | .toml => [notTomlReason]
  | .json => [notJsonReason]
  | .unsetVariable name =>
    ["error looking key '" ++ name ++ "' up: environment variable not found",
      "environment variable not found"]
  | .message text => [text]

/-- A cause and the contexts in which it happened. -/
structure Failure where
  /-- The contexts, outermost first. -/
  contexts : List String
  /-- Where the failure began. -/
  cause : Cause
  deriving DecidableEq

namespace Failure

/-- The failure without context. -/
def ofCause (cause : Cause) : Failure := ⟨[], cause⟩

/-- The failure of an error that commands tell apart. -/
def ofApp (e : AppError) : Failure := ofCause (.app e)

/-- The failure within one more context. -/
def within (f : Failure) (context : String) : Failure := ⟨context :: f.contexts, f.cause⟩

/-- The failure in words, from the outermost context down to the root. -/
def chain (f : Failure) : List String := f.contexts ++ f.cause.chain

/-- The outermost words of the failure. -/
def headline (f : Failure) : String := f.chain.headD ""

/-- The whole chain on one line. -/
def oneLine (f : Failure) : String := ": ".intercalate f.chain

/-- The headline and a numbered list of what is behind it. -/
def withCauses (f : Failure) : String :=
  let causes := f.chain.drop 1
  f.headline ++
    (if causes.isEmpty then "" else
      "\n\nCaused by:" ++ String.join (causes.zipIdx.map fun (cause, i) =>
        "\n  " ++ toString (i + 1) ++ ": " ++ cause))

end Failure

/-! ### Reports -/

/-- What people are told about a failure. -/
structure ErrorReport where
  /-- What went wrong. -/
  error : AppError
  /-- More about it. -/
  details : Option String := none
  /-- What may help. -/
  suggestion : Option String := none
  deriving DecidableEq

/-- The report as text. -/
def ErrorReport.text (r : ErrorReport) : String :=
  r.error.message ++ ((r.details.map ("\nDetails: " ++ ·)).getD "") ++
    ((r.suggestion.map ("\nSuggestion: " ++ ·)).getD "")

/-- What helps against a grammar error. -/
def GrammarError.advice : GrammarError → String
  | .invalidSource _ => "The script must be a JSON object such as " ++
      "\x7b\"origin\": [\"Hello #name#\"], \"name\": [\"world\"]\x7d"
  | .unknownSymbol _ _ => "Define the symbol in the script or fix the reference; " ++
      "every script needs an \"origin\" symbol"
  | .malformedRule _ _ => "Close every #tag# and [action]. " ++
      "Write a literal # as \\# and literal brackets as \\[ \\]"
  | .recursionLimit _ _ => "A symbol expands into itself without end. " ++
      "Give recursive symbols a non-recursive rule"

/-- The report of an error of the publishing service, in the given words. -/
def PublishError.report (message : String) : PublishError → ErrorReport
  | .rejected status _ =>
    if status = 401 ∨ status = 403 then
      { error := .other message, suggestion := some ("Check the bot's access_token; " ++
          "it may have expired or lack write permission") }
    else if status = 429 then
      { error := .other message, suggestion := some ("The service is rate limiting this " ++
          "account. Increase the bot's schedule") }
    else
      { error := .other message, details := some "The publishing service rejected the post" }
  | .transport _ =>
    { error := .other message, suggestion := some ("Check your internet connection and the " ++
        "configured api_base") }

/-- The report of an error that commands tell apart. -/
def AppError.report (e : AppError) : ErrorReport :=
  { error := e
    suggestion := match e with
      | .botNotFound _ [] => some "Run 'postbot list' to see the configured bots"
      | .botNotFound _ suggestions =>
        some ("Did you mean: " ++ ", ".intercalate suggestions ++ "?")
      | .store _ _ => some ("Check store_path in the config file and that the store is valid " ++
          "TOML with [[bots]] entries")
      | .config _ => some ("Check the config file (default ~/.postbot/config.toml) or pass " ++
          "--config")
      | .invalidScript _ _ => some "Run 'postbot validate' for details on every bot script"
      | _ => none }

/-- The report of an error of the file system, in the given words. -/
def FileError.report (message : String) (e : FileError) : ErrorReport :=
  match e.kind with
  | .permissionDenied =>
    { error := .other message
      details := some "postbot could not read or write one of its files"
      suggestion := some "Check the ownership and permissions of the config and store files" }
  | .notFound =>
    { error := .other message
      suggestion := some "Check that the file exists and the path is correct" }
  | .other => { error := .other message }

/-- What people are told about a failure. -/
def Failure.advise (f : Failure) : ErrorReport :=
  match f.cause with
  | .grammar e => { error := .other f.withCauses, suggestion := some e.advice }
  | .post (.grammar e) => { error := .other f.withCauses, suggestion := some e.advice }
  | .post (.publish e) => e.report f.withCauses
  | .publish e => e.report f.withCauses
  | .app e => e.report
  | .file e => e.report f.withCauses
  | .toml =>
    { error := .other f.withCauses
      details := some ("TOML parsing errors are usually caused by missing quotes or mismatched " ++
        "brackets")
      suggestion := some ("Check the TOML syntax. Verify quotes, brackets, and that multi-line " ++
        "scripts use ''' strings") }
  | _ => { error := .other f.withCauses }

end GrammarBots

import GrammarBots.Bot.Record
import GrammarBots.Time.Rfc3339
import GrammarBots.Toml.Reader
import GrammarBots.Toml.Writer

/-!
# The text of a bot store

A bot store is a TOML document with one table `[[bots]]` for each bot.  `encode` writes the fields
of a bot in the order of `fieldNames`, leaves out those that are unset, and puts the account into a
table of its own.  `decode?` reads such a document back; it takes the fields in any order, skips
those it does not know, and fills in what may be left out.
-/

namespace GrammarBots.StoreText

/-! ### Writing -/

/-- The line of a string. -/
def stringLine (key : String) (value : String) : Text := Toml.line key (Toml.quote value.toList)

/-- The line of a string that may be unset. -/
def optionalLine (key : String) (value : Option String) : Text :=
  (value.map (stringLine key)).getD []

/-- The line of an instant that may be unset. -/
def instantLine (key : String) (value : Option Instant) : Text :=
  (value.map fun t => Toml.line key (Toml.quote t.text)).getD []

/-- The account of a bot as a table. -/
def encodeCredentials (c : Credentials) : Text :=
  "[bots.credentials]\n".toList ++ stringLine "access_token" c.accessToken ++
    optionalLine "api_base" c.apiBase

/-- A bot as a table. -/
def encodeBot (bot : BotRecord) : Text :=
  "[[bots]]\n".toList ++ stringLine "id" bot.id ++ stringLine "name" bot.name ++
    Toml.line "disabled" (Toml.boolean bot.disabled) ++
    Toml.line "schedule" (Toml.natural bot.schedule) ++
    instantLine "next_run" bot.nextRun ++ instantLine "last_run" bot.lastRun ++
    optionalLine "last_error" bot.lastError ++ stringLine "script" bot.script ++
    '\n' :: encodeCredentials bot.credentials

/-- The document of a list of bots. -/
def encode (bots : List BotRecord) : String :=
  if bots.isEmpty then "bots = []\n" else (Text.join ['\n'] (bots.map encodeBot)).str

/-! ### Reading -/

/-- The fields of an account, in order. -/
def credentialNames : List Text := ["access_token", "api_base"].map String.toList

/-- The fields of a bot, in order. -/
def fieldNames : List Text :=
  ["id", "name", "disabled", "schedule", "next_run", "last_run", "last_error", "script",
    "credentials"].map String.toList

/-- A field that must be given. -/
def required {α : Type} (read : Toml.Value → Option α) (fields : Toml.Entries) (key : String) :
    Option α :=
  (fields.lookup key.toList).bind read

/-- A field that may be left out. -/
def optional {α : Type} (read : Toml.Value → Option α) (fields : Toml.Entries) (key : String) :
    Option (Option α) :=
  match fields.lookup key.toList with
  | none => some none
  | some value => (read value).map some

/-- A string. -/
def readString (v : Toml.Value) : Option String := v.string?.map Text.str

/-- An instant, which stands in a string. -/
def readInstant (v : Toml.Value) : Option Instant := v.string?.bind Instant.read?

/-- An account. -/
def readCredentials (v : Toml.Value) : Option Credentials := do
  let fields ← v.fields? credentialNames
  return {
    accessToken := ← required readString fields "access_token"
    apiBase := ← optional readString fields "api_base" }

/-- A bot. -/
def readBot (v : Toml.Value) : Option BotRecord := do
  let fields ← v.fields? fieldNames
  return {
    id := ← required readString fields "id"
    name := ← required readString fields "name"
    disabled := (← optional Toml.Value.boolean? fields "disabled").getD false
    schedule := ← required Toml.Value.natural64? fields "schedule"
    nextRun := ← optional readInstant fields "next_run"
    lastRun := ← optional readInstant fields "last_run"
    lastError := ← optional readString fields "last_error"
    script := ← required readString fields "script"
    credentials := (← optional readCredentials fields "credentials").getD {} }

/-- The bots of a document; a document without bots has none. -/
def ofDocument (document : Toml.Entries) : Option (List BotRecord) :=
  match document.lookup "bots".toList with
  | none => some []
  | some value => value.elements?.bind (·.mapM readBot)

/-- The bots that a text lists, if it is the text of a bot store. -/
def decode? (text : String) : Option (List BotRecord) :=
  (Toml.read? text.toList).bind ofDocument

end GrammarBots.StoreText

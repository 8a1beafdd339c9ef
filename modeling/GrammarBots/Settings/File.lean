import GrammarBots.File.PathTemplate
import GrammarBots.File.Script
import GrammarBots.Settings.Basic
import GrammarBots.Toml.Reader
import GrammarBots.Toml.Writer

/-!
# The file of the settings

Settings are a TOML document with one line for each.  A setting that is left out has its default,
and so have all of them if there is no file.  Only settings that `Settings.validate` accepts are
read.
-/

namespace GrammarBots

/-- The environment of a run. -/
structure Environment (m : Type → Type) where
  /-- The value of a variable, if it is set. -/
  valueOf : String → m (Option String)

namespace Environment

variable {m : Type → Type} [Monad m]

/-- The home directory, if it is known. -/
def home? (env : Environment m) : m (Option Path) :=
  return (← env.valueOf "HOME").filter (!·.isEmpty)

end Environment

namespace Settings

/-! ### Text -/

/-- The document of the settings. -/
def encode (s : Settings) : String :=
  Text.str (Toml.line "store_path" (Toml.quote s.storePath.toList) ++
    Toml.line "poll_interval_secs" (Toml.natural s.pollInterval) ++
    Toml.line "max_concurrent_fetches" (Toml.natural s.concurrency) ++
    Toml.line "api_base" (Toml.quote s.apiBase.toList))

/-- A setting, or its default if the document has none; nothing if it has one of another type. -/
def setting {α : Type} (read : Toml.Value → Option α) (default : α) (document : Toml.Entries)
    (key : String) : Option α :=
  match document.lookup key.toList with
  | none => some default
  | some value => read value

/-- The settings of a document. -/
def ofDocument (document : Toml.Entries) : Option Settings := do
  let standard : Settings := {}
  let string (v : Toml.Value) : Option String := v.string?.map Text.str
  return {
    storePath := ← setting string standard.storePath document "store_path"
    pollInterval :=
      ← setting Toml.Value.natural64? standard.pollInterval document "poll_interval_secs"
    concurrency :=
      ← setting Toml.Value.natural64? standard.concurrency document "max_concurrent_fetches"
    apiBase := ← setting string standard.apiBase document "api_base" }

/-- The settings that a text writes, whether they can be used or not. -/
def decode? (text : String) : Option Settings := (Toml.read? text.toList).bind ofDocument

/-- The usable settings in the text of a file. -/
def ofText (path : Path) (text : String) : Except Failure Settings :=
  match decode? text with
  | none => .error ((Failure.ofCause .toml).within ("Failed to parse config from " ++ path))
  | some s =>
    match s.validate with
    | .ok () => .ok s
    | .error e => .error (.ofApp e)

/-! ### Files -/

variable {m : Type → Type} [Monad m]

/-- The settings in a file that must be there. -/
def loadFrom (files : FileAccess m) (path : Path) : m (Except Failure Settings) := do
  match ← files.read path with
  | .ok text => return ofText path text
  | .error e =>
    return .error ((Failure.ofCause (.file e)).within ("Failed to read config from " ++ path))

/-- The path of the settings unless another one is given. -/
def defaultPath (env : Environment m) : m (Except Failure Path) := do
  match ← env.home? with
  | some home => return .ok (Path.join (Path.join home ".postbot") "config.toml")
  | none => return .error (.ofCause (.message "Unable to determine home directory"))

/-- The settings in the file given, or else in the default place; the defaults if there is no such
file. -/
def load (files : FileAccess m) (env : Environment m) (path : Option Path) :
    m (Except Failure Settings) := do
  let path ← match path with
    | some path => pure (.ok path)
    | none => defaultPath env
  match path with
  | .error f => return .error f
  | .ok path =>
    if ← files.contains path then loadFrom files path else return .ok {}

/-- The steps of saving settings, which are for the owner's eyes only. -/
def saveScript (path : Path) (s : Settings) : FileScript :=
  ((Path.parent? path).toList.map fun parent =>
    (.createDirectories parent, "Failed to create config directory: " ++ parent)) ++
  [(.write path s.encode, "Failed to write config to " ++ path),
    (.readMode path, "Failed to read permissions for " ++ path),
    (.setMode path 0o600, "Failed to set secure permissions on " ++ path)]

/-- Saves the settings. -/
def save (files : FileAccess m) (path : Path) (s : Settings) : m (Except Failure Unit) :=
  files.runScript (saveScript path s)

/-- The path of the bot store, its variables and its tilde expanded. -/
def expandedStorePath (env : Environment m) (s : Settings) : m (Except Failure Path) := do
  match ← PathTemplate.expand env.valueOf (← env.home?) s.storePath with
  | .ok path => return .ok path
  | .error name =>
    return .error ((Failure.ofCause (.unsetVariable name)).within
      ("Failed to expand store_path '" ++ s.storePath ++
        "'. Check that every $VARIABLE it uses is set"))

end Settings

end GrammarBots

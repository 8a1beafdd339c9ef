import GrammarBots.Bot.StoreText
import GrammarBots.Failure
import GrammarBots.File.Script

/-!
# The file of a bot store

The store is kept in one file.  A missing file is an empty store.  Saving writes a second file next
to it and then moves that over the store, so that a reader finds either the whole old store or the
whole new one; the accounts in it are for the owner's eyes only.
-/

namespace GrammarBots

/-- Where the bots are kept between runs. -/
structure BotStore (m : Type → Type) where
  /-- Reads all bots. -/
  load : m (Except Failure (List BotRecord))
  /-- Writes all bots, in place of those kept before. -/
  save : List BotRecord → m (Except Failure Unit)

namespace BotStore

/-- The path that a new store is written to before it is moved into place. -/
def temporaryPath (path : Path) : Path := Path.withExtension path "toml.tmp"

/-- The directory that must be there before a store can be written to the path; none for a bare
name. -/
def directory? (path : Path) : Option Path := (Path.parent? path).filter (!·.isEmpty)

/-- The steps of saving a store. -/
def saveScript (path : Path) (bots : List BotRecord) : FileScript :=
  let temporary := temporaryPath path
  ((directory? path).toList.map fun parent =>
    (.createDirectories parent, "Failed to create bot store directory: " ++ parent)) ++
  [(.write temporary (StoreText.encode bots), "Failed to write temp file: " ++ temporary),
    (.readMode temporary, "Failed to read permissions for " ++ temporary),
    (.setMode temporary 0o600, "Failed to set secure permissions on " ++ temporary),
    (.rename temporary path, "Failed to replace bot store " ++ path)]

/-- The bots in the text of a store, or the failure that the text is none. -/
def ofText (path : Path) (text : String) : Except Failure (List BotRecord) :=
  match StoreText.decode? text with
  | some bots => .ok bots
  | none => .error (.ofApp (.store path notTomlReason))

variable {m : Type → Type} [Monad m]

/-- The store in the file at a path. -/
def ofFile (files : FileAccess m) (path : Path) : BotStore m where
  load := do
    if ← files.contains path then
      match ← files.read path with
      | .ok text => return ofText path text
      | .error e => return .error ((Failure.ofCause (.file e)).within
          ("Failed to read bot store from " ++ path))
    else return .ok []
  save bots := files.runScript (saveScript path bots)

end BotStore

end GrammarBots

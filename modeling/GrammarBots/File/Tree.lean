import GrammarBots.Failure
import GrammarBots.File.Path
import GrammarBots.Text.Utf8

/-!
# A tree of files

The part of a file system that commands see: directories and files with their contents and modes.
`FileStep` is a single change of it.  Steps fail as the operating system has them fail, and a step
that fails changes nothing but what `createDirectories` made before it failed.
-/

namespace GrammarBots

/-- A file or a directory. -/
inductive FileNode where
  /-- A directory. -/
  | directory
  /-- A file with its content and its permission bits. -/
  | file (content : Bytes) (mode : Nat)
  deriving DecidableEq

/-- A change of the file system. -/
inductive FileStep where
  /-- Makes a directory and the directories above it. -/
  | createDirectories (path : Path)
  /-- Makes a file or replaces its content. -/
  | write (path : Path) (content : String)
  /-- Looks at the permission bits of a file. -/
  | readMode (path : Path)
  /-- Sets the permission bits of a file. -/
  | setMode (path : Path) (mode : Nat)
  /-- Moves a file to another path, in place of the file there. -/
  | rename (source target : Path)
  deriving DecidableEq

/-- The place of a file: the names from the root or from the working directory down. -/
abbrev Place := List Text

/-- The files and directories by place; the empty place and the root are directories. -/
structure FileTree where
  /-- What is at each place. -/
  nodes : List (Place × FileNode)

namespace FileError

/-- There is no such file. -/
def missing : FileError := ⟨.notFound, "No such file or directory (os error 2)"⟩

/-- Something is there already. -/
def alreadyExists : FileError := ⟨.other, "File exists (os error 17)"⟩

/-- A file stands where a directory should. -/
def notDirectory : FileError := ⟨.other, "Not a directory (os error 20)"⟩

/-- A directory stands where a file should. -/
def isDirectory : FileError := ⟨.other, "Is a directory (os error 21)"⟩

/-- The path goes through a place that is in use. -/
def busy : FileError := ⟨.other, "Device or resource busy (os error 16)"⟩

/-- The path or one of its names is too long. -/
def nameTooLong : FileError := ⟨.other, "File name too long (os error 36)"⟩

/-- A path cannot hold the character that ends it. -/
def endInside : FileError := ⟨.other, "file name contained an unexpected NUL byte"⟩

/-- The content is no text. -/
def notText : FileError := ⟨.other, "stream did not contain valid UTF-8"⟩

end FileError

namespace FileTree

/-- The name that stands for the root. -/
def rootName : Text := ['/']

/-- What is at a place. -/
def node? (t : FileTree) (place : Place) : Option FileNode :=
  if place = [] ∨ place = [rootName] then some .directory else t.nodes.lookup place

/-- The tree with a node put at a place. -/
def put (t : FileTree) (place : Place) (node : FileNode) : FileTree :=
  ⟨t.nodes.filter (·.1 != place) ++ [(place, node)]⟩

/-- The tree without what is at a place. -/
def remove (t : FileTree) (place : Place) : FileTree := ⟨t.nodes.filter (·.1 != place)⟩

/-- What has a name in a directory.  A name has at most 255 bytes. -/
def entry? (t : FileTree) (directory : Place) (name : Text) :
    Except FileError (Option FileNode) :=
  if name.str.utf8ByteSize ≤ 255 then .ok (t.node? (directory ++ [name]))
  else .error .nameTooLong

/-- The directory above a directory; the root is above itself. -/
def above (directory : Place) : Place :=
  if directory = [rootName] then directory else directory.dropLast

/-- The directory that a step leads to. -/
def descend (t : FileTree) (directory : Place) (step : Text) : Except FileError Place :=
  if step = ['.'] then .ok directory
  else if step = ['.', '.'] then .ok (above directory)
  else do
    match ← t.entry? directory step with
    | some .directory => .ok (directory ++ [step])
    | some (.file _ _) => .error .notDirectory
    | none => .error .missing

end FileTree

/-- What the last step of a path names. -/
inductive PathEnd where
  /-- A directory without the name that it has in the directory above. -/
  | directory (place : Place)
  /-- A name in a directory, maybe with a slash after it. -/
  | name (directory : Place) (name : Text) (slash : Bool)

namespace FileTree

/-- What a path names, once all its steps but the last are taken.  A path has at most 4095 bytes. -/
def aim (t : FileTree) (path : Path) : Except FileError PathEnd :=
  if '\x00' ∈ path.toList then .error .endInside
  else if path.isEmpty then .error .missing
  else if path.utf8ByteSize > 4095 then .error .nameTooLong
  else
    let start := if Path.isAbsolute path then [rootName] else []
    match (Path.steps path).getLast? with
    | none => .ok (.directory start)
    | some last => do
      let directory ← (Path.steps path).dropLast.foldlM t.descend start
      return if last = ['.'] then .directory directory
        else if last = ['.', '.'] then .directory (above directory)
        else .name directory last (Path.endsInSlash path)

/-- The place of what is at a path, and the thing itself.  Only a directory may have a slash after
its name. -/
def find (t : FileTree) (path : Path) : Except FileError (Place × FileNode) := do
  match ← t.aim path with
  | .directory place => .ok (place, .directory)
  | .name directory name slash =>
    match ← t.entry? directory name with
    | none => .error .missing
    | some .directory => .ok (directory ++ [name], .directory)
    | some node => if slash then .error .notDirectory else .ok (directory ++ [name], node)

/-- Whether anything is at a path. -/
def contains (t : FileTree) (path : Path) : Bool := (t.find path).isOk

/-- Whether a directory is at a path. -/
def hasDirectory (t : FileTree) (path : Path) : Bool :=
  match t.find path with
  | .ok (_, node) => node == .directory
  | .error _ => false

/-- The content of the file at a path. -/
def content (t : FileTree) (path : Path) : Except FileError Bytes := do
  match (← t.find path).2 with
  | .file content _ => .ok content
  | .directory => .error .isDirectory

/-- The text of the file at a path. -/
def text (t : FileTree) (path : Path) : Except FileError String := do
  match Utf8.decode? (← t.content path) with
  | some text => .ok text.str
  | none => .error .notText

/-- Makes one directory. -/
def createDirectory (t : FileTree) (path : Path) : Except FileError FileTree := do
  match ← t.aim path with
  | .directory _ => .error .alreadyExists
  | .name directory name _ =>
    match ← t.entry? directory name with
    | some _ => .error .alreadyExists
    | none => .ok (t.put (directory ++ [name]) .directory)

/-- Makes a directory, and first those above it that are missing; at most `bound` of them.  A
directory that is there already is fine. -/
def createDirectories : (bound : Nat) → FileTree → Path → FileTree × Except FileError Unit
  | 0, t, _ => (t, .error .missing)
  | bound + 1, t, path =>
    match t.createDirectory path with
    | .ok t => (t, .ok ())
    | .error e =>
      if e ≠ .missing then (t, if t.hasDirectory path then .ok () else .error e)
      else match Path.parent? path with
        | none => (t, .error e)
        | some parent =>
          match createDirectories bound t parent with
          | (t, .error e) => (t, .error e)
          | (t, .ok ()) =>
            match t.createDirectory path with
            | .ok t => (t, .ok ())
            | .error e => (t, if t.hasDirectory path then .ok () else .error e)

/-- Makes a file or replaces its content; a new file can be read by everyone.  A path with a slash
at its end names no file. -/
def write (t : FileTree) (path : Path) (content : Bytes) : Except FileError FileTree := do
  match ← t.aim path with
  | .directory _ | .name _ _ true => .error .isDirectory
  | .name directory name false =>
    match ← t.entry? directory name with
    | some .directory => .error .isDirectory
    | some (.file _ mode) => .ok (t.put (directory ++ [name]) (.file content mode))
    | none => .ok (t.put (directory ++ [name]) (.file content 0o644))

/-- The permission bits of what is at a path. -/
def mode (t : FileTree) (path : Path) : Except FileError Nat := do
  match (← t.find path).2 with
  | .file _ mode => .ok mode
  | .directory => .ok 0o755

/-- Sets the permission bits of a file. -/
def setMode (t : FileTree) (path : Path) (mode : Nat) : Except FileError FileTree := do
  match ← t.find path with
  | (place, .file content _) => .ok (t.put place (.file content mode))
  | (_, .directory) => .ok t

/-- Moves a file in place of the file at another path. -/
def rename (t : FileTree) (source target : Path) : Except FileError FileTree := do
  match ← t.aim source, ← t.aim target with
  | .directory _, _ | _, .directory _ => .error .busy
  | .name directory name slash, .name goal newName newSlash =>
    match ← t.entry? directory name with
    | none => .error .missing
    | some node =>
      let there ← t.entry? goal newName
      if node ≠ .directory ∧ (slash ∨ newSlash) then .error .notDirectory
      else if node ≠ .directory ∧ there = some .directory then .error .isDirectory
      else .ok ((t.remove (directory ++ [name])).put (goal ++ [newName]) node)

/-- The tree after a change, and whether the change succeeded. -/
def apply (t : FileTree) : FileStep → FileTree × Except FileError Unit
  | .createDirectories path =>
    if path.isEmpty then (t, .ok ()) else createDirectories (path.length + 1) t path
  | .write path content => settle (t.write path (Utf8.encode content))
  | .readMode path => (t, (t.mode path).map fun _ => ())
  | .setMode path mode => settle (t.setMode path mode)
  | .rename source target => settle (t.rename source target)
where
  /-- The tree that a change leads to, or the old one. -/
  settle : Except FileError FileTree → FileTree × Except FileError Unit
    | .ok t => (t, .ok ())
    | .error e => (t, .error e)

end FileTree

end GrammarBots

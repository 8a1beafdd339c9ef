import GrammarBots.Text.Basic

/-!
# File paths

A path is a text whose names are separated by slashes.  Repeated slashes and names `.` past the
first name do not count, so a path is read from its end without them.
-/

namespace GrammarBots

/-- The path of a file or directory. -/
abbrev Path := String

namespace Path

/-- A reversed path without the slashes and the names `.` at its end; the root keeps its slash. -/
def dropEnd : Text → Text
  | '/' :: c :: rest => dropEnd (c :: rest)
  | '.' :: '/' :: c :: rest => dropEnd (c :: rest)
  | ['.', '/'] => ['/']
  | rev => rev

/-- The last name of a path and what stands before it, both reversed; `none` if the path has no
name. -/
def cutName? (path : Path) : Option (Text × Text) :=
  let rev := dropEnd path.toList.reverse
  match rev.takeWhile (· != '/') with
  | [] => none
  | name => some (name, rev.drop name.length)

/-- The path of the directory that holds the file; empty for a bare name. -/
def parent? (path : Path) : Option Path :=
  (cutName? path).map fun (_, before) => Text.str (dropEnd before).reverse

/-- The path with the extension of its last name replaced, or with one added.  A dot at the front of
a name begins no extension.  Of a path that ends with a second dot and an extension after the first
dot of a name, only the two dots are left. -/
def withExtension (path : Path) (ext : String) : Path :=
  match cutName? path with
  | none => path
  | some (name, before) =>
    let afterDot := (name.dropWhile (· != '.')).drop 1
    let stem := if afterDot.isEmpty then name else afterDot
    if name = ['.'] ∨ name = ['.', '.'] then path
    else if afterDot = ['.'] ∧ path.toList.reverse = name ++ before then
      Text.str (['.', '.'] ++ before).reverse
    else Text.str (stem ++ before).reverse ++ "." ++ ext

/-- The steps that a path takes: the texts between its slashes that are not empty. -/
def steps (path : Path) : List Text := (Text.splitOn '/' path.toList).filter (!·.isEmpty)

/-- Whether a slash ends the path. -/
def endsInSlash (path : Path) : Bool := path.toList.getLast? == some '/'

/-- Whether a path begins at the root. -/
def isAbsolute (path : Path) : Bool := path.toList.head? == some '/'

/-- A path below a directory; an absolute path stays as it is. -/
def join (directory path : Path) : Path :=
  if isAbsolute path then path
  else if directory.isEmpty || endsInSlash directory then directory ++ path
  else directory ++ "/" ++ path

end Path

end GrammarBots

import GrammarBots.Failure
import GrammarBots.File.Tree

/-!
# Working with files

What the library needs of a file system is three operations, given by a `FileAccess` for any monad:
a tree of files in memory is one (`FileAccess.tree`).  A change that takes several steps is a
`FileScript`: the steps run in order, the first that fails ends the script, and its context tells
what could not be done.
-/

namespace GrammarBots

/-- Steps, each with the context of its failure. -/
abbrev FileScript := List (FileStep × String)

/-- Access to a file system. -/
structure FileAccess (m : Type → Type) where
  /-- Whether anything is at a path. -/
  contains : Path → m Bool
  /-- The text of a file. -/
  read : Path → m (Except FileError String)
  /-- Makes a change. -/
  change : FileStep → m (Except FileError Unit)

namespace FileAccess

variable {m : Type → Type} [Monad m]

/-- Runs the steps of a script until one fails. -/
def runScript (files : FileAccess m) : FileScript → m (Except Failure Unit)
  | [] => return .ok ()
  | (step, context) :: rest => do
    match ← files.change step with
    | .ok () => runScript files rest
    | .error e => return .error ((Failure.ofCause (.file e)).within context)

/-- Access to a tree of files in memory. -/
def tree : FileAccess (StateM FileTree) where
  contains path := return (← get).contains path
  read path := return (← get).text path
  change step := modifyGet fun t =>
    let (t, result) := t.apply step
    (result, t)

end FileAccess

end GrammarBots

import GrammarBots.Text.Basic

/-!
# Command line arguments

An argument is an option, a switch, the name of a command or a value.  A `Level` says which there
are, for the program itself and for each of its commands; `Level.read` reads the arguments of one
such level.  A value that stands apart from its option is checked only when the next argument that
is known comes, or at the end, so of two faults the one that is noticed first is reported.
-/

namespace GrammarBots.Arguments

/-- Why arguments cannot be used, or need no further use. -/
inductive UsageError where
  /-- Help was asked for. -/
  | help
  /-- The version was asked for. -/
  | version
  /-- There are no arguments at all. -/
  | noArguments
  /-- There is no command. -/
  | noCommand
  /-- A command of that name does not exist. -/
  | unknownCommand
  /-- An argument of that name does not exist. -/
  | unknownArgument
  /-- An argument that is needed is missing. -/
  | missingArgument
  /-- A value is missing or is none of those to choose from. -/
  | invalidValue
  /-- A value is malformed. -/
  | malformedValue
  /-- A switch is given a value. -/
  | unexpectedValue
  /-- Arguments exclude each other, or one is repeated. -/
  | conflict
  deriving DecidableEq

/-- The values that an option takes. -/
inductive ValueKind where
  /-- Any text. -/
  | text
  /-- A text that is not empty. -/
  | path
  /-- A natural number of at most 64 bits. -/
  | number
  /-- One of several words. -/
  | oneOf (words : List Text)
  deriving DecidableEq

/-- What an argument does. -/
inductive Effect where
  /-- It is on or off. -/
  | switch
  /-- It takes a value. -/
  | value (kind : ValueKind)
  /-- It asks for help. -/
  | help
  /-- It asks for the version. -/
  | version
  deriving DecidableEq

/-- An option. -/
structure OptionSpec where
  /-- The name, which follows two hyphens. -/
  name : Text
  /-- The letter, which follows one hyphen. -/
  letter : Option Char := none
  /-- What it does. -/
  effect : Effect

/-- What arguments a level has. -/
structure Level where
  /-- The options. -/
  options : List OptionSpec
  /-- The name of the value that stands alone, if the level takes one. -/
  positional : Option Text := none
  /-- The commands. -/
  commands : List Text := []

/-- An argument that was given: its name and its value, empty for a switch. -/
abbrev Given := List (Text × Text)

/-- An option whose value has yet to be checked. -/
structure Pending where
  /-- The name of the argument. -/
  name : Text
  /-- What values it takes. -/
  kind : ValueKind
  /-- The value, if it has come. -/
  value : Option Text

/-- What was read so far. -/
structure Progress where
  /-- The arguments that are settled. -/
  given : Given := []
  /-- The argument that is not. -/
  pending : Option Pending := none
  /-- Whether a lone `--` was read, after which everything is a value. -/
  onlyValues : Bool := false
  /-- Whether the value that stands alone was read. -/
  hasPositional : Bool := false

/-- The number that a text writes, if it has at most 64 bits. -/
def number? (t : Text) : Option Nat :=
  let digits := match t with
    | '+' :: rest => rest
    | t => t
  if digits.isEmpty ∨ !digits.all Char.isDigit then none
  else
    let n := digits.foldl (fun n c => n * 10 + (c.toNat - '0'.toNat)) 0
    if n < UInt64.size then some n else none

/-- Checks a value. -/
def ValueKind.check (value : Text) : ValueKind → Except UsageError Unit
  | .text => .ok ()
  | .path => if value.isEmpty then .error .invalidValue else .ok ()
  | .number => if (number? value).isSome then .ok () else .error .malformedValue
  | .oneOf words => if words.contains value then .ok () else .error .invalidValue

namespace Progress

/-- Adds an argument, which must not be there already. -/
def give (p : Progress) (name value : Text) : Except UsageError Progress :=
  if p.given.any (·.1 == name) then .error .conflict
  else .ok { p with given := p.given ++ [(name, value)] }

/-- Settles the argument that is pending. -/
def settle (p : Progress) : Except UsageError Progress :=
  match p.pending with
  | none => .ok p
  | some ⟨_, _, none⟩ => .error .invalidValue
  | some ⟨name, kind, some value⟩ => do
    let q ← { p with pending := none : Progress }.give name value
    kind.check value
    return q

/-- Whether the next argument is the value of an option. -/
def awaitsValue (p : Progress) : Bool :=
  match p.pending with
  | some ⟨_, _, none⟩ => true
  | _ => false

/-- Takes an option with the value attached to it, if there is one. -/
def take (p : Progress) (o : OptionSpec) (attached : Option Text) : Except UsageError Progress :=
  match o.effect, attached with
  | .value kind, some value => do
    let p ← p.settle
    { p with pending := some ⟨o.name, kind, some value⟩ : Progress }.settle
  | .value kind, none => do
    let p ← p.settle
    return { p with pending := some ⟨o.name, kind, none⟩ }
  | .switch, some _ | .help, some _ | .version, some _ => .error .unexpectedValue
  | .switch, none => do
    let p ← p.settle
    p.give o.name []
  | .help, none => do
    let _ ← p.settle
    .error .help
  | .version, none => do
    let _ ← p.settle
    .error .version

end Progress

namespace Level

/-- Reads the letters after a single hyphen. -/
def readLetters (level : Level) (p : Progress) : Text → Except UsageError Progress
  | [] => .ok p
  | c :: rest =>
    match level.options.find? (·.letter == some c) with
    | none => .error .unknownArgument
    | some o =>
      match o.effect with
      | .value _ =>
        p.take o (match rest with
          | [] => none
          | '=' :: value => some value
          | value => some value)
      | _ => do
        let p ← p.take o none
        readLetters level p rest

/-- Reads what follows two hyphens. -/
def readName (level : Level) (p : Progress) (t : Text) : Except UsageError Progress :=
  let (name, attached) := (Text.splitOnce? '=' t).elim (t, none) fun (n, v) => (n, some v)
  match level.options.find? (·.name == name) with
  | some o => p.take o attached
  | none => .error .unknownArgument

/-- Reads a value that stands alone. -/
def readValue (level : Level) (p : Progress) (t : Text) : Except UsageError Progress :=
  match level.positional with
  | some name =>
    if p.hasPositional then .error .unknownArgument
    else do
      let p ← p.settle
      return { p with pending := some ⟨name, .text, some t⟩, hasPositional := true }
  | none =>
    if level.commands.isEmpty ∨ (p.onlyValues ∧ level.commands.contains t) then
      .error .unknownArgument
    else .error .unknownCommand

/-- Reads one argument. -/
def readOne (level : Level) (p : Progress) (t : Text) : Except UsageError Progress :=
  if p.onlyValues then level.readValue p t
  else match t with
    | ['-', '-'] => .ok { p with onlyValues := true }
    | '-' :: '-' :: rest => level.readName p rest
    | '-' :: c :: rest => level.readLetters p (c :: rest)
    | t =>
      match p.pending with
      | some ⟨name, kind, none⟩ => .ok { p with pending := some ⟨name, kind, some t⟩ }
      | _ => level.readValue p t

/-- Reads arguments up to the name of a command, which is given back with the arguments after
it. -/
def read (level : Level) (p : Progress) :
    List Text → Except UsageError (Progress × Option (Text × List Text))
  | [] => .ok (p, none)
  | t :: rest =>
    if !p.onlyValues ∧ !p.awaitsValue ∧ level.commands.contains t then .ok (p, some (t, rest))
    else do
      let p ← level.readOne p t
      read level p rest

end Level

end GrammarBots.Arguments

import GrammarBots.File.Path
import GrammarBots.Text.Casing

/-!
# Paths with variables

A path in the settings may name environment variables and begin with a tilde.  `Segment.ofText` cuts
such a text into literal stretches and variables, without asking what the variables are; `expand`
puts their values in.  A variable is written `$NAME`, `${NAME}` or `${NAME:-default}`, and `$$` is a
dollar sign.  The tilde stands for the home directory only if it stood in the text from the start.
-/

namespace GrammarBots.PathTemplate

/-- A stretch of a path with variables. -/
inductive Segment where
  /-- A character that stands for itself. -/
  | char (c : Char)
  /-- A variable, and what stands in for it if it is not set. -/
  | variable (name : Text) (default : Option Text)
  deriving DecidableEq

/-- Whether a character may stand in the name of a variable without braces. -/
def isNameChar (c : Char) : Bool := Text.isAlphanumeric c || c == '_'

/-- The text before and after the first `:-`, if there is one. -/
def splitDefault? : Text → Option (Text × Text)
  | ':' :: '-' :: rest => some ([], rest)
  | c :: rest => (splitDefault? rest).map fun (before, after) => (c :: before, after)
  | [] => none

/-- The variable that stands between braces.  A default needs a name before it. -/
def Segment.ofBraces (content : Text) : Segment :=
  match splitDefault? content with
  | some ([], _) => .variable content none
  | some (name, default) => .variable name (some default)
  | none => .variable content none

/-- The segments of a text.  A brace that is not closed, and a dollar sign before anything else than
a name, stand for themselves. -/
def Segment.ofText : Text → List Segment
  | [] => []
  | '$' :: '$' :: rest => .char '$' :: ofText rest
  | '$' :: '\x7b' :: rest =>
    match _h : Text.splitOnce? '\x7d' rest with
    | some (content, after) => ofBraces content :: ofText after
    | none => .char '$' :: .char '\x7b' :: ofText rest
  | '$' :: rest =>
    match rest.takeWhile isNameChar with
    | [] => .char '$' :: ofText rest
    | name => .variable name none :: ofText (rest.dropWhile isNameChar)
  | c :: rest => .char c :: ofText rest
  termination_by t => t.length
  decreasing_by
    all_goals simp only [List.length_cons]
    · omega
    · have := congrArg List.length (Text.eq_of_splitOnce? _h)
      simp only [List.length_append, List.length_cons] at this
      omega
    · omega
    · omega
    · have := (List.dropWhile_sublist (l := rest) isNameChar).length_le
      omega
    · omega

/-- The text with the values of its variables, or the name of the first variable that has none. -/
def fill {m : Type → Type} [Monad m] (valueOf : String → m (Option String)) :
    List Segment → m (Except String Text)
  | [] => return .ok []
  | .char c :: rest => return (← fill valueOf rest).map (c :: ·)
  | .variable name default :: rest => do
    match (← valueOf name.str).map String.toList <|> default with
    | some value => return (← fill valueOf rest).map (value ++ ·)
    | none => return .error name.str

/-- Whether a text is a tilde, alone or before a slash. -/
def beginsAtHome (t : Text) : Bool :=
  match t with
  | ['~'] => true
  | '~' :: '/' :: _ => true
  | _ => false

/-- The path that a text stands for, or the name of a variable that it uses and that is not set. -/
def expand {m : Type → Type} [Monad m] (valueOf : String → m (Option String))
    (home : Option Path) (t : String) : m (Except String Path) := do
  let filled ← fill valueOf (Segment.ofText t.toList)
  return filled.map fun path =>
    match home with
    | some home =>
      if t.toList.head? = some '~' ∧ beginsAtHome path then home ++ Text.str (path.drop 1)
      else path.str
    | none => path.str

end GrammarBots.PathTemplate

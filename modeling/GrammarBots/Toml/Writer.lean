import GrammarBots.Json.Writer
import GrammarBots.Toml.Value

/-!
# Writing TOML

Each string is written in the first form that suits it: between quotes if nothing in it needs an
escape there, then between apostrophes, then in the forms of several lines, and with escapes where
no literal form can hold it.
-/

namespace GrammarBots.Toml

/-- The longest run of a character in a text; `run` is the length of the run that ends before it. -/
def longestRun (c : Char) (run : Nat) : Text → Nat
  | [] => run
  | d :: rest => if d = c then longestRun c (run + 1) rest else max run (longestRun c 0 rest)

/-- Whether a character needs no escape in any form and no thought in any parser. -/
def isPlain (c : Char) : Bool := c.isAlphanum || "_./ :-".toList.contains c

/-- The control characters that only an escape can write. -/
def isControl (c : Char) : Bool :=
  (c.toNat < 0x20 && c != '\t' && c != '\n') || c.toNat == 0x7F

/-- The forms of a string. -/
inductive StringForm where
  /-- Between quotes. -/
  | basic
  /-- Between apostrophes. -/
  | literal
  /-- Between triple quotes. -/
  | basicLines
  /-- Between triple apostrophes. -/
  | literalLines
  deriving DecidableEq

/-- The form that a string is written in: the first that suits it. -/
def StringForm.of (s : Text) : StringForm :=
  let control := s.any isControl
  let backslash := s.contains '\\'
  let newline := s.contains '\n'
  let quotes := longestRun '"' 0 s
  let apostrophes := longestRun '\x27' 0 s
  if s.all isPlain then .basic
  else if !control && !backslash && !newline && quotes == 0 then .basic
  else if !control && !newline && apostrophes == 0 then .literal
  else if !control && !backslash && quotes ≤ 2 then .basicLines
  else if !control && apostrophes ≤ 2 then .literalLines
  else if newline then .basicLines
  else .basic

/-- An upper-case hexadecimal digit. -/
def upperHexDigit (n : Nat) : Char := (Nat.digitChar (n % 16)).toUpper

/-- A character other than the quote and the line break as it stands in a basic string. -/
def escapeChar (c : Char) : Text :=
  if c = '\x08' then ['\\', 'b']
  else if c = '\t' then ['\\', 't']
  else if c = '\x0C' then ['\\', 'f']
  else if c = '\r' then ['\\', 'r']
  else if c = '\\' then ['\\', '\\']
  else if isControl c then
    ['\\', 'u', '0', '0', upperHexDigit (c.toNat / 16), upperHexDigit c.toNat]
  else [c]

/-- The inside of a basic string on one line. -/
def escapeLine (s : Text) : Text :=
  s.flatMap fun c =>
    if c = '"' then ['\\', '"'] else if c = '\n' then ['\\', 'n'] else escapeChar c

/-- The inside of a basic string of several lines; every third quote of a run is escaped.  `quotes`
counts the quotes just written without an escape. -/
def escapeLines (quotes : Nat) : Text → Text
  | [] => []
  | c :: rest =>
    if c = '"' then
      if quotes = 2 then '\\' :: '"' :: escapeLines 0 rest else '"' :: escapeLines (quotes + 1) rest
    else (if c = '\n' then ['\n'] else escapeChar c) ++ escapeLines 0 rest

/-- A string as it is written. -/
def quote (s : Text) : Text :=
  let start := if s.contains '\n' then ['\n'] else []
  match StringForm.of s with
  | .basic => '"' :: escapeLine s ++ ['"']
  | .literal => '\x27' :: s ++ ['\x27']
  | .basicLines => "\"\"\"".toList ++ start ++ escapeLines 0 s ++ "\"\"\"".toList
  | .literalLines =>
    ['\x27', '\x27', '\x27'] ++ start ++ s ++ ['\x27', '\x27', '\x27']

/-- A key and its written value on a line. -/
def line (key : String) (value : Text) : Text := key.toList ++ " = ".toList ++ value ++ ['\n']

/-- A natural number as it is written. -/
def natural (n : Nat) : Text := (toString n).toList

/-- A boolean as it is written. -/
def boolean (b : Bool) : Text := (if b then "true" else "false").toList

end GrammarBots.Toml

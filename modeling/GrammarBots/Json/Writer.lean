import GrammarBots.Json.Value

/-!
# Writing JSON

Two layouts of the same document: `compact`, without blanks, for request bodies, and `pretty`, one
member or element a line, for output that people read.  Strings escape the quote, the backslash and
the control characters below U+0020, and nothing else.
-/

namespace GrammarBots.Json

/-- The lower-case hexadecimal digit of a number below sixteen. -/
def hexDigit (n : Nat) : Char := Nat.digitChar (n % 16)

/-- A character as it stands inside a written string. -/
def escapeChar (c : Char) : Text :=
  match c with
  | '"' => ['\\', '"']
  | '\\' => ['\\', '\\']
  | '\x08' => ['\\', 'b']
  | '\x0C' => ['\\', 'f']
  | '\n' => ['\\', 'n']
  | '\r' => ['\\', 'r']
  | '\t' => ['\\', 't']
  | c =>
    if c.toNat < 0x20 then ['\\', 'u', '0', '0', hexDigit (c.toNat / 16), hexDigit c.toNat]
    else [c]

/-- A written string, quotes included. -/
def quote (s : Text) : Text := '"' :: s.flatMap escapeChar ++ ['"']

mutual

/-- The document without blanks. -/
def Value.compact : Value → Text
  | .null => "null".toList
  | .bool true => "true".toList
  | .bool false => "false".toList
  | .number literal => literal
  | .string s => quote s
  | .array elements => '[' :: compactElements elements ++ [']']
  | .object members => '\x7b' :: compactMembers members ++ ['\x7d']

/-- The elements of an array with commas between them. -/
def compactElements : List Value → Text
  | [] => []
  | [v] => v.compact
  | v :: vs => v.compact ++ ',' :: compactElements vs

/-- The members of an object with commas between them. -/
def compactMembers : List (Text × Value) → Text
  | [] => []
  | [(name, v)] => quote name ++ ':' :: v.compact
  | (name, v) :: ms => quote name ++ ':' :: v.compact ++ ',' :: compactMembers ms

end

/-- A line break and the indentation of a nesting depth. -/
def newLine (depth : Nat) : Text := '\n' :: List.replicate (2 * depth) ' '

mutual

/-- The document with each element and member on a line of its own, two blanks a level. -/
def Value.prettyAt (depth : Nat) : Value → Text
  | .array [] => "[]".toList
  | .array (v :: vs) => '[' :: prettyElements depth (v :: vs) ++ newLine depth ++ [']']
  | .object [] => ['\x7b', '\x7d']
  | .object (m :: ms) => '\x7b' :: prettyMembers depth (m :: ms) ++ newLine depth ++ ['\x7d']
  | .null => "null".toList
  | .bool b => (if b then "true" else "false").toList
  | .number literal => literal
  | .string s => quote s

/-- The elements of an array, each after a line break. -/
def prettyElements (depth : Nat) : List Value → Text
  | [] => []
  | v :: vs =>
    newLine (depth + 1) ++ v.prettyAt (depth + 1) ++ (if vs.isEmpty then [] else [',']) ++
      prettyElements depth vs

/-- The members of an object, each after a line break. -/
def prettyMembers (depth : Nat) : List (Text × Value) → Text
  | [] => []
  | (name, v) :: ms =>
    newLine (depth + 1) ++ quote name ++ ':' :: ' ' :: v.prettyAt (depth + 1) ++
      (if ms.isEmpty then [] else [',']) ++ prettyMembers depth ms

end

/-- The document as people read it. -/
def Value.pretty (v : Value) : String := (v.prettyAt 0).str

/-- A number value. -/
def Value.ofNat (n : Nat) : Value := .number (toString n).toList

/-- A string value. -/
def Value.ofString (s : String) : Value := .string s.toList

end GrammarBots.Json

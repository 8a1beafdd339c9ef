import GrammarBots.Text.Basic

/-!
# TOML values

A TOML document is a table.  A table remembers how it came to be, because that decides what may
still be added to it while the document is read; once reading is over only its entries matter.
-/

namespace GrammarBots.Toml

/-- How a table came to be. -/
inductive TableForm where
  /-- By a header of its own; the root table counts as one. -/
  | headed
  /-- By standing inside the path of a header. -/
  | implied
  /-- By standing inside a dotted key. -/
  | dotted
  /-- Between braces; nothing can be added to it. -/
  | inlined
  deriving DecidableEq

/-- A TOML value. -/
inductive Value where
  /-- A string, escapes resolved. -/
  | string (s : Text)
  /-- An integer. -/
  | integer (n : Int)
  /-- A boolean. -/
  | boolean (b : Bool)
  /-- A floating-point number, as its literal. -/
  | float (literal : Text)
  /-- A date, a time or both, as its literal. -/
  | datetime (literal : Text)
  /-- An array between brackets. -/
  | array (elements : List Value)
  /-- An array of tables that headers in double brackets write, latest table last. -/
  | tables (elements : List (List (Text × Value)))
  /-- A table. -/
  | table (form : TableForm) (entries : List (Text × Value))
  deriving Inhabited

/-- The entries of a table. -/
abbrev Entries := List (Text × Value)

namespace Value

/-- The elements of an array, written in whatever way. -/
def elements? : Value → Option (List Value)
  | .array elements => some elements
  | .tables elements => some (elements.map (.table .headed))
  | _ => none

/-- The fields of a record: the entries of a table, or the elements of an array in the order of the
names given. -/
def fields? (names : List Text) : Value → Option Entries
  | .table _ entries => some entries
  | .array elements => some (names.zip elements)
  | _ => none

/-- The string that the value is, if it is one. -/
def string? : Value → Option Text
  | .string s => some s
  | _ => none

/-- The boolean that the value is, if it is one. -/
def boolean? : Value → Option Bool
  | .boolean b => some b
  | _ => none

/-- The number that the value is, if it is a natural number of at most 64 bits. -/
def natural64? : Value → Option Nat
  | .integer n => if 0 ≤ n ∧ n < UInt64.size then some n.toNat else none
  | _ => none

end Value

end GrammarBots.Toml

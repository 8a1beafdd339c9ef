import GrammarBots.Text.Basic

/-!
# JSON values

A JSON document as data.  Objects keep their members as they were written, repeated names included,
because readers differ in what a repeated name means: a script takes the last one, an answer of the
publishing service may give a field only once.
-/

namespace GrammarBots.Json

/-- A JSON value. -/
inductive Value where
  /-- The literal `null`. -/
  | null
  /-- The literals `true` and `false`. -/
  | bool (b : Bool)
  /-- A number, as its literal. -/
  | number (literal : Text)
  /-- A string, escapes resolved. -/
  | string (s : Text)
  /-- An array. -/
  | array (elements : List Value)
  /-- An object, as its members in the order they were written. -/
  | object (members : List (Text × Value))
  deriving Inhabited

/-- The string that the value is, if it is one. -/
def Value.string? : Value → Option Text
  | .string s => some s
  | _ => none

end GrammarBots.Json

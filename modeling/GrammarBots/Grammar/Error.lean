import GrammarBots.Text.Basic

/-!
# What can be wrong with a grammar

Four things go wrong between a script and its expansion: the script is no grammar, a rule is
malformed, a symbol has no rules, or symbols nest too deeply.  Each is a constructor of
`GrammarError`; the wording is in `GrammarError.message` and nowhere else.
-/

namespace GrammarBots

/-- Why a script is no grammar. -/
inductive SourceFault where
  /-- The script is not a JSON document. -/
  | notJson
  /-- The document is not an object. -/
  | notObject
  /-- Some member of the object is neither a string nor an array of strings. -/
  | badRules
  /-- A symbol is given an empty array. -/
  | noRules (symbol : Text)
  /-- A fault that is given in words. -/
  | other (reason : String)
  deriving DecidableEq

/-- Why a rule, a tag or an action cannot be read. -/
inductive RuleFault where
  /-- A closing bracket has no opening one. -/
  | unmatchedBracket
  /-- A tag is not closed. -/
  | unterminatedTag
  /-- An action of a rule is not closed. -/
  | unterminatedAction
  /-- An action inside a tag is not closed. -/
  | unterminatedTagAction
  /-- An action has no colon. -/
  | actionWithoutColon
  /-- An action names no symbol. -/
  | actionWithoutTarget
  /-- A fault that is given in words. -/
  | other (reason : String)
  deriving DecidableEq

/-- Why a grammar cannot be loaded or expanded. -/
inductive GrammarError where
  /-- The script is no grammar. -/
  | invalidSource (fault : SourceFault)
  /-- A symbol without rules was asked for. -/
  | unknownSymbol (symbol : Text) (suggestions : List Text)
  /-- A rule, tag or action cannot be read. -/
  | malformedRule (rule : Text) (fault : RuleFault)
  /-- Symbols nest deeper than the limit. -/
  | recursionLimit (symbol : Text) (limit : Nat)
  deriving DecidableEq

/-- The words for a script that is not a JSON document. -/
def notJsonReason : String := "the script is not well-formed JSON"

/-- The fault in words. -/
def SourceFault.reason : SourceFault → String
  | .notJson => notJsonReason
  | .notObject => "expected a JSON object mapping symbols to rules"
  | .badRules => "rules must be strings or lists of strings " ++
      "(data did not match any variant of untagged enum RuleSet)"
  | .noRules symbol => "symbol '" ++ symbol.str ++ "' has no rules"
  | .other reason => reason

/-- The fault in words. -/
def RuleFault.reason : RuleFault → String
  | .unmatchedBracket => "unmatched ']'"
  | .unterminatedTag => "unterminated '#' tag"
  | .unterminatedAction => "unterminated '[' action"
  | .unterminatedTagAction => "unterminated '[' action in tag"
  | .actionWithoutColon => "action must have the form [name:rule]"
  | .actionWithoutTarget => "action has no target symbol"
  | .other reason => reason

/-- The names with commas between them. -/
def nameList (names : List Text) : String := (Text.join ", ".toList names).str

/-- The hint that follows an unknown symbol, empty without suggestions. -/
def suggestionHint (suggestions : List Text) : String :=
  if suggestions.isEmpty then "" else " (did you mean: " ++ nameList suggestions ++ "?)"

/-- The error in words. -/
def GrammarError.message : GrammarError → String
  | .invalidSource fault => "invalid grammar source: " ++ fault.reason
  | .unknownSymbol symbol suggestions =>
    "unknown grammar symbol '" ++ symbol.str ++ "'" ++ suggestionHint suggestions
  | .malformedRule rule fault => "syntax error in rule \"" ++ rule.str ++ "\": " ++ fault.reason
  | .recursionLimit symbol limit =>
    "expansion of '" ++ symbol.str ++ "' exceeded the nesting limit of " ++ toString limit

end GrammarBots

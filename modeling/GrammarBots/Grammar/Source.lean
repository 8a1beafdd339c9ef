import GrammarBots.Grammar.References
import GrammarBots.Json.Reader
import GrammarBots.Text.Dictionary
import GrammarBots.Text.EditDistance

/-!
# Grammars

A grammar gives rules to symbols.  It is written as a JSON object whose members are a rule or an
array of rules; the symbols are kept in code point order, and of two members with one name the last
counts.  `Grammar.lint` lists, without expanding anything, what would make an expansion fail.
-/

namespace GrammarBots

/-- The rules of every symbol. -/
structure Grammar where
  /-- The rules, by symbol. -/
  dictionary : Dictionary (List Text)

namespace Grammar

/-- The rules of a symbol, if it is defined. -/
def rules? (g : Grammar) (symbol : Text) : Option (List Text) := g.dictionary.get? symbol

/-- Whether a symbol is defined. -/
def defines (g : Grammar) (symbol : Text) : Bool := g.dictionary.contains symbol

/-- The defined symbols, in code point order. -/
def symbols (g : Grammar) : List Text := g.dictionary.keys

/-- Every rule, in the order of symbols. -/
def allRules (g : Grammar) : List Text := g.dictionary.entries.flatMap (·.2)

/-! ### Loading -/

/-- The grammar with the given rules; of two entries for one symbol, the later one counts. -/
def ofRules (entries : List (Text × List Text)) : Grammar := ⟨Dictionary.ofList entries⟩

/-- The rules that a JSON value writes: a string is one rule, an array of strings is several. -/
def ruleList? : Json.Value → Option (List Text)
  | .string rule => some [rule]
  | .array elements => elements.mapM Json.Value.string?
  | _ => none

/-- The grammar that a JSON value writes.  The shape of every member is checked before any empty
array is. -/
def ofValue : Json.Value → Except GrammarError Grammar
  | .object members =>
    let fields := Dictionary.ofList members
    if fields.entries.all fun field => (ruleList? field.2).isSome then
      let rules := fields.mapValues fun value => (ruleList? value).getD []
      match rules.entries.find? (·.2.isEmpty) with
      | some (symbol, _) => .error (.invalidSource (.noRules symbol))
      | none => .ok ⟨rules⟩
    else .error (.invalidSource .badRules)
  | _ => .error (.invalidSource .notObject)

/-- The grammar that a script writes. -/
def ofScript (script : String) : Except GrammarError Grammar :=
  match Json.read? script.toList with
  | some value => ofValue value
  | none => .error (.invalidSource .notJson)

/-! ### Checking -/

/-- How far a suggestion may be from the symbol asked for: half of its octets. -/
def suggestionReach (target : Text) : Nat := Text.utf8Size target * 50 / 100

/-- The closest defined symbols within reach, closest first and at most three; of symbols equally
close, the lesser one first. -/
def similarSymbols (g : Grammar) (target : Text) : List Text :=
  let scored := g.symbols.map fun name => (name, Text.editDistance target name)
  let ranked := scored.mergeSort fun a b => a.2 ≤ b.2
  ((ranked.filter fun entry => entry.2 ≤ suggestionReach target).take 3).map (·.1)

/-- The error of asking for a symbol without rules. -/
def unknownSymbol (g : Grammar) (symbol : Text) : GrammarError :=
  .unknownSymbol symbol (g.similarSymbols symbol)

/-- The symbols that some rule refers to and that neither the grammar nor an action defines, in code
point order. -/
def undefinedReferences (g : Grammar) : List Text :=
  let refs := References.ofRules g.allRules
  (Dictionary.distinct refs.referenced).filter fun name =>
    !g.defines name && !refs.assigned.contains name

/-- Everything that would make an expansion of `start` fail for some choices: the start symbol
missing, malformed rules, references to undefined symbols. -/
def lint (g : Grammar) (start : Text) : List GrammarError :=
  (if g.defines start then [] else [g.unknownSymbol start]) ++
  (g.allRules.filterMap fun rule =>
    match Section.ofRule rule with
    | .ok _ => none
    | .error fault => some (.malformedRule rule fault)) ++
  g.undefinedReferences.map g.unknownSymbol

end Grammar

end GrammarBots

import GrammarBots.Grammar.Source
import GrammarBots.Proofs.Text.Dictionary
import Mathlib.Tactic.Common

/-!
# Which JSON values are grammars

A grammar is read in two passes.  The first asks of every member that it writes rules at all, the
second that it writes at least one; so an empty array is reported only if nothing else is wrong, and
then for the least symbol that has one.  `Grammar.IsGrammar` and `Grammar.Refuses` say which values
are grammars, and what is wrong with the others, without the passes; `Grammar.Describes` says what
the members say of a grammar.

A name may be written twice in an object, and only the last member of the name counts.  All three
are about the members that count (`Dictionary.Counts`), which are those of the dictionary that the
passes go through (`Dictionary.mem_entries_ofList`).
-/

namespace GrammarBots.Grammar

open Dictionary (Counts)

variable {v value : Json.Value} {members : List (Text × Json.Value)} {rules : List Text}
  {rule symbol : Text} {g : Grammar}

/-! ### The rules of a member -/

/-- The value writes the rules: a string is one rule, an array of strings is those in order. -/
inductive Writes : Json.Value → List Text → Prop where
  | one (rule : Text) : Writes (.string rule) [rule]
  | several (rules : List Text) : Writes (.array (rules.map .string)) rules

theorem string?_eq_some_iff : value.string? = some rule ↔ value = .string rule := by
  cases value <;> simp [Json.Value.string?]

theorem mapM_string?_eq_some_iff {elements : List Json.Value} :
    elements.mapM Json.Value.string? = some rules ↔ elements = rules.map .string := by
  induction elements generalizing rules with
  | nil =>
    cases rules with
    | nil => simp
    | cons rule rest => simp
  | cons element elements ih =>
    simp only [List.mapM_cons, Option.bind_eq_bind, Option.bind_eq_some_iff, string?_eq_some_iff,
      ih]
    constructor
    · rintro ⟨rule, rfl, rest, rfl, hrules⟩
      cases hrules
      rfl
    · intro h
      cases rules with
      | nil => cases h
      | cons rule rest =>
        obtain ⟨rfl, rfl⟩ := List.cons.inj h
        exact ⟨rule, rfl, rest, rfl, rfl⟩

theorem ruleList?_eq_some_iff : ruleList? value = some rules ↔ Writes value rules := by
  constructor
  · intro h
    unfold ruleList? at h
    split at h
    next rule =>
      obtain rfl : [rule] = rules := Option.some.inj h
      exact Writes.one rule
    next elements =>
      obtain rfl := mapM_string?_eq_some_iff.mp h
      exact Writes.several rules
    next => cases h
  · rintro (rule | rules)
    · rfl
    · exact mapM_string?_eq_some_iff.mpr rfl

theorem writes_nil_iff : Writes value [] ↔ value = .array [] := by
  constructor
  · intro h
    cases h with
    | several => rw [List.map_nil]
  · rintro rfl
    exact Writes.several []

/-! ### The members of an object -/

/-- Every member of the object writes rules, if possibly none. -/
def IsShaped (members : List (Text × Json.Value)) : Prop :=
  ∀ name value, Counts members name value → ∃ rules, Writes value rules

/-- The value is an object and every member is a string or an array of one or more strings. -/
def IsGrammar (v : Json.Value) : Prop :=
  ∃ members, v = .object members ∧
    ∀ name value, Counts members name value → ∃ rule rules, Writes value (rule :: rules)

/-- What an object says of a grammar: its symbols are the names of the members, in ascending order,
its rules are those that the members write, and no symbol is without a rule. -/
structure Describes (members : List (Text × Json.Value)) (g : Grammar) : Prop where
  /-- The symbols ascend by code points. -/
  ascending : g.symbols.Pairwise (· < ·)
  /-- Exactly the names are symbols. -/
  symbols : ∀ symbol, symbol ∈ g.symbols ↔ symbol ∈ members.map Prod.fst
  /-- The rules are those written. -/
  written : ∀ symbol rules,
    g.rules? symbol = some rules ↔ ∃ value, Counts members symbol value ∧ Writes value rules
  /-- Every symbol has a rule. -/
  stocked : ∀ symbol ∈ g.symbols, ∃ rule rules, g.rules? symbol = some (rule :: rules)

/-- What is wrong with a value that is no grammar. -/
inductive Refuses : Json.Value → SourceFault → Prop where
  /-- The value is no object. -/
  | notObject {v : Json.Value} (h : ∀ members, v ≠ .object members) : Refuses v .notObject
  /-- Some member writes no rules, whatever the others are. -/
  | badRules {members : List (Text × Json.Value)} (h : ¬ IsShaped members) :
    Refuses (.object members) .badRules
  /-- All members write rules, but some write an empty array; the symbol is the least of those. -/
  | noRules {members : List (Text × Json.Value)} {symbol : Text} (hshaped : IsShaped members)
      (hempty : Counts members symbol (.array []))
      (hleast : ∀ name, Counts members name (.array []) → ¬ name < symbol) :
    Refuses (.object members) (.noRules symbol)

theorem all_isSome_iff :
    ((Dictionary.ofList members).entries.all fun field => (ruleList? field.2).isSome) = true ↔
      IsShaped members := by
  simp only [List.all_eq_true, Prod.forall, Dictionary.mem_entries_ofList, Option.isSome_iff_exists,
    ruleList?_eq_some_iff]
  rfl

/-- The grammar of the members, empty arrays included. -/
def ofMembers (members : List (Text × Json.Value)) : Grammar :=
  ⟨(Dictionary.ofList members).mapValues fun value => (ruleList? value).getD []⟩

theorem rules?_ofMembers (hshaped : IsShaped members) :
    (ofMembers members).rules? symbol = some rules ↔
      ∃ value, Counts members symbol value ∧ Writes value rules := by
  have hlookup : (ofMembers members).rules? symbol
      = ((Dictionary.ofList members).get? symbol).map fun value => (ruleList? value).getD [] :=
    Dictionary.get?_mapValues _
  rw [hlookup, Option.map_eq_some_iff]
  refine exists_congr fun value => ?_
  rw [Dictionary.get?_ofList]
  refine and_congr_right fun hcounts => ?_
  -- The member writes rules, so they are not replaced by the empty list.
  obtain ⟨written, hwritten⟩ := hshaped symbol value hcounts
  rw [← ruleList?_eq_some_iff] at hwritten ⊢
  rw [hwritten, Option.getD_some, Option.some.injEq]

theorem symbols_ofMembers : (ofMembers members).symbols = (Dictionary.ofList members).keys :=
  List.map_map

/-- The symbols without rules are those of the empty arrays. -/
theorem rules?_ofMembers_nil (hshaped : IsShaped members) :
    (ofMembers members).rules? symbol = some [] ↔ Counts members symbol (.array []) := by
  rw [rules?_ofMembers hshaped]
  simp only [writes_nil_iff, exists_eq_right]

/-- The second pass finds the least symbol of an empty array. -/
theorem find?_ofMembers (hshaped : IsShaped members) :
    (ofMembers members).dictionary.entries.find? (·.2.isEmpty) = some (symbol, rules) ↔
      rules = [] ∧ Counts members symbol (.array []) ∧
        ∀ name, Counts members name (.array []) → ¬ name < symbol := by
  rw [Dictionary.find?_entries_eq_some_iff]
  have hrules (name : Text) : (ofMembers members).dictionary.get? name = some [] ↔
      Counts members name (.array []) := rules?_ofMembers_nil hshaped
  constructor
  · rintro ⟨hsymbol, hempty, hleast⟩
    obtain rfl : rules = [] := List.isEmpty_iff.mp hempty
    refine ⟨rfl, (hrules symbol).mp hsymbol, ?_⟩
    intro name hname
    exact hleast name [] ((hrules name).mpr hname) rfl
  · rintro ⟨rfl, hsymbol, hleast⟩
    refine ⟨(hrules symbol).mpr hsymbol, rfl, ?_⟩
    intro name others hname hempty
    obtain rfl : others = [] := List.isEmpty_iff.mp hempty
    exact hleast name ((hrules name).mp hname)

/-! ### Loading -/

theorem ofValue_of_not_shaped (h : ¬ IsShaped members) :
    ofValue (.object members) = .error (.invalidSource .badRules) := by
  unfold ofValue
  exact if_neg fun hall => h (all_isSome_iff.mp hall)

theorem ofValue_of_shaped (h : IsShaped members) :
    ofValue (.object members) =
      match (ofMembers members).dictionary.entries.find? (·.2.isEmpty) with
      | some (symbol, _) => .error (.invalidSource (.noRules symbol))
      | none => .ok (ofMembers members) := by
  unfold ofValue
  exact if_pos (all_isSome_iff.mpr h)

/-- What is refused is refused for the reason given. -/
theorem ofValue_of_refuses {fault : SourceFault} (h : Refuses v fault) :
    ofValue v = .error (.invalidSource fault) := by
  cases h with
  | notObject h =>
    cases v with
    | object members => exact absurd rfl (h members)
    | null | bool | number | string | array => rfl
  | badRules h => exact ofValue_of_not_shaped h
  | noRules hshaped hempty hleast =>
    rw [ofValue_of_shaped hshaped, (find?_ofMembers hshaped).mpr ⟨rfl, hempty, hleast⟩]

/-- What is not refused is an object, and its members are the grammar. -/
theorem ofValue_cases (v : Json.Value) :
    (∃ fault, Refuses v fault) ∨
      ∃ members, v = .object members ∧ IsShaped members ∧
        (∀ name, ¬ Counts members name (.array [])) ∧ ofValue v = .ok (ofMembers members) := by
  by_cases hobject : ∃ members, v = .object members
  · obtain ⟨members, rfl⟩ := hobject
    by_cases hshaped : IsShaped members
    · cases hfind : (ofMembers members).dictionary.entries.find? (·.2.isEmpty) with
      | some entry =>
        obtain ⟨-, hempty, hleast⟩ := (find?_ofMembers hshaped).mp hfind
        exact Or.inl ⟨_, Refuses.noRules hshaped hempty hleast⟩
      | none =>
        -- Nothing is found by the second pass, so no array that counts is empty.
        refine Or.inr ⟨members, rfl, hshaped, ?_, ?_⟩
        · intro name hname
          have hentry := Dictionary.mem_entries_of_get? ((rules?_ofMembers_nil hshaped).mpr hname)
          exact List.find?_eq_none.mp hfind _ hentry rfl
        · rw [ofValue_of_shaped hshaped, hfind]
    · exact Or.inl ⟨_, Refuses.badRules hshaped⟩
  · exact Or.inl ⟨_, Refuses.notObject fun members h => hobject ⟨members, h⟩⟩

theorem describes_ofMembers (hshaped : IsShaped members)
    (hstocked : ∀ name, ¬ Counts members name (.array [])) :
    Describes members (ofMembers members) where
  ascending := (ofMembers members).dictionary.pairwise_keys
  symbols := by
    intro symbol
    rw [symbols_ofMembers, Dictionary.mem_keys_ofList]
  written := fun symbol rules => rules?_ofMembers hshaped
  stocked := by
    intro symbol hsymbol
    obtain ⟨rules, hrules⟩ := Dictionary.mem_keys_iff.mp hsymbol
    cases rules with
    | nil => exact absurd ((rules?_ofMembers_nil hshaped).mp hrules) (hstocked symbol)
    | cons rule rules => exact ⟨rule, rules, hrules⟩

theorem ofValue_eq_error_iff {e : GrammarError} :
    ofValue v = .error e ↔ ∃ fault, e = .invalidSource fault ∧ Refuses v fault := by
  constructor
  · intro h
    rcases ofValue_cases v with ⟨fault, hrefuses⟩ | ⟨members, -, -, -, hok⟩
    · rw [ofValue_of_refuses hrefuses] at h
      exact ⟨fault, (Except.error.inj h).symm, hrefuses⟩
    · rw [hok] at h
      cases h
  · rintro ⟨fault, rfl, hrefuses⟩
    exact ofValue_of_refuses hrefuses

theorem describes_of_ofValue (h : ofValue v = .ok g) :
    ∃ members, v = .object members ∧ Describes members g := by
  rcases ofValue_cases v with ⟨fault, hrefuses⟩ | ⟨members, hobject, hshaped, hstocked, hok⟩
  · rw [ofValue_of_refuses hrefuses] at h
    cases h
  · rw [hok] at h
    obtain rfl := Except.ok.inj h
    exact ⟨members, hobject, describes_ofMembers hshaped hstocked⟩

/-- A grammar is not refused. -/
theorem IsGrammar.not_refuses (h : IsGrammar v) {fault : SourceFault} : ¬ Refuses v fault := by
  obtain ⟨members, rfl, hmembers⟩ := h
  intro hrefuses
  cases hrefuses with
  | notObject h => exact h members rfl
  | badRules h =>
    apply h
    intro name value hcounts
    obtain ⟨rule, rules, hwrites⟩ := hmembers name value hcounts
    exact ⟨rule :: rules, hwrites⟩
  | noRules _ hempty _ =>
    obtain ⟨rule, rules, hwrites⟩ := hmembers _ _ hempty
    have hrules : ruleList? (.array []) = some (rule :: rules) := ruleList?_eq_some_iff.mpr hwrites
    cases Option.some.inj hrules

theorem exists_ofValue_iff : (∃ g, ofValue v = .ok g) ↔ IsGrammar v := by
  constructor
  · rintro ⟨g, hg⟩
    rcases ofValue_cases v with ⟨fault, hrefuses⟩ | ⟨members, hobject, hshaped, hstocked, -⟩
    · rw [ofValue_of_refuses hrefuses] at hg
      cases hg
    · refine ⟨members, hobject, ?_⟩
      intro name value hcounts
      obtain ⟨rules, hwrites⟩ := hshaped name value hcounts
      cases rules with
      | nil =>
        obtain rfl := writes_nil_iff.mp hwrites
        exact absurd hcounts (hstocked name)
      | cons rule rules => exact ⟨rule, rules, hwrites⟩
  · intro h
    rcases ofValue_cases v with ⟨fault, hrefuses⟩ | ⟨members, -, -, -, hok⟩
    · exact absurd hrefuses h.not_refuses
    · exact ⟨_, hok⟩

/-- **Exactly the grammars are loaded.**  A value is one if it is an object and every member is a
string or an array of one or more strings; what is loaded is then what the members describe.  Any
other value is refused, and for the one reason that there is to refuse it. -/
theorem ofValue_exact (v : Json.Value) :
    ((∃ g, ofValue v = .ok g) ↔ IsGrammar v) ∧
    (∀ g, ofValue v = .ok g → ∃ members, v = .object members ∧ Describes members g) ∧
    (∀ e, ofValue v = .error e ↔ ∃ fault, e = .invalidSource fault ∧ Refuses v fault) ∧
    SourceFault.notObject.reason = "expected a JSON object mapping symbols to rules" ∧
    ∀ symbol, (SourceFault.noRules symbol).reason = "symbol '" ++ symbol.str ++ "' has no rules" :=
  ⟨exists_ofValue_iff, fun _ => describes_of_ofValue, fun _ => ofValue_eq_error_iff, rfl,
    fun _ => rfl⟩

/-- An object that gives rules to one symbol twice, at first none. -/
def twice : Json.Value :=
  .object [("b".toList, .array []), ("a".toList, .string "x".toList),
    ("b".toList, .array [.string "y".toList, .string "z".toList])]

/-- An object in which two symbols have no rules; the lesser one stands second. -/
def empties : Json.Value := .object [("b".toList, .array []), ("a".toList, .array [])]

/-- The first array of `b` does not count in `twice`; the second symbol of `empties` is the one that
is reported. -/
theorem ofValue_twice :
    IsGrammar twice ∧
      (∃ members, twice = .object members ∧
        Describes members (ofRules [("a".toList, ["x".toList]),
          ("b".toList, ["y".toList, "z".toList])])) ∧
      Refuses empties (.noRules "a".toList) := by
  have htwice : ofValue twice
      = .ok (ofRules [("a".toList, ["x".toList]), ("b".toList, ["y".toList, "z".toList])]) := rfl
  have hempties : ofValue empties = .error (.invalidSource (.noRules "a".toList)) := rfl
  refine ⟨(ofValue_exact twice).1.mp ⟨_, htwice⟩, (ofValue_exact twice).2.1 _ htwice, ?_⟩
  obtain ⟨fault, hfault, hrefuses⟩ := ((ofValue_exact empties).2.2.1 _).mp hempties
  cases hfault
  exact hrefuses

end GrammarBots.Grammar

import GrammarBots.Proofs.Grammar.Loading

/-!
# What the check of a grammar finds

`Grammar.lint_eq_nil_iff` says what a grammar is like when nothing is found: the start symbol is
defined, every rule can be read, and every symbol that some rule refers to is defined by the grammar
or assigned by an action.  The references of a rule are those of its sections, those of a tag
include its symbol and those of its actions, and those of an action include those of the rules that
it pushes; so what is found out about the references of the whole grammar holds for every part.
-/

namespace GrammarBots

/-! ### References of the parts of a rule -/

namespace References

/-- The references of a section. -/
def ofSection : Section → References
  | .text _ => none
  | .tag body => ofTag body
  | .action body => ofAction body

theorem ofSections_cons (s : Section) (sections : List Section) :
    ofSections (s :: sections) = append (ofSection s) (ofSections sections) := by
  cases s <;> simp only [ofSections, ofSection]

theorem ofRule_eq {rule : Text} {sections : List Section}
    (h : Section.ofRule rule = .ok sections) : ofRule rule = ofSections sections := by
  rw [ofRule]
  split
  next h' => rw [h] at h'; cases h'
  next sections' h' => rw [h] at h'; rw [Except.ok.inj h']

theorem ofRule_error {rule : Text} {fault : RuleFault} (h : Section.ofRule rule = .error fault) :
    ofRule rule = none := by
  rw [ofRule]
  split
  next => rfl
  next h' => rw [h] at h'; cases h'

theorem ofTag_eq {body : Text} {tag : Tag} (h : Tag.ofBody body = .ok tag) :
    ofTag body = append (ofActions tag.actions)
      ⟨if tag.symbol.isEmpty then [] else [tag.symbol], []⟩ := by
  rw [ofTag]
  split
  next h' => rw [h] at h'; cases h'
  next tag' h' => rw [h] at h'; rw [Except.ok.inj h']

theorem ofAction_push {body target : Text} {rules : List Text}
    (h : Action.ofBody body = .ok (.push target rules)) :
    ofAction body = append ⟨[], [target]⟩ (ofRules rules) := by
  rw [ofAction]
  split
  next target' rules' h' =>
    rw [h] at h'
    obtain ⟨rfl, rfl⟩ := Action.push.inj (Except.ok.inj h')
    rfl
  next h' => exact absurd h (h' target rules)

variable {symbol : Text}

theorem mem_referenced_append {a b : References} :
    symbol ∈ (append a b).referenced ↔ symbol ∈ a.referenced ∨ symbol ∈ b.referenced :=
  List.mem_append

theorem mem_assigned_append {a b : References} :
    symbol ∈ (append a b).assigned ↔ symbol ∈ a.assigned ∨ symbol ∈ b.assigned :=
  List.mem_append

theorem mem_ofSections_of_mem {s : Section} {sections : List Section} (hs : s ∈ sections)
    (h : symbol ∈ (ofSection s).referenced) : symbol ∈ (ofSections sections).referenced := by
  induction sections with
  | nil => cases hs
  | cons first sections ih =>
    rw [ofSections_cons, mem_referenced_append]
    rcases List.mem_cons.mp hs with rfl | hs
    · exact Or.inl h
    · exact Or.inr (ih hs)

theorem mem_ofActions_of_mem {body : Text} {bodies : List Text} (hbody : body ∈ bodies)
    (h : symbol ∈ (ofAction body).referenced) : symbol ∈ (ofActions bodies).referenced := by
  induction bodies with
  | nil => cases hbody
  | cons first bodies ih =>
    rw [ofActions, mem_referenced_append]
    rcases List.mem_cons.mp hbody with rfl | hbody
    · exact Or.inl h
    · exact Or.inr (ih hbody)

theorem mem_ofRules_of_mem {rule : Text} {rules : List Text} (hrule : rule ∈ rules)
    (h : symbol ∈ (ofRule rule).referenced) : symbol ∈ (ofRules rules).referenced := by
  induction rules with
  | nil => cases hrule
  | cons first rules ih =>
    rw [ofRules, mem_referenced_append]
    rcases List.mem_cons.mp hrule with rfl | hrule
    · exact Or.inl h
    · exact Or.inr (ih hrule)

end References

namespace Grammar

variable {g : Grammar} {symbol : Text}

/-! ### Rules -/

theorem mem_allRules {rules : List Text} {rule : Text} (hrules : g.rules? symbol = some rules)
    (hrule : rule ∈ rules) : rule ∈ g.allRules :=
  List.mem_flatMap.mpr ⟨(symbol, rules), Dictionary.mem_entries_of_get? hrules, hrule⟩

/-- In the grammar of a script, every symbol has a rule. -/
theorem ne_nil_of_ofScript {script : String} (h : ofScript script = .ok g) {rules : List Text}
    (hrules : g.rules? symbol = some rules) : rules ≠ [] := by
  have hvalue : ∃ value, ofValue value = .ok g := by
    unfold ofScript at h
    cases hread : Json.read? script.toList with
    | none => rw [hread] at h; cases h
    | some value => rw [hread] at h; exact ⟨value, h⟩
  obtain ⟨value, hvalue⟩ := hvalue
  obtain ⟨members, -, hdescribes⟩ := describes_of_ofValue hvalue
  obtain ⟨rule, others, hstocked⟩ :=
    hdescribes.stocked symbol (Dictionary.mem_keys_iff.mpr ⟨rules, hrules⟩)
  rw [hrules] at hstocked
  obtain rfl := Option.some.inj hstocked
  exact List.cons_ne_nil rule others

/-! ### Problems -/

theorem undefinedReferences_eq_nil_iff :
    g.undefinedReferences = [] ↔ ∀ name ∈ (References.ofRules g.allRules).referenced,
      g.defines name = true ∨ name ∈ (References.ofRules g.allRules).assigned := by
  rw [undefinedReferences, List.filter_eq_nil_iff]
  refine forall_congr' fun name => ?_
  rw [Dictionary.mem_distinct, Bool.and_eq_true, not_and_or, Bool.not_eq_true', Bool.not_eq_true',
    Bool.not_eq_false, Bool.not_eq_false, List.contains_iff_mem]

/-- **Nothing is found** in a grammar if the start symbol is defined, every rule can be read, and
every symbol that is referred to is defined or assigned. -/
theorem lint_eq_nil_iff {start : Text} :
    g.lint start = [] ↔ g.defines start = true ∧
      (∀ rule ∈ g.allRules, ∃ sections, Section.ofRule rule = .ok sections) ∧
      ∀ name ∈ (References.ofRules g.allRules).referenced,
        g.defines name = true ∨ name ∈ (References.ofRules g.allRules).assigned := by
  rw [lint, List.append_eq_nil_iff, List.append_eq_nil_iff, List.map_eq_nil_iff,
    undefinedReferences_eq_nil_iff, and_assoc, List.filterMap_eq_nil_iff]
  refine and_congr ?_ (and_congr (forall₂_congr fun rule _ => ?_) Iff.rfl)
  · split <;> simp [*]
  · cases Section.ofRule rule <;> simp

end Grammar

end GrammarBots

import GrammarBots.Grammar.Action
import GrammarBots.Grammar.Section
import GrammarBots.Grammar.Tag

/-!
# The references of a rule

Without expanding anything, a rule tells which symbols its expansion may ask for and which ones its
actions give rules to.  Rules inside actions count like the rule itself; what cannot be read counts
as empty, because a malformed rule is reported on its own.
-/

namespace GrammarBots

/-- Symbols that text refers to and symbols that its actions assign, in the order they occur. -/
structure References where
  /-- The symbols of tags. -/
  referenced : List Text
  /-- The targets of pushes. -/
  assigned : List Text

namespace References

/-- No reference and no assignment. -/
def none : References := ⟨[], []⟩

/-- The references of two texts together. -/
def append (a b : References) : References :=
  ⟨a.referenced ++ b.referenced, a.assigned ++ b.assigned⟩

mutual

/-- The references of a rule. -/
def ofRule (rule : Text) : References :=
  match h : Section.ofRule rule with
  | .error _ => none
  | .ok sections =>
    have := Section.weights_le_of_ofRule h
    ofSections sections
  termination_by (rule.length, 1)
  decreasing_by
    rcases Nat.lt_or_eq_of_le this with hlt | heq
    · exact Prod.Lex.left _ _ hlt
    · rw [heq]; exact Prod.Lex.right _ (by decide)

/-- The references of the sections of a rule. -/
def ofSections : List Section → References
  | [] => none
  | s :: rest =>
    append
      (match s with
        | .text _ => none
        | .tag body => ofTag body
        | .action body => ofAction body)
      (ofSections rest)
  termination_by sections => (Section.weights sections, 0)
  decreasing_by
    · exact Prod.Lex.left _ _ (by simp only [Section.weights, Section.weight]; omega)
    · exact Prod.Lex.left _ _ (by simp only [Section.weights, Section.weight]; omega)
    · exact Prod.Lex.left _ _ (by
        have := Section.weight_pos s
        simp only [Section.weights]
        omega)

/-- The references of the body of a tag. -/
def ofTag (body : Text) : References :=
  match h : Tag.ofBody body with
  | .error _ => none
  | .ok tag =>
    have := Tag.sizes_of_ofBody h
    append (ofActions tag.actions) ⟨if tag.symbol.isEmpty then [] else [tag.symbol], []⟩
  termination_by (body.length, 1)
  decreasing_by
    rcases Nat.lt_or_eq_of_le (show Text.sizes tag.actions ≤ body.length by omega) with hlt | heq
    · exact Prod.Lex.left _ _ hlt
    · rw [heq]; exact Prod.Lex.right _ (by decide)

/-- The references of several actions. -/
def ofActions : List Text → References
  | [] => none
  | body :: rest => append (ofAction body) (ofActions rest)
  termination_by bodies => (Text.sizes bodies, 0)
  decreasing_by
    · exact Prod.Lex.left _ _ (by simp only [Text.sizes]; omega)
    · exact Prod.Lex.left _ _ (by simp only [Text.sizes]; omega)

/-- The references of the body of an action. -/
def ofAction (body : Text) : References :=
  match h : Action.ofBody body with
  | .ok (.push target rules) =>
    have := Action.sizes_of_ofBody h
    append ⟨[], [target]⟩ (ofRules rules)
  | _ => none
  termination_by (body.length, 1)
  decreasing_by
    rcases Nat.lt_or_eq_of_le this with hlt | heq
    · exact Prod.Lex.left _ _ hlt
    · rw [heq]; exact Prod.Lex.right _ (by decide)

/-- The references of several rules. -/
def ofRules : List Text → References
  | [] => none
  | rule :: rest => append (ofRule rule) (ofRules rest)
  termination_by rules => (Text.sizes rules, 0)
  decreasing_by
    · exact Prod.Lex.left _ _ (by simp only [Text.sizes]; omega)
    · exact Prod.Lex.left _ _ (by simp only [Text.sizes]; omega)

end

end References

end GrammarBots

import GrammarBots.Proofs.Grammar.Nesting
import GrammarBots.Proofs.Grammar.Runs

/-!
# Where the error of an expansion comes from

`Frame.Raises` says that a call fails by itself: a symbol is called beyond the limit of nesting or
has no rules, or a rule, a tag or an action cannot be read.  Everything else that goes wrong is the
error of some call further down, which is passed on as it is.

* `Frame.raises_or_calls`: a call that fails raises its error itself or makes a call that fails with
  it.  The steps of a call are taken apart by `run_bind_eq_error` and `run_mapM_eq_error`: of several
  steps, the first that fails decides.
* `Frame.outcome_error_iff`: so a call fails with an error exactly if it leads to a call that raises
  it, and ends in the state of that call.
-/

namespace GrammarBots.Expansion

variable {γ α β : Type}

/-! ### Steps that fail -/

section
variable {e : GrammarError} {s s' : State γ}

/-- Two steps fail together if the first fails, or if it succeeds and the second fails. -/
theorem run_bind_eq_error {x : Step γ α} {f : α → Step γ β} :
    (x >>= f).run s = (.error e, s') ↔ x.run s = (.error e, s') ∨
      ∃ a between, x.run s = (.ok a, between) ∧ (f a).run between = (.error e, s') := by
  rw [run_bind]
  constructor
  · intro h
    cases hx : (x.run s).1 with
    | ok a =>
      rw [hx] at h
      exact Or.inr ⟨a, (x.run s).2, Prod.ext hx rfl, h⟩
    | error e' =>
      rw [hx] at h
      obtain ⟨he, hs⟩ := Prod.mk.inj h
      obtain rfl := Except.error.inj he
      exact Or.inl (Prod.ext hx hs)
  · rintro (h | ⟨a, between, ha, h⟩)
    · rw [h]
    · rw [ha]
      exact h

theorem run_map_eq_error {x : Step γ α} {f : α → β} :
    (f <$> x).run s = (.error e, s') ↔ x.run s = (.error e, s') := by
  rw [map_eq_pure_bind, run_bind_eq_error]
  constructor
  · rintro (h | ⟨a, between, -, h⟩)
    · exact h
    · cases h
  · exact Or.inl

/-- Of the steps over a list, the first that fails decides. -/
theorem run_mapM_eq_error {f : α → Step γ β} {l : List α}
    (h : (l.mapM f).run s = (.error e, s')) :
    ∃ first a rest results between, l = first ++ a :: rest ∧
      (first.mapM f).run s = (.ok results, between) ∧ (f a).run between = (.error e, s') := by
  induction l generalizing s with
  | nil => cases h
  | cons a l ih =>
    rw [List.mapM_cons, run_bind_eq_error] at h
    rcases h with h | ⟨b, between, hb, h⟩
    · exact ⟨[], a, l, [], s, rfl, rfl, h⟩
    rw [run_bind_eq_error] at h
    rcases h with h | ⟨bs, last, -, h⟩
    · obtain ⟨first, c, rest, results, last, rfl, hfirst, hfail⟩ := ih h
      refine ⟨a :: first, c, rest, b :: results, last, rfl, ?_, hfail⟩
      rw [List.mapM_cons]
      exact run_bind_eq_ok.mpr ⟨b, between, hb, run_bind_eq_ok.mpr ⟨results, last, hfirst, rfl⟩⟩
    · cases h

end

/-! ### Calls that fail -/

variable [Chooser γ] {g : Grammar} {F F' : Frame γ} {e : GrammarError} {s' : State γ}

/-- The call fails with the error by itself. -/
inductive Frame.Raises (g : Grammar) : Frame γ → GrammarError → Prop where
  /-- A symbol is called beyond the limit of nesting. -/
  | limit {depth : Nat} {name : Text} {s : State γ} (hdepth : maxNesting < depth) :
      Raises g ⟨depth, .symbol name, s⟩ (.recursionLimit name maxNesting)
  /-- A symbol has no rules. -/
  | unknown {depth : Nat} {name : Text} {s : State γ} (hdepth : depth ≤ maxNesting)
      (hrules : rulesFor g s.pushed name = []) :
      Raises g ⟨depth, .symbol name, s⟩ (g.unknownSymbol name)
  /-- A rule cannot be read. -/
  | rule {depth : Nat} {rule : Text} {s : State γ} {fault : RuleFault}
      (hread : Section.ofRule rule = .error fault) :
      Raises g ⟨depth, .rule rule, s⟩ (.malformedRule rule fault)
  /-- A tag cannot be read. -/
  | tag {depth : Nat} {body : Text} {s : State γ} {fault : RuleFault}
      (hread : Tag.ofBody body = .error fault) :
      Raises g ⟨depth, .tag body, s⟩ (.malformedRule body fault)
  /-- An action cannot be read. -/
  | action {depth : Nat} {body : Text} {s : State γ} {fault : RuleFault}
      (hread : Action.ofBody body = .error fault) :
      Raises g ⟨depth, .action body, s⟩ (.malformedRule body fault)

theorem Frame.Raises.outcome_eq (h : F.Raises g e) : F.outcome g = (.error e, F.state) := by
  cases h with
  | limit hdepth => exact run_expandSymbol_limit hdepth _ _
  | unknown hdepth hrules => exact run_expandSymbol_unknown hdepth hrules
  | @rule depth r s fault hread =>
    show (expandRule g depth r).run s = _
    rw [expandRule_error hread]
    rfl
  | @tag depth body s fault hread =>
    show (expandTag g depth body).run s = _
    rw [expandTag_error hread]
    rfl
  | @action depth body s fault hread =>
    show (runAction g depth body).run s = _
    rw [runAction_error hread]
    rfl

/-- The error is the call's own, raised in the state that it ends in, or that of a call it makes. -/
def Frame.Blames (g : Grammar) (F : Frame γ) (e : GrammarError) (s' : State γ) : Prop :=
  (F.Raises g e ∧ F.state = s') ∨ ∃ F', F.Calls g F' ∧ F'.outcome g = (.error e, s')

theorem Frame.Raises.blames {e' : GrammarError} (hraises : F.Raises g e')
    (h : F.outcome g = (.error e, s')) : F.Blames g e s' := by
  rw [hraises.outcome_eq] at h
  obtain ⟨he, hstate⟩ := Prod.mk.inj h
  obtain rfl := Except.error.inj he
  exact Or.inl ⟨hraises, hstate⟩

section
variable {depth : Nat} {s : State γ}

theorem blames_symbol {name : Text} (h : (expandSymbol g depth name).run s = (.error e, s')) :
    Frame.Blames g ⟨depth, .symbol name, s⟩ e s' := by
  by_cases hdepth : maxNesting < depth
  · exact (Frame.Raises.limit hdepth).blames h
  have hdepth := Nat.le_of_not_lt hdepth
  cases hrules : rulesFor g s.pushed name with
  | nil => exact (Frame.Raises.unknown hdepth hrules).blames h
  | cons rule others =>
    rw [run_expandSymbol g hdepth hrules] at h
    exact Or.inr ⟨_, .chosenRule hdepth hrules, h⟩

theorem blames_rule {rule : Text} (h : (expandRule g depth rule).run s = (.error e, s')) :
    Frame.Blames g ⟨depth, .rule rule, s⟩ e s' := by
  cases hread : Section.ofRule rule with
  | error fault => exact (Frame.Raises.rule hread).blames h
  | ok sections =>
    rw [expandRule_eq hread, expandSections_eq_mapM, run_map_eq_error] at h
    obtain ⟨first, part, rest, texts, between, rfl, hfirst, hfail⟩ := run_mapM_eq_error h
    have hfirst := run_expandSections_of_mapM hfirst
    cases part with
    | text t => cases hfail
    | tag body => exact Or.inr ⟨_, .tagOfRule hread hfirst, hfail⟩
    | action body =>
      -- What is left of an action's result is the empty text, which cannot fail.
      rcases run_bind_eq_error.mp hfail with hfail | ⟨target, last, -, hpure⟩
      · exact Or.inr ⟨_, .actionOfRule hread hfirst, hfail⟩
      · cases hpure

theorem blames_tag {body : Text} (h : (expandTag g depth body).run s = (.error e, s')) :
    Frame.Blames g ⟨depth, .tag body, s⟩ e s' := by
  cases hread : Tag.ofBody body with
  | error fault => exact (Frame.Raises.tag hread).blames h
  | ok tag =>
    rw [expandTag_eq hread, run_bind_eq_error] at h
    rcases h with h | ⟨targets, between, hactions, h⟩
    · rw [runActions_eq_mapM, run_map_eq_error] at h
      obtain ⟨first, action, rest, targets, between, hsplit, hfirst, hfail⟩ := run_mapM_eq_error h
      exact Or.inr ⟨_, .actionOfTag hread hsplit (run_runActions_of_mapM hfirst), hfail⟩
    rw [run_bind_eq_error] at h
    rcases h with h | ⟨text, last, -, h⟩
    · split_ifs at h with hsymbol
      · cases h
      · rw [run_map_eq_error] at h
        exact Or.inr ⟨_, .symbolOfTag hread hsymbol hactions, h⟩
    · -- Taking pushes back cannot fail.
      rw [run_bind_eq_error, run_pops] at h
      rcases h with h | ⟨_, _, -, h⟩ <;> cases h

theorem blames_action {body : Text} (h : (runAction g depth body).run s = (.error e, s')) :
    Frame.Blames g ⟨depth, .action body, s⟩ e s' := by
  cases hread : Action.ofBody body with
  | error fault => exact (Frame.Raises.action hread).blames h
  | ok action =>
    cases action with
    | pop target =>
      rw [runAction_pop hread] at h
      cases h
    | push target rules =>
      rw [runAction_push hread, run_bind_eq_error] at h
      rcases h with h | ⟨texts, last, -, h⟩
      · rw [expandRules_eq_mapM] at h
        obtain ⟨first, rule, rest, texts, between, rfl, hfirst, hfail⟩ := run_mapM_eq_error h
        rw [← expandRules_eq_mapM] at hfirst
        exact Or.inr ⟨_, .ruleOfAction hread hfirst, hfail⟩
      · cases h

end

/-- **A call that fails raises its error itself or makes a call that fails with it.** -/
theorem Frame.raises_or_calls (h : F.outcome g = (.error e, s')) : F.Blames g e s' := by
  obtain ⟨depth, c, s⟩ := F
  cases c with
  | symbol name => exact blames_symbol h
  | rule rule => exact blames_rule h
  | tag body => exact blames_tag h
  | action body => exact blames_action h

/-- **A call fails with the errors that are raised by the calls it leads to**, and with no others.
It ends in the state that the error was raised in. -/
theorem Frame.outcome_error_iff :
    F.outcome g = (.error e, s') ↔ ∃ F', F.Reaches g F' ∧ F'.Raises g e ∧ F'.state = s' := by
  constructor
  · induction F using Frame.induction γ g with
    | call F ih =>
      intro h
      rcases F.raises_or_calls h with ⟨hraises, hstate⟩ | ⟨F₁, hcalls, hfail⟩
      · exact ⟨F, .refl, hraises, hstate⟩
      · obtain ⟨F', hreaches, hraises⟩ := ih F₁ hcalls hfail
        exact ⟨F', .head hcalls hreaches, hraises⟩
  · rintro ⟨F', hreaches, hraises, rfl⟩
    induction hreaches using Relation.ReflTransGen.head_induction_on with
    | refl => exact hraises.outcome_eq
    | head hcalls _ ih => exact hcalls.outcome_error ih

end GrammarBots.Expansion

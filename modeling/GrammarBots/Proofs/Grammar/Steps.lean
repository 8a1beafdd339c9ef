import GrammarBots.Proofs.Grammar.Literal

/-!
# The steps of an expansion

What each step of an expansion does, as one equation a step: a rule, a tag or an action that can be
read does what its parts say.  These equations are all that proofs about expansions know of the
steps.
-/

namespace GrammarBots

namespace Action

theorem splitCommas_ne_nil (inTag : Bool) (depth : Nat) (collected t : Text) :
    splitCommas inTag depth collected t ≠ [] := by
  fun_induction splitCommas inTag depth collected t <;> simp_all

theorem rules_ne_nil {body target : Text} {rules : List Text}
    (h : ofBody body = .ok (.push target rules)) : rules ≠ [] := by
  unfold ofBody at h
  split at h
  next => cases h
  next before after _ =>
    dsimp only at h
    split at h
    · cases h
    · split at h
      · cases h
      · obtain ⟨_, rfl⟩ := Action.push.inj (Except.ok.inj h)
        exact splitCommas_ne_nil _ _ _ _

end Action

namespace Expansion

variable {γ α β : Type}

/-- One step after another: the second is taken from where the first ends, if it succeeds. -/
theorem run_bind (x : Step γ α) (f : α → Step γ β) (s : State γ) :
    (x >>= f).run s = match (x.run s).1 with
      | .ok a => (f a).run (x.run s).2
      | .error e => (.error e, (x.run s).2) := by
  show (ExceptT.bindCont f (x.run s).1).run (x.run s).2 = _
  cases (x.run s).1 <;> rfl

/-- Two steps succeed together if the first succeeds and the second does from where it ends. -/
theorem run_bind_eq_ok {x : Step γ α} {f : α → Step γ β} {s s'' : State γ} {b : β} :
    (x >>= f).run s = (.ok b, s'') ↔
      ∃ a s', x.run s = (.ok a, s') ∧ (f a).run s' = (.ok b, s'') := by
  rw [run_bind]
  constructor
  · intro h
    cases hx : (x.run s).1 with
    | ok a =>
      rw [hx] at h
      exact ⟨a, (x.run s).2, Prod.ext hx rfl, h⟩
    | error e =>
      rw [hx] at h
      cases h
  · rintro ⟨a, s', hx, h⟩
    rw [hx]
    exact h

theorem run_map_eq_ok {f : α → β} {x : Step γ α} {s s' : State γ} {b : β} :
    (f <$> x).run s = (.ok b, s') ↔ ∃ a, x.run s = (.ok a, s') ∧ f a = b := by
  rw [map_eq_pure_bind, run_bind_eq_ok]
  constructor
  · rintro ⟨a, s'', hx, h⟩
    cases h
    exact ⟨a, hx, rfl⟩
  · rintro ⟨a, hx, rfl⟩
    exact ⟨a, s', hx, rfl⟩

variable [Chooser γ] {g : Grammar} {depth : Nat}

/-- Beyond the limit of nesting, no symbol expands. -/
theorem run_expandSymbol_limit (hdepth : maxNesting < depth) (symbol : Text) (s : State γ) :
    (expandSymbol g depth symbol).run s = (.error (.recursionLimit symbol maxNesting), s) := by
  rw [expandSymbol, dif_pos hdepth]
  rfl

/-- Within the limit, a symbol without rules does not expand. -/
theorem run_expandSymbol_unknown (hdepth : depth ≤ maxNesting) {symbol : Text} {s : State γ}
    (hrules : rulesFor g s.pushed symbol = []) :
    (expandSymbol g depth symbol).run s = (.error (g.unknownSymbol symbol), s) := by
  rw [expandSymbol, dif_neg (Nat.not_lt_of_le hdepth)]
  have hget (f : State γ → Step γ Text) : ExceptT.run (get >>= f) s = ExceptT.run (f s) s := rfl
  rw [hget, hrules]
  rfl

theorem expandRule_eq {rule : Text} {sections : List Section}
    (h : Section.ofRule rule = .ok sections) :
    (expandRule g depth rule : Step γ Text) = expandSections g depth sections := by
  rw [expandRule]
  split
  next h' => rw [h] at h'; cases h'
  next h' => rw [h] at h'; rw [Except.ok.inj h']

theorem expandRule_error {rule : Text} {fault : RuleFault}
    (h : Section.ofRule rule = .error fault) :
    (expandRule g depth rule : Step γ Text) = throw (.malformedRule rule fault) := by
  rw [expandRule]
  split
  next h' => rw [h] at h'; rw [Except.error.inj h']
  next h' => rw [h] at h'; cases h'

theorem run_expandSections_nil (s : State γ) : (expandSections g depth []).run s = (.ok [], s) := by
  rw [expandSections]
  rfl

theorem run_runActions_nil (s : State γ) : (runActions g depth []).run s = (.ok [], s) := by
  rw [runActions]
  rfl

theorem run_expandRules_nil (s : State γ) : (expandRules g depth []).run s = (.ok [], s) := by
  rw [expandRules]
  rfl

theorem expandSections_text (t : Text) (rest : List Section) :
    (expandSections g depth (.text t :: rest) : Step γ Text)
      = (t ++ ·) <$> expandSections g depth rest := by
  rw [expandSections, pure_bind, map_eq_pure_bind]

theorem expandSections_tag (body : Text) (rest : List Section) :
    (expandSections g depth (.tag body :: rest) : Step γ Text)
      = expandTag g depth body >>= fun first => (first ++ ·) <$> expandSections g depth rest := by
  rw [expandSections]
  simp only [map_eq_pure_bind]

theorem expandSections_action (body : Text) (rest : List Section) :
    (expandSections g depth (.action body :: rest) : Step γ Text)
      = runAction g depth body >>= fun _ => expandSections g depth rest := by
  rw [expandSections]
  simp only [pure_bind, List.nil_append, bind_pure]

theorem expandTag_eq {body : Text} {tag : Tag} (h : Tag.ofBody body = .ok tag) :
    (expandTag g depth body : Step γ Text) = do
      let targets ← runActions g depth tag.actions
      let text ← (if tag.symbol = [] then pure []
        else Modifier.applyAll tag.modifiers <$> expandSymbol g depth tag.symbol)
      targets.forM pop
      return text := by
  rw [expandTag]
  split
  next h' => rw [h] at h'; cases h'
  next h' =>
    rw [h] at h'
    cases h'
    refine bind_congr fun targets => ?_
    by_cases hsymbol : tag.symbol = []
    · simp only [if_pos hsymbol]
    · simp only [if_neg hsymbol, map_eq_pure_bind, bind_assoc, pure_bind]

theorem expandTag_error {body : Text} {fault : RuleFault} (h : Tag.ofBody body = .error fault) :
    (expandTag g depth body : Step γ Text) = throw (.malformedRule body fault) := by
  rw [expandTag]
  split
  next h' => rw [h] at h'; rw [Except.error.inj h']
  next h' => rw [h] at h'; cases h'

theorem runAction_error {body : Text} {fault : RuleFault}
    (h : Action.ofBody body = .error fault) :
    (runAction g depth body : Step γ (Option Text)) = throw (.malformedRule body fault) := by
  rw [runAction]
  split
  next h' => rw [h] at h'; rw [Except.error.inj h']
  next h' => rw [h] at h'; cases h'
  next h' => rw [h] at h'; cases h'

theorem runAction_pop {body target : Text} (h : Action.ofBody body = .ok (.pop target)) :
    (runAction g depth body : Step γ (Option Text)) = do
      pop target
      return none := by
  rw [runAction]
  split
  next h' => rw [h] at h'; cases h'
  next h' => rw [h] at h'; cases h'; rfl
  next h' => rw [h] at h'; cases h'

theorem runAction_push {body target : Text} {rules : List Text}
    (h : Action.ofBody body = .ok (.push target rules)) :
    (runAction g depth body : Step γ (Option Text)) = do
      let expanded ← expandRules g (depth + 1) rules
      push target expanded
      return some target := by
  rw [runAction]
  split
  next h' => rw [h] at h'; cases h'
  next h' => rw [h] at h'; cases h'
  next h' => rw [h] at h'; cases h'; rfl

end Expansion

theorem Grammar.expand_fst {γ : Type} [Chooser γ] (g : Grammar) (start : Text) (chance : γ) :
    (g.expand start chance).1 = ((Expansion.expandSymbol g 0 start).run ⟨[], chance⟩).1 := rfl

end GrammarBots

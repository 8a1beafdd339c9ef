import GrammarBots.Proofs.Grammar.Calls
import GrammarBots.Proofs.Grammar.Pushes

/-!
# How deep calls nest

`InProgress` describes the calls that are in progress at some moment of an expansion: the innermost
one, and those that wait for it.  The rules among them are as many as the innermost call is deep
(`rulesIn_eq_depth`), so the limit of nesting is a limit on them; but only a symbol looks at it.

* Through symbols, the limit holds: a symbol that is called while more rules are in progress than
  the limit allows ends the whole expansion, since the error of a call is that of its caller
  (`Frame.Calls.outcome_error`).
* Through actions, it does not hold: the rules that an action pushes are expanded one level deeper,
  and nobody looks at the level.  What bounds the nesting there is the text of the outermost action
  beyond the limit, of which every further level uses up four characters (`InProgress.depth_le`).

`nesting_bounded` puts the two together, and `exists_rulesIn_nesting` shows that nothing less than
the text of an action bounds the nesting: actions inside each other are as deep as one likes.
-/

namespace GrammarBots

namespace Expansion

/-! ### Calls in progress -/

/-- Whether a call expands a rule. -/
def Call.isRule : Call → Bool
  | .rule _ => true
  | .symbol _ => false
  | .tag _ => false
  | .action _ => false

variable {γ : Type}

/-- How many rules are among the calls. -/
def rulesIn (calls : List (Frame γ)) : Nat := calls.countP fun F => F.call.isRule

variable [Chooser γ] {g : Grammar} {F F' root : Frame γ} {waiting : List (Frame γ)}

/-- The call that is being answered at some moment after the root was called, and the calls that
wait for it, innermost first. -/
inductive InProgress (g : Grammar) (root : Frame γ) : Frame γ → List (Frame γ) → Prop where
  /-- The root itself is called, and nothing waits. -/
  | root : InProgress g root root []
  /-- The innermost call makes a call and waits for it. -/
  | call {F F' : Frame γ} {waiting : List (Frame γ)} (hcaller : InProgress g root F waiting)
      (hcalls : F.Calls g F') : InProgress g root F' (F :: waiting)

/-- A call of a rule is one level deeper than its caller; all other calls are on its level. -/
theorem Frame.Calls.depth_eq (h : F.Calls g F') :
    F'.depth = F.depth + if F'.call.isRule then 1 else 0 := by
  cases h <;> rfl

/-- **The depth of the innermost call is the number of rules in progress.** -/
theorem rulesIn_eq_depth {start : Text} {chance : γ}
    (h : InProgress g (Frame.start start chance) F waiting) :
    rulesIn (F :: waiting) = F.depth := by
  induction h with
  | root => rfl
  | @call F F' waiting hcaller hcalls ih =>
    rw [hcalls.depth_eq, ← ih, rulesIn, List.countP_cons]
    rfl

/-! ### The limit and symbols -/

section
variable {α β : Type} {e : GrammarError} {s between s' : State γ}

omit [Chooser γ] in
/-- A step that fails is not gone on from. -/
theorem run_bind_error {x : Step γ α} (f : α → Step γ β) (h : x.run s = (.error e, s')) :
    (x >>= f).run s = (.error e, s') := by
  rw [run_bind, h]

omit [Chooser γ] in
theorem run_map_error {x : Step γ α} (f : α → β) (h : x.run s = (.error e, s')) :
    (f <$> x).run s = (.error e, s') := by
  rw [map_eq_pure_bind]
  exact run_bind_error _ h

omit [Chooser γ] in
/-- If a step of a list fails after those before it succeeded, the whole list fails. -/
theorem run_mapM_error {f : α → Step γ β} {first rest : List α} {a : α} {results : List β}
    (hfirst : (first.mapM f).run s = (.ok results, between))
    (hfail : (f a).run between = (.error e, s')) :
    ((first ++ a :: rest).mapM f).run s = (.error e, s') := by
  have hrest : ((a :: rest).mapM f).run between = (.error e, s') := by
    rw [List.mapM_cons]
    exact run_bind_error _ hfail
  rw [List.mapM_append, run_bind, hfirst]
  exact run_bind_error _ hrest

theorem run_expandSections_error {depth : Nat} {first rest : List Section} {part : Section}
    {before : Text} (hfirst : (expandSections g depth first).run s = (.ok before, between))
    (hfail : (Call.ofSection (answers g) depth part).run between = (.error e, s')) :
    (expandSections g depth (first ++ part :: rest)).run s = (.error e, s') := by
  rw [expandSections_eq_mapM] at hfirst ⊢
  obtain ⟨texts, hrun, -⟩ := run_map_eq_ok.mp hfirst
  exact run_map_error _ (run_mapM_error hrun hfail)

theorem run_runActions_error {depth : Nat} {first rest targets : List Text} {action : Text}
    (hfirst : (runActions g depth first).run s = (.ok targets, between))
    (hfail : (runAction g depth action).run between = (.error e, s')) :
    (runActions g depth (first ++ action :: rest)).run s = (.error e, s') := by
  rw [runActions_eq_mapM] at hfirst ⊢
  obtain ⟨targets?, hrun, -⟩ := run_map_eq_ok.mp hfirst
  exact run_map_error _ (run_mapM_error hrun hfail)

/-- **The error of a call is the error of its caller.** -/
theorem Frame.Calls.outcome_error (h : F.Calls g F') (hfail : F'.outcome g = (.error e, s')) :
    F.outcome g = (.error e, s') := by
  cases h with
  | chosenRule hdepth hrules => exact (run_expandSymbol g hdepth hrules).trans hfail
  | @tagOfRule depth rule _ _ _ _ s _ hread hfirst =>
    show (expandRule g depth rule).run s = _
    rw [expandRule_eq hread]
    exact run_expandSections_error hfirst hfail
  | @actionOfRule depth rule body _ _ _ s _ hread hfirst =>
    show (expandRule g depth rule).run s = _
    rw [expandRule_eq hread]
    have hpart : (Call.ofSection (answers g) depth (.action body)).run _ = (.error e, s') :=
      run_bind_error _ hfail
    exact run_expandSections_error hfirst hpart
  | @actionOfTag depth body _ _ _ _ _ s _ hread hactions hfirst =>
    show (expandTag g depth body).run s = _
    rw [expandTag_eq hread, hactions]
    exact run_bind_error _ (run_runActions_error hfirst hfail)
  | @symbolOfTag depth body tag _ s _ hread hsymbol hactions =>
    show (expandTag g depth body).run s = _
    rw [expandTag_eq hread, run_bind, hactions, if_neg hsymbol]
    exact run_bind_error _ (run_map_error _ hfail)
  | @ruleOfAction depth body _ _ _ _ _ s _ hread hfirst =>
    show (runAction g depth body).run s = _
    rw [runAction_push hread]
    rw [expandRules_eq_mapM] at hfirst ⊢
    exact run_bind_error _ (run_mapM_error hfirst hfail)

/-- The error of the innermost call ends everything that is in progress. -/
theorem InProgress.outcome_error (h : InProgress g root F waiting)
    (hfail : F.outcome g = (.error e, s')) : root.outcome g = (.error e, s') := by
  induction h with
  | root => exact hfail
  | call hcaller hcalls ih => exact ih (hcalls.outcome_error hfail)

end

/-! ### The limit and actions -/

/-- How much text a call takes up in the rule it stands in, with its delimiters. -/
def Call.room : Call → Nat
  | .symbol _ => 0
  | .rule r => r.length
  | .tag body => body.length + 2
  | .action body => body.length + 2

/-- Beyond the limit, the room that a call has is left by its caller; a level deeper costs four
characters more. -/
theorem Frame.Calls.room_le (h : F.Calls g F') (hbeyond : maxNesting < F.depth) :
    F'.call.room + 4 * (F'.depth - F.depth) ≤ F.call.room := by
  cases h with
  | chosenRule hdepth => exact absurd hbeyond (Nat.not_lt_of_le hdepth)
  | @tagOfRule depth rule body _ _ _ _ _ hread =>
    have hsize : body.length + 2 ≤ rule.length := Section.weight_le_length hread
    show body.length + 2 + 4 * (depth - depth) ≤ rule.length
    omega
  | @actionOfRule depth rule body _ _ _ _ _ hread =>
    have hsize : body.length + 2 ≤ rule.length := Section.weight_le_length hread
    show body.length + 2 + 4 * (depth - depth) ≤ rule.length
    omega
  | @actionOfTag depth body action _ _ _ _ _ _ hread hactions =>
    have hsize := Tag.length_action_lt hread hactions
    show action.length + 2 + 4 * (depth - depth) ≤ body.length + 2
    omega
  | @symbolOfTag depth body _ _ _ _ hread =>
    show 0 + 4 * (depth - depth) ≤ body.length + 2
    omega
  | @ruleOfAction depth body _ rule _ _ _ _ _ hread =>
    have hsize := Action.length_rule_add_two_le hread
    show rule.length + 4 * (depth + 1 - depth) ≤ body.length + 2
    omega

/-- **What bounds the nesting beyond the limit**: the text of an action that is in progress on the
last level that the limit allows.  The room that the calls inside it have left shows the levels that
it still affords. -/
theorem InProgress.depth_le {chance : γ} {start : Text}
    (h : InProgress g (Frame.start start chance) F waiting) :
    F.depth ≤ maxNesting + 1 ∨ ∃ body s, (⟨maxNesting + 1, .action body, s⟩ : Frame γ) ∈ waiting ∧
      F.call.room + 4 * (F.depth - (maxNesting + 1)) ≤ body.length + 2 := by
  induction h with
  | root => exact Or.inl (Nat.zero_le _)
  | @call F F' waiting hcaller hcalls ih =>
    by_cases hlimit : F'.depth ≤ maxNesting + 1
    · exact Or.inl hlimit
    · refine Or.inr ?_
      have hdepth := hcalls.depth_eq
      have hstep : F'.depth ≤ F.depth + 1 := by
        split at hdepth <;> omega
      have hroom := hcalls.room_le (by omega)
      rcases ih with hle | ⟨body, s, hmem, hbound⟩
      · -- The first call beyond the limit: its caller is the action.
        cases hcalls with
        | chosenRule hwithin => exact absurd (Nat.succ_le_succ hwithin) hlimit
        | @ruleOfAction depth body _ _ _ _ _ s _ hread hfirst =>
          obtain rfl : depth = maxNesting + 1 :=
            Nat.le_antisymm hle (Nat.le_of_lt_succ (Nat.lt_of_not_le hlimit))
          exact ⟨body, s, List.mem_cons_self, by simpa [Call.room] using hroom⟩
        | _ => exact absurd hle hlimit
      · exact ⟨body, s, List.mem_cons_of_mem _ hmem, by omega⟩

/-! ### Actions inside actions -/

/-- A rule of as many actions inside each other as the number says. -/
def nested : Nat → Text
  | 0 => []
  | n + 1 => Section.print (.action ("x".toList ++ ':' :: nested n))

/-- The grammar whose only rule is made of actions inside each other. -/
def nesting (n : Nat) : Grammar := Grammar.ofRules [(startSymbol, [nested n])]

theorem depthAfter_nested (n depth : Nat) (t : Text) :
    Section.depthAfter false depth (nested n ++ t) = Section.depthAfter false depth t := by
  induction n generalizing depth t with
  | zero => rfl
  | succ n ih =>
    have hnested : nested (n + 1) ++ t = '[' :: 'x' :: ':' :: (nested n ++ ']' :: t) := by
      simp [nested, Section.print]
    rw [hnested, Section.depthAfter_cons (by decide)]
    show (Section.depthAfter false (depth + 1) ('x' :: ':' :: (nested n ++ ']' :: t))) = _
    rw [Section.depthAfter_cons (by decide)]
    show (Section.depthAfter false (depth + 1) (':' :: (nested n ++ ']' :: t))) = _
    rw [Section.depthAfter_cons (by decide)]
    show (Section.depthAfter false (depth + 1) (nested n ++ ']' :: t)) = _
    rw [ih, Section.depthAfter_cons (by decide)]
    rfl

theorem ofRule_nested (n : Nat) :
    Section.ofRule (nested (n + 1)) = .ok [.action ("x".toList ++ ':' :: nested n)] := by
  have hbody : Section.IsBody false ("x".toList ++ ':' :: nested n) := by
    have h := depthAfter_nested n 0 []
    rw [List.append_nil] at h
    show Section.depthAfter false 0 ('x' :: ':' :: nested n) = some 0
    rw [Section.depthAfter_cons (by decide)]
    show Section.depthAfter false 0 (':' :: nested n) = some 0
    rw [Section.depthAfter_cons (by decide)]
    exact h
  have hread := Section.read_print_action hbody [] []
  rw [List.append_nil] at hread
  exact hread

theorem splitCommas_nested (n depth : Nat) (collected t : Text) :
    Action.splitCommas false depth collected (nested n ++ t)
      = Action.splitCommas false depth ((nested n).reverse ++ collected) t := by
  induction n generalizing depth collected t with
  | zero => rfl
  | succ n ih =>
    have hnested : nested (n + 1) ++ t = '[' :: 'x' :: ':' :: (nested n ++ ']' :: t) := by
      simp [nested, Section.print]
    have hreverse : (nested (n + 1)).reverse ++ collected
        = ']' :: ((nested n).reverse ++ ':' :: 'x' :: '[' :: collected) := by
      simp [nested, Section.print]
    rw [hnested, hreverse]
    simp [Action.splitCommas, ih]

theorem rulesOf_nested (n : Nat) : Action.rulesOf (nested n) = [nested n] := by
  have h := splitCommas_nested n 0 [] []
  rw [List.append_nil, List.append_nil] at h
  rw [Action.rulesOf, h, Action.splitCommas, List.reverse_reverse]

theorem nested_ne_pop (n : Nat) : nested n ≠ "POP".toList := by
  cases n with
  | zero => exact nofun
  | succ n => simp [nested, Section.print]

/-- Actions inside each other expand to no text, at any depth and in any grammar. -/
theorem exists_run_nested (g : Grammar) (n depth : Nat) (s : State γ) :
    ∃ s', (expandRule g depth (nested n)).run s = (.ok [], s') := by
  induction n generalizing depth s with
  | zero =>
    have hread : Section.ofRule (nested 0) = .ok [] := rfl
    rw [expandRule_eq hread]
    exact ⟨s, run_expandSections_nil s⟩
  | succ n ih =>
    obtain ⟨s', hrun⟩ := ih (depth + 1) s
    have haction := run_push_name isName_x (rulesOf_nested n) (nested_ne_pop n) hrun
    rw [expandRule_eq (ofRule_nested n), expandSections_action]
    exact ⟨_, run_bind_eq_ok.mpr ⟨_, _, haction, run_expandSections_nil _⟩⟩

/-- While actions inside each other are expanded, they come to be in progress all at once. -/
theorem InProgress.exists_nested (n : Nat) {depth : Nat} {s : State γ}
    (h : InProgress g root ⟨depth, .rule (nested n), s⟩ waiting) :
    ∃ waiting', InProgress g root ⟨depth + n, .rule [], s⟩ waiting' := by
  induction n generalizing depth waiting with
  | zero => exact ⟨waiting, h⟩
  | succ n ih =>
    have hread : Section.ofRule (nested (n + 1))
        = .ok ([] ++ .action ("x".toList ++ ':' :: nested n) :: []) := ofRule_nested n
    have hbody : Action.ofBody ("x".toList ++ ':' :: nested n)
        = .ok (.push "x".toList ([] ++ nested n :: [])) := by
      rw [Action.ofBody_name isName_x (nested_ne_pop n), rulesOf_nested]
      rfl
    have haction := h.call (.actionOfRule hread (run_expandSections_nil s))
    have hrule := haction.call (.ruleOfAction hbody (run_expandRules_nil s))
    obtain ⟨waiting', h'⟩ := ih hrule
    refine ⟨waiting', ?_⟩
    rw [Nat.add_assoc, Nat.add_comm 1 n] at h'
    exact h'

/-- **No number bounds the nesting of actions**: with enough of them inside each other, any number
of rules is in progress at once, and the expansion succeeds. -/
theorem exists_rulesIn_nesting (n : Nat) (chance : γ) :
    (∃ F waiting, InProgress (nesting n) (Frame.start startSymbol chance) F waiting ∧
      rulesIn (F :: waiting) = n + 1) ∧
    ((nesting n).expand startSymbol chance).1 = .ok [] := by
  have hrules : rulesFor (nesting n) [] startSymbol = [nested n] := rfl
  constructor
  · have hsole : ∀ i : Fin 1, [nested n].get i = nested n := by
      intro i
      rw [Subsingleton.elim i 0]
      rfl
    have hrule := (InProgress.root (g := nesting n)).call
      (Frame.Calls.chosenRule (s := ⟨[], chance⟩) (Nat.zero_le maxNesting) hrules)
    simp only [List.length_nil, hsole] at hrule
    obtain ⟨waiting, hprogress⟩ := hrule.exists_nested
    refine ⟨_, waiting, hprogress, ?_⟩
    rw [rulesIn_eq_depth hprogress]
    exact Nat.add_comm (0 + 1) n
  · obtain ⟨s', hrun⟩ := exists_run_nested (nesting n) n 1
      (⟨[], (Chooser.choose chance 0).2⟩ : State γ)
    rw [Grammar.expand_fst, run_expandSymbol_of_single (nesting n) (Nat.zero_le _) hrules]
    exact congrArg Prod.fst hrun

/-! ### The bounds -/

/-- **What bounds the nesting.**  Through symbols, the limit does: a symbol that is called while
more rules are in progress than the limit allows ends the expansion.  So there are more rules in
progress than the limit and one only inside an action on the last level within the limit, and the
text of this action, with its brackets, has four characters for each of the rules beyond. -/
theorem nesting_bounded {start : Text} {chance : γ}
    (h : InProgress g (Frame.start start chance) F waiting) :
    (∀ name, F.call = .symbol name → maxNesting < rulesIn (F :: waiting) →
      (g.expand start chance).1 = .error (.recursionLimit name maxNesting)) ∧
    (rulesIn (F :: waiting) ≤ maxNesting + 1 ∨
      ∃ body s, (⟨maxNesting + 1, .action body, s⟩ : Frame γ) ∈ waiting ∧
        4 * (rulesIn (F :: waiting) - (maxNesting + 1)) ≤ body.length + 2) := by
  rw [rulesIn_eq_depth h]
  constructor
  · intro name hname hlimit
    obtain ⟨depth, c, s⟩ := F
    obtain rfl : c = .symbol name := hname
    have hfail := h.outcome_error (run_expandSymbol_limit hlimit name s)
    rw [expand_eq_outcome, hfail]
    rfl
  · rcases h.depth_le with hle | ⟨body, s, hmem, hroom⟩
    · exact Or.inl hle
    · exact Or.inr ⟨body, s, hmem, by omega⟩

/-- With one action more than the limit affords, the last action within the limit has four
characters, its brackets included. -/
theorem nesting_bounded_nested :
    ∃ (F : Frame Generator) (waiting : List (Frame Generator)),
      InProgress (nesting 65) (Frame.start startSymbol (Generator.ofSeed 0)) F waiting ∧
      rulesIn (F :: waiting) = 66 ∧
      ∃ body s, (⟨maxNesting + 1, .action body, s⟩ : Frame Generator) ∈ waiting ∧
        4 ≤ body.length + 2 := by
  obtain ⟨⟨F, waiting, hprogress, hrules⟩, -⟩ := exists_rulesIn_nesting 65 (Generator.ofSeed 0)
  obtain ⟨-, hbound⟩ := nesting_bounded hprogress
  rw [hrules] at hbound
  rcases hbound with hle | haction
  · exact absurd hle (by decide)
  · exact ⟨F, waiting, hprogress, hrules, haction⟩

/-- **The limit and one more is exceeded** by actions inside each other, and nothing fails. -/
theorem nested_beyond_limit :
    ∃ (F : Frame Generator) (waiting : List (Frame Generator)),
      InProgress (nesting 65) (Frame.start startSymbol (Generator.ofSeed 0)) F waiting ∧
      maxNesting + 1 < rulesIn (F :: waiting) ∧
      ((nesting 65).expand startSymbol (Generator.ofSeed 0)).1 = .ok [] := by
  obtain ⟨⟨F, waiting, hprogress, hrules⟩, hexpand⟩ :=
    exists_rulesIn_nesting 65 (Generator.ofSeed 0)
  exact ⟨F, waiting, hprogress, by rw [hrules]; decide, hexpand⟩

end Expansion

end GrammarBots

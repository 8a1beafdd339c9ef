import GrammarBots.Proofs.Grammar.Steps

/-!
# Runs of an expansion

The steps of an expansion compute a text and a state; what happened to the stacks on the way is gone
when they end.  `Run` keeps it: a run is an expansion that succeeded, together with its events,
which are the pushes and pops in the order they were made.  Whether a push belongs to a tag, which
takes it back when it ends, or to a rule is part of the event.

There is one relation for all kinds of steps, indexed by the task at hand, so that what holds of
every run is shown by one induction.  `exists_run_iff` says that runs are what the steps compute: a
step succeeds with a result exactly when there is a run with that result.
-/

namespace GrammarBots

namespace Expansion

/-! ### Events and tasks -/

/-- What happens to the stacks. -/
inductive Event where
  /-- Rules are pushed, by a tag's own action or by an action of a rule. -/
  | push (own : Bool) (target : Text) (rules : List Text)
  /-- An action pops. -/
  | pop (target : Text)
  /-- A tag that ends takes a push back. -/
  | drop (target : Text)
  deriving DecidableEq

/-- What an expansion may be at. -/
inductive Task where
  /-- Expand a symbol. -/
  | symbol (name : Text)
  /-- Expand a rule. -/
  | rule (rule : Text)
  /-- Expand sections. -/
  | sections (sections : List Section)
  /-- Expand a tag. -/
  | tag (body : Text)
  /-- Run the actions of a tag. -/
  | actions (bodies : List Text)
  /-- Run an action, either of a tag or of a rule. -/
  | action (own : Bool) (body : Text)
  /-- Expand several rules. -/
  | rules (rules : List Text)

/-- The step that carries out a task.  Its result is the texts that it makes or, for actions, the
targets of their pushes. -/
def Task.step {γ : Type} [Chooser γ] (g : Grammar) (depth : Nat) : Task → Step γ (List Text)
  | .symbol name => ([·]) <$> expandSymbol g depth name
  | .rule r => ([·]) <$> expandRule g depth r
  | .sections parts => ([·]) <$> expandSections g depth parts
  | .tag body => ([·]) <$> expandTag g depth body
  | .actions bodies => runActions g depth bodies
  | .action _ body => Option.toList <$> runAction g depth body
  | .rules rs => expandRules g depth rs

/-- The state after the top of the stack of a symbol was taken off. -/
def State.popped {γ : Type} (s : State γ) (target : Text) : State γ :=
  { s with pushed := s.pushed.eraseP (·.1 == target) }

/-- The state after rules were put on top of the stack of a symbol. -/
def State.withPush {γ : Type} (s : State γ) (target : Text) (rules : List Text) : State γ :=
  { s with pushed := (target, rules) :: s.pushed }

/-! ### Runs -/

/-- A task that is carried out at the given depth of nesting: the state before it, its events, its
result and the state after it. -/
inductive Run {γ : Type} [Chooser γ] (g : Grammar) :
    (depth : Nat) → Task → State γ → List Event → List Text → State γ → Prop where
  /-- A symbol is expanded by the rule that is chosen. -/
  | symbol {depth : Nat} {name rule : Text} {others result : List Text} {s s' : State γ}
      {events : List Event} (hdepth : depth ≤ maxNesting)
      (hrules : rulesFor g s.pushed name = rule :: others)
      (hrule : Run g (depth + 1)
        (.rule ((rule :: others).get (Chooser.choose s.chance others.length).1))
        { s with chance := (Chooser.choose s.chance others.length).2 } events result s') :
      Run g depth (.symbol name) s events result s'
  /-- A rule is expanded by its sections. -/
  | rule {depth : Nat} {rule : Text} {sections : List Section} {result : List Text}
      {s s' : State γ} {events : List Event} (hread : Section.ofRule rule = .ok sections)
      (hsections : Run g depth (.sections sections) s events result s') :
      Run g depth (.rule rule) s events result s'
  /-- No sections make no text. -/
  | noSections {depth : Nat} {s : State γ} : Run g depth (.sections []) s [] [[]] s
  /-- Literal text stands for itself. -/
  | text {depth : Nat} {t others : Text} {rest : List Section} {s s' : State γ}
      {events : List Event} (hrest : Run g depth (.sections rest) s events [others] s') :
      Run g depth (.sections (.text t :: rest)) s events [t ++ others] s'
  /-- A tag is expanded before the sections after it. -/
  | tagSection {depth : Nat} {body first others : Text} {rest : List Section}
      {s between s' : State γ} {events later : List Event}
      (htag : Run g depth (.tag body) s events [first] between)
      (hrest : Run g depth (.sections rest) between later [others] s') :
      Run g depth (.sections (.tag body :: rest)) s (events ++ later) [first ++ others] s'
  /-- An action is run before the sections after it; it makes no text. -/
  | actionSection {depth : Nat} {body others : Text} {rest : List Section} {targets : List Text}
      {s between s' : State γ} {events later : List Event}
      (haction : Run g depth (.action false body) s events targets between)
      (hrest : Run g depth (.sections rest) between later [others] s') :
      Run g depth (.sections (.action body :: rest)) s (events ++ later) [others] s'
  /-- A tag without a symbol runs its actions and takes their pushes back. -/
  | emptyTag {depth : Nat} {body : Text} {tag : Tag} {targets : List Text} {s s' : State γ}
      {events : List Event} (hread : Tag.ofBody body = .ok tag) (hsymbol : tag.symbol = [])
      (hactions : Run g depth (.actions tag.actions) s events targets s') :
      Run g depth (.tag body) s (events ++ targets.map .drop) [[]] (targets.foldl State.popped s')
  /-- A tag runs its actions, expands its symbol, and takes the pushes of its actions back. -/
  | tag {depth : Nat} {body expanded : Text} {tag : Tag} {targets : List Text}
      {s between s' : State γ} {events later : List Event} (hread : Tag.ofBody body = .ok tag)
      (hsymbol : tag.symbol ≠ [])
      (hactions : Run g depth (.actions tag.actions) s events targets between)
      (hexpand : Run g depth (.symbol tag.symbol) between later [expanded] s') :
      Run g depth (.tag body) s (events ++ (later ++ targets.map .drop))
        [Modifier.applyAll tag.modifiers expanded] (targets.foldl State.popped s')
  /-- There are no actions to run. -/
  | noActions {depth : Nat} {s : State γ} : Run g depth (.actions []) s [] [] s
  /-- An action of a tag is run before the ones after it. -/
  | actions {depth : Nat} {body : Text} {rest targets others : List Text}
      {s between s' : State γ} {events later : List Event}
      (haction : Run g depth (.action true body) s events targets between)
      (hrest : Run g depth (.actions rest) between later others s') :
      Run g depth (.actions (body :: rest)) s (events ++ later) (targets ++ others) s'
  /-- An action pops. -/
  | pop {depth : Nat} {own : Bool} {body target : Text} {s : State γ}
      (hread : Action.ofBody body = .ok (.pop target)) :
      Run g depth (.action own body) s [.pop target] [] (s.popped target)
  /-- An action expands its rules, one level deeper, and pushes the texts. -/
  | push {depth : Nat} {own : Bool} {body target : Text} {rules expanded : List Text}
      {s s' : State γ} {events : List Event}
      (hread : Action.ofBody body = .ok (.push target rules))
      (hrules : Run g (depth + 1) (.rules rules) s events expanded s') :
      Run g depth (.action own body) s (events ++ [.push own target expanded]) [target]
        (s'.withPush target expanded)
  /-- There are no rules to expand. -/
  | noRules {depth : Nat} {s : State γ} : Run g depth (.rules []) s [] [] s
  /-- A rule is expanded before the ones after it. -/
  | rules {depth : Nat} {rule first : Text} {rest others : List Text} {s between s' : State γ}
      {events later : List Event} (hrule : Run g depth (.rule rule) s events [first] between)
      (hrest : Run g depth (.rules rest) between later others s') :
      Run g depth (.rules (rule :: rest)) s (events ++ later) (first :: others) s'

/-! ### Runs are computed -/

section
variable {γ : Type} {s s' : State γ}

theorem run_pops (targets : List Text) (s : State γ) :
    (targets.forM pop : Step γ Unit).run s = (.ok (), targets.foldl State.popped s) := by
  induction targets generalizing s with
  | nil => rfl
  | cons target targets ih =>
    show (pop target >>= fun _ => targets.forM pop : Step γ Unit).run s = _
    exact run_bind_eq_ok.mpr ⟨(), s.popped target, rfl, ih (s.popped target)⟩

/-- What it means for a step that makes one text to have a result. -/
theorem run_singleton_eq_ok {x : Step γ Text} {result : List Text} :
    ((fun t => [t]) <$> x).run s = (.ok result, s') ↔
      ∃ t, x.run s = (.ok t, s') ∧ [t] = result :=
  run_map_eq_ok

end

variable {γ : Type} [Chooser γ] {g : Grammar} {depth : Nat} {task : Task} {s s' : State γ}
  {events : List Event} {result : List Text}

/-- A tag that can be read succeeds if its actions do and then, unless there is none, its symbol. -/
theorem run_expandTag_eq_ok {body t : Text} {tag : Tag} (hread : Tag.ofBody body = .ok tag) :
    (expandTag g depth body).run s = (.ok t, s') ↔
      ∃ targets between last, (runActions g depth tag.actions).run s = (.ok targets, between) ∧
        s' = targets.foldl State.popped last ∧
        (tag.symbol = [] ∧ t = [] ∧ last = between ∨
          tag.symbol ≠ [] ∧ ∃ expanded,
            (expandSymbol g depth tag.symbol).run between = (.ok expanded, last) ∧
            Modifier.applyAll tag.modifiers expanded = t) := by
  rw [expandTag_eq hread, run_bind_eq_ok]
  refine exists_congr fun targets => ?_
  have hpops : ∀ (u : Text) (last : State γ),
      ((targets.forM pop : Step γ Unit) >>= fun _ => pure u).run last
        = (.ok u, targets.foldl State.popped last) := by
    intro u last
    exact run_bind_eq_ok.mpr ⟨(), _, run_pops targets last, rfl⟩
  constructor
  · rintro ⟨between, hactions, hrest⟩
    obtain ⟨u, last, htext, hlast⟩ := run_bind_eq_ok.mp hrest
    obtain ⟨hresult, rfl⟩ := Prod.mk.inj ((hpops u last).symm.trans hlast)
    obtain rfl := Except.ok.inj hresult
    refine ⟨between, last, hactions, rfl, ?_⟩
    split at htext
    next hsymbol =>
      cases htext
      exact Or.inl ⟨hsymbol, rfl, rfl⟩
    next hsymbol => exact Or.inr ⟨hsymbol, run_map_eq_ok.mp htext⟩
  · rintro ⟨between, last, hactions, rfl, htext⟩
    refine ⟨between, hactions, run_bind_eq_ok.mpr ⟨t, last, ?_, hpops t last⟩⟩
    rcases htext with ⟨hsymbol, rfl, rfl⟩ | ⟨hsymbol, hexpand⟩
    · rw [if_pos hsymbol]
      rfl
    · rw [if_neg hsymbol]
      exact run_map_eq_ok.mpr hexpand

theorem Run.step_eq (h : Run g depth task s events result s') :
    (task.step g depth).run s = (.ok result, s') := by
  induction h with
  | symbol hdepth hrules hrule ih =>
    obtain ⟨t, ht, heq⟩ := run_singleton_eq_ok.mp ih
    exact run_singleton_eq_ok.mpr ⟨t, (run_expandSymbol g hdepth hrules).trans ht, heq⟩
  | rule hread hsections ih =>
    rw [Task.step, expandRule_eq hread]
    exact ih
  | noSections =>
    rw [Task.step, expandSections]
    rfl
  | text hrest ih =>
    obtain ⟨t, ht, heq⟩ := run_singleton_eq_ok.mp ih
    refine run_singleton_eq_ok.mpr ⟨_, ?_, rfl⟩
    rw [expandSections_text]
    exact run_map_eq_ok.mpr ⟨t, ht, by rw [(List.cons.inj heq).1]⟩
  | tagSection htag hrest ihtag ihrest =>
    obtain ⟨t, ht, heq⟩ := run_singleton_eq_ok.mp ihtag
    obtain ⟨t', ht', heq'⟩ := run_singleton_eq_ok.mp ihrest
    obtain ⟨rfl, -⟩ := List.cons.inj heq
    obtain ⟨rfl, -⟩ := List.cons.inj heq'
    refine run_singleton_eq_ok.mpr ⟨_, ?_, rfl⟩
    rw [expandSections_tag]
    exact run_bind_eq_ok.mpr ⟨t, _, ht, run_map_eq_ok.mpr ⟨t', ht', rfl⟩⟩
  | actionSection haction hrest ihaction ihrest =>
    obtain ⟨target, htarget, -⟩ := run_map_eq_ok.mp ihaction
    obtain ⟨t, ht, heq⟩ := run_singleton_eq_ok.mp ihrest
    obtain ⟨rfl, -⟩ := List.cons.inj heq
    refine run_singleton_eq_ok.mpr ⟨t, ?_, rfl⟩
    rw [expandSections_action]
    exact run_bind_eq_ok.mpr ⟨target, _, htarget, ht⟩
  | emptyTag hread hsymbol hactions ih =>
    refine run_singleton_eq_ok.mpr ⟨[], ?_, rfl⟩
    exact (run_expandTag_eq_ok hread).mpr ⟨_, _, _, ih, rfl, Or.inl ⟨hsymbol, rfl, rfl⟩⟩
  | tag hread hsymbol hactions hexpand ihactions ihexpand =>
    obtain ⟨t, ht, heq⟩ := run_singleton_eq_ok.mp ihexpand
    obtain ⟨rfl, -⟩ := List.cons.inj heq
    refine run_singleton_eq_ok.mpr ⟨_, ?_, rfl⟩
    exact (run_expandTag_eq_ok hread).mpr
      ⟨_, _, _, ihactions, rfl, Or.inr ⟨hsymbol, t, ht, rfl⟩⟩
  | noActions =>
    rw [Task.step, runActions]
    rfl
  | actions haction hrest ihaction ihrest =>
    obtain ⟨target, htarget, rfl⟩ := run_map_eq_ok.mp ihaction
    rw [Task.step, runActions]
    exact run_bind_eq_ok.mpr ⟨target, _, htarget, run_bind_eq_ok.mpr ⟨_, _, ihrest, rfl⟩⟩
  | pop hread =>
    rw [Task.step, runAction_pop hread]
    rfl
  | push hread hrules ih =>
    refine run_map_eq_ok.mpr ⟨some _, ?_, rfl⟩
    rw [runAction_push hread]
    exact run_bind_eq_ok.mpr ⟨_, _, ih, rfl⟩
  | noRules =>
    rw [Task.step, expandRules]
    rfl
  | rules hrule hrest ihrule ihrest =>
    obtain ⟨t, ht, heq⟩ := run_singleton_eq_ok.mp ihrule
    obtain ⟨rfl, -⟩ := List.cons.inj heq
    rw [Task.step, expandRules]
    exact run_bind_eq_ok.mpr ⟨t, _, ht, run_bind_eq_ok.mpr ⟨_, _, ihrest, rfl⟩⟩

/-- The length of the text that a task reads. -/
def Task.size : Task → Nat
  | .symbol name => name.length
  | .rule r => r.length
  | .sections parts => Section.weights parts
  | .tag body => body.length
  | .actions bodies => Text.sizes bodies
  | .action _ body => body.length
  | .rules rs => Text.sizes rs

/-- Which of two tasks that read the same text comes later. -/
def Task.rank : Task → Nat
  | .symbol _ => 0
  | .sections _ => 1
  | .actions _ => 1
  | .rules _ => 1
  | .rule _ => 2
  | .tag _ => 2
  | .action _ _ => 2

/-- **Every success is a run.**  The recursion is that of the steps: a symbol costs a level of
nesting, and every other task hands a part of its text on. -/
theorem exists_run_of_step (task : Task) (depth : Nat) (s : State γ) {s' : State γ}
    {result : List Text} (h : (task.step g depth).run s = (.ok result, s')) :
    ∃ events, Run g depth task s events result s' := by
  match task with
  | .symbol name =>
    obtain ⟨t, ht, rfl⟩ := run_singleton_eq_ok.mp h
    by_cases hdepth : maxNesting < depth
    · rw [run_expandSymbol_limit hdepth] at ht
      cases ht
    · have hdepth := Nat.le_of_not_lt hdepth
      cases hrules : rulesFor g s.pushed name with
      | nil =>
        rw [run_expandSymbol_unknown hdepth hrules] at ht
        cases ht
      | cons rule others =>
        rw [run_expandSymbol g hdepth hrules] at ht
        obtain ⟨events, hrun⟩ := exists_run_of_step (.rule _) (depth + 1) _
          (run_singleton_eq_ok.mpr ⟨t, ht, rfl⟩)
        exact ⟨events, .symbol hdepth hrules hrun⟩
  | .rule r =>
    cases hread : Section.ofRule r with
    | error fault =>
      rw [Task.step, expandRule_error hread] at h
      cases h
    | ok sections =>
      rw [Task.step, expandRule_eq hread] at h
      obtain ⟨events, hrun⟩ := exists_run_of_step (.sections sections) depth s h
      exact ⟨events, .rule hread hrun⟩
  | .sections [] =>
    rw [Task.step, expandSections] at h
    cases h
    exact ⟨[], .noSections⟩
  | .sections (.text t :: rest) =>
    obtain ⟨_, hall, rfl⟩ := run_singleton_eq_ok.mp h
    rw [expandSections_text] at hall
    obtain ⟨others, hothers, rfl⟩ := run_map_eq_ok.mp hall
    obtain ⟨events, hrun⟩ := exists_run_of_step (.sections rest) depth s
      (run_singleton_eq_ok.mpr ⟨others, hothers, rfl⟩)
    exact ⟨events, .text hrun⟩
  | .sections (.tag body :: rest) =>
    obtain ⟨_, hall, rfl⟩ := run_singleton_eq_ok.mp h
    rw [expandSections_tag] at hall
    obtain ⟨first, between, hfirst, hrest⟩ := run_bind_eq_ok.mp hall
    obtain ⟨others, hothers, rfl⟩ := run_map_eq_ok.mp hrest
    obtain ⟨events, htag⟩ := exists_run_of_step (.tag body) depth s
      (run_singleton_eq_ok.mpr ⟨first, hfirst, rfl⟩)
    obtain ⟨later, hrun⟩ := exists_run_of_step (.sections rest) depth between
      (run_singleton_eq_ok.mpr ⟨others, hothers, rfl⟩)
    exact ⟨events ++ later, .tagSection htag hrun⟩
  | .sections (.action body :: rest) =>
    obtain ⟨others, hall, rfl⟩ := run_singleton_eq_ok.mp h
    rw [expandSections_action] at hall
    obtain ⟨target, between, htarget, hothers⟩ := run_bind_eq_ok.mp hall
    obtain ⟨events, haction⟩ := exists_run_of_step (.action false body) depth s
      (run_map_eq_ok.mpr ⟨target, htarget, rfl⟩)
    obtain ⟨later, hrun⟩ := exists_run_of_step (.sections rest) depth between
      (run_singleton_eq_ok.mpr ⟨others, hothers, rfl⟩)
    exact ⟨events ++ later, .actionSection haction hrun⟩
  | .tag body =>
    obtain ⟨t, ht, rfl⟩ := run_singleton_eq_ok.mp h
    cases hread : Tag.ofBody body with
    | error fault =>
      rw [expandTag_error hread] at ht
      cases ht
    | ok tag =>
      obtain ⟨targets, between, last, hactions, rfl, htext⟩ := (run_expandTag_eq_ok hread).mp ht
      obtain ⟨events, hrun⟩ := exists_run_of_step (.actions tag.actions) depth s hactions
      rcases htext with ⟨hsymbol, rfl, rfl⟩ | ⟨hsymbol, expanded, hexpanded, rfl⟩
      · exact ⟨_, .emptyTag hread hsymbol hrun⟩
      · obtain ⟨later, hexpand⟩ := exists_run_of_step (.symbol tag.symbol) depth between
          (run_singleton_eq_ok.mpr ⟨expanded, hexpanded, rfl⟩)
        exact ⟨_, .tag hread hsymbol hrun hexpand⟩
  | .actions [] =>
    rw [Task.step, runActions] at h
    cases h
    exact ⟨[], .noActions⟩
  | .actions (body :: rest) =>
    rw [Task.step, runActions] at h
    obtain ⟨target, between, htarget, hrest⟩ := run_bind_eq_ok.mp h
    obtain ⟨others, last, hothers, hresult⟩ := run_bind_eq_ok.mp hrest
    cases hresult
    obtain ⟨events, haction⟩ := exists_run_of_step (.action true body) depth s
      (run_map_eq_ok.mpr ⟨target, htarget, rfl⟩)
    obtain ⟨later, hrun⟩ := exists_run_of_step (.actions rest) depth between hothers
    exact ⟨events ++ later, .actions haction hrun⟩
  | .action own body =>
    obtain ⟨target, htarget, rfl⟩ := run_map_eq_ok.mp h
    cases hread : Action.ofBody body with
    | error fault =>
      rw [runAction_error hread] at htarget
      cases htarget
    | ok action =>
      cases action with
      | pop target =>
        rw [runAction_pop hread] at htarget
        cases htarget
        exact ⟨_, .pop hread⟩
      | push target rules =>
        rw [runAction_push hread] at htarget
        obtain ⟨expanded, between, hexpanded, hpush⟩ := run_bind_eq_ok.mp htarget
        cases hpush
        obtain ⟨events, hrun⟩ := exists_run_of_step (.rules rules) (depth + 1) s hexpanded
        exact ⟨_, .push hread hrun⟩
  | .rules [] =>
    rw [Task.step, expandRules] at h
    cases h
    exact ⟨[], .noRules⟩
  | .rules (rule :: rest) =>
    rw [Task.step, expandRules] at h
    obtain ⟨first, between, hfirst, hrest⟩ := run_bind_eq_ok.mp h
    obtain ⟨others, last, hothers, hresult⟩ := run_bind_eq_ok.mp hrest
    cases hresult
    obtain ⟨events, hrule⟩ := exists_run_of_step (.rule rule) depth s
      (run_singleton_eq_ok.mpr ⟨first, hfirst, rfl⟩)
    obtain ⟨later, hrun⟩ := exists_run_of_step (.rules rest) depth between hothers
    exact ⟨events ++ later, .rules hrule hrun⟩
  termination_by (maxNesting + 1 - depth, task.size, task.rank)
  decreasing_by
    all_goals simp only [Prod.lex_def, true_and, Task.size, Task.rank, Section.weights,
      Section.weight, Text.sizes]
    -- Sections, actions and rules fit into the text that they are read from.
    all_goals first
      | omega
      | have hsize := Section.weights_le_of_ofRule hread
        omega
      | have hsize := Tag.sizes_of_ofBody hread
        omega
      | have hsize := Action.sizes_of_ofBody hread
        omega

/-- **Runs are what the steps compute.** -/
theorem exists_run_iff : (∃ events, Run g depth task s events result s') ↔
    (task.step g depth).run s = (.ok result, s') :=
  ⟨fun ⟨_, hrun⟩ => hrun.step_eq, exists_run_of_step task depth s⟩

end Expansion

end GrammarBots

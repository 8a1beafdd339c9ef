import GrammarBots.Proofs.Grammar.Steps
import Mathlib.Data.List.ReduceOption
import Mathlib.Logic.Relation

/-!
# Calls of an expansion

An expansion is a recursion of four functions: a symbol expands one of its rules, a rule expands its
tags and runs its actions, a tag runs its own actions and expands its symbol, and an action expands
the rules that it pushes.  A `Frame` is a call of one of them, with the depth of nesting and the
state that it is made in, and `Frame.Calls` says which calls a call makes: those that it reaches,
after what comes before them in its text has succeeded.

* `Frame.Calls.measure_lt`: the levels left, the length of the text and the rank of the function
  decrease from a call to every call that it makes, so that no chain of calls goes on forever
  (`calls_wellFounded`).  What is pushed is text that no rule of the grammar need contain; a symbol
  reads it, but only one level further down.
* `perform_answers`: `Call.perform` is the body of the four functions with the recursion left open,
  and the functions are this body with the calls answered by the functions themselves.
-/

namespace GrammarBots

/-! ### Text inside text -/

/-- One of several sections weighs no more than all of them. -/
theorem Section.weight_le_weights (first : List Section) (part : Section) (rest : List Section) :
    part.weight ≤ weights (first ++ part :: rest) := by
  induction first with
  | nil =>
    show part.weight ≤ part.weight + weights rest
    omega
  | cons other first ih =>
    show part.weight ≤ other.weight + weights (first ++ part :: rest)
    omega

/-- A section, with its delimiters, fits into its rule. -/
theorem Section.weight_le_length {rule : Text} {first rest : List Section} {part : Section}
    (hread : ofRule rule = .ok (first ++ part :: rest)) : part.weight ≤ rule.length :=
  Nat.le_trans (weight_le_weights first part rest) (weights_le_of_ofRule hread)

/-- One of several texts is shorter than all of them. -/
theorem Text.length_lt_sizes (first : List Text) (t : Text) (rest : List Text) :
    t.length < sizes (first ++ t :: rest) := by
  induction first with
  | nil =>
    show t.length < t.length + 1 + sizes rest
    omega
  | cons other first ih =>
    show t.length < other.length + 1 + sizes (first ++ t :: rest)
    omega

/-- An action of a tag is shorter than the tag. -/
theorem Tag.length_action_lt {body action : Text} {tag : Tag} {first rest : List Text}
    (hread : ofBody body = .ok tag) (hactions : tag.actions = first ++ action :: rest) :
    action.length < body.length := by
  have hsize := sizes_of_ofBody hread
  have haction := Text.length_lt_sizes first action rest
  rw [hactions] at hsize
  omega

/-- The symbol of a tag is no longer than the tag. -/
theorem Tag.length_symbol_le {body : Text} {tag : Tag} (hread : ofBody body = .ok tag) :
    tag.symbol.length ≤ body.length := by
  have hsize := sizes_of_ofBody hread
  omega

/-- A rule of a push leaves room for the target and the colon. -/
theorem Action.length_rule_add_two_le {body target rule : Text} {first rest : List Text}
    (hread : ofBody body = .ok (.push target (first ++ rule :: rest))) :
    rule.length + 2 ≤ body.length := by
  unfold ofBody at hread
  split at hread
  next => cases hread
  next before after hsplit =>
    have hlength := congrArg List.length (Text.eq_of_splitOnce? hsplit)
    simp only [List.length_append, List.length_cons] at hlength
    dsimp only at hread
    split_ifs at hread with htarget hpop
    · cases hread
    · obtain ⟨-, hrules⟩ := Action.push.inj (Except.ok.inj hread)
      have hbefore : 0 < before.length := by
        refine List.length_pos_of_ne_nil ?_
        rintro rfl
        exact htarget rfl
      have hsizes : Text.sizes (rulesOf after) = 0 + after.length + 1 :=
        sizes_splitCommas false 0 [] after
      have hrule := Text.length_lt_sizes first rule rest
      rw [← hrules] at hrule
      omega

namespace Expansion

/-! ### Calls and frames -/

/-- A call of one of the functions of an expansion. -/
inductive Call where
  /-- Expand a symbol. -/
  | symbol (name : Text)
  /-- Expand a rule. -/
  | rule (rule : Text)
  /-- Expand a tag. -/
  | tag (body : Text)
  /-- Run an action. -/
  | action (body : Text)
  deriving DecidableEq

namespace Call

/-- The text that a call reads. -/
def text : Call → Text
  | .symbol name => name
  | .rule r => r
  | .tag body => body
  | .action body => body

/-- A tag may hand its whole text on to its symbol; all others hand on less. -/
def rank : Call → Nat
  | .symbol _ => 0
  | .rule _ => 1
  | .tag _ => 1
  | .action _ => 1

/-- What a call returns: a text or, from an action, the target of its push. -/
abbrev Result : Call → Type
  | .symbol _ => Text
  | .rule _ => Text
  | .tag _ => Text
  | .action _ => Option Text

end Call

/-- Something that answers calls. -/
abbrev Answers (γ : Type) := (depth : Nat) → (c : Call) → Step γ c.Result

/-- A call with the depth of nesting and the state that it is made in. -/
structure Frame (γ : Type) where
  /-- How many levels of nesting lead to the call. -/
  depth : Nat
  /-- The call. -/
  call : Call
  /-- The state at the call. -/
  state : State γ

/-- What decreases: the levels left, the length of the text, the rank of the function. -/
def Frame.measure {γ : Type} (F : Frame γ) : Nat × Nat × Nat :=
  (maxNesting + 1 - F.depth, F.call.text.length, F.call.rank)

/-- The call that an expansion begins with. -/
def Frame.start {γ : Type} (symbol : Text) (chance : γ) : Frame γ :=
  ⟨0, .symbol symbol, ⟨[], chance⟩⟩

variable {γ α β : Type}

section
variable [Chooser γ]

/-- The expansion as something that answers calls. -/
def answers (g : Grammar) : Answers γ
  | depth, .symbol name => expandSymbol g depth name
  | depth, .rule rule => expandRule g depth rule
  | depth, .tag body => expandTag g depth body
  | depth, .action body => runAction g depth body

/-- What a call comes to: its result or error, and the state after it. -/
def Frame.outcome (g : Grammar) (F : Frame γ) : Except GrammarError F.call.Result × State γ :=
  (answers g F.depth F.call).run F.state

/-- The calls that a call makes.  What precedes a call in the text has to succeed for the call to be
made, and decides the state it is made in. -/
inductive Frame.Calls (g : Grammar) : Frame γ → Frame γ → Prop where
  /-- Within the limit, a symbol expands the rule that is chosen, one level deeper. -/
  | chosenRule {depth : Nat} {name rule : Text} {others : List Text} {s : State γ}
      (hdepth : depth ≤ maxNesting) (hrules : rulesFor g s.pushed name = rule :: others) :
      Calls g ⟨depth, .symbol name, s⟩
        ⟨depth + 1, .rule ((rule :: others).get (Chooser.choose s.chance others.length).1),
          { s with chance := (Chooser.choose s.chance others.length).2 }⟩
  /-- A rule expands its tags. -/
  | tagOfRule {depth : Nat} {rule body before : Text} {first rest : List Section}
      {s between : State γ} (hread : Section.ofRule rule = .ok (first ++ .tag body :: rest))
      (hfirst : (expandSections g depth first).run s = (.ok before, between)) :
      Calls g ⟨depth, .rule rule, s⟩ ⟨depth, .tag body, between⟩
  /-- A rule runs its actions. -/
  | actionOfRule {depth : Nat} {rule body before : Text} {first rest : List Section}
      {s between : State γ} (hread : Section.ofRule rule = .ok (first ++ .action body :: rest))
      (hfirst : (expandSections g depth first).run s = (.ok before, between)) :
      Calls g ⟨depth, .rule rule, s⟩ ⟨depth, .action body, between⟩
  /-- A tag runs its own actions. -/
  | actionOfTag {depth : Nat} {body action : Text} {tag : Tag} {first rest targets : List Text}
      {s between : State γ} (hread : Tag.ofBody body = .ok tag)
      (hactions : tag.actions = first ++ action :: rest)
      (hfirst : (runActions g depth first).run s = (.ok targets, between)) :
      Calls g ⟨depth, .tag body, s⟩ ⟨depth, .action action, between⟩
  /-- A tag expands its symbol, if it has one. -/
  | symbolOfTag {depth : Nat} {body : Text} {tag : Tag} {targets : List Text}
      {s between : State γ} (hread : Tag.ofBody body = .ok tag) (hsymbol : tag.symbol ≠ [])
      (hactions : (runActions g depth tag.actions).run s = (.ok targets, between)) :
      Calls g ⟨depth, .tag body, s⟩ ⟨depth, .symbol tag.symbol, between⟩
  /-- An action expands the rules that it pushes, one level deeper. -/
  | ruleOfAction {depth : Nat} {body target rule : Text} {first rest texts : List Text}
      {s between : State γ}
      (hread : Action.ofBody body = .ok (.push target (first ++ rule :: rest)))
      (hfirst : (expandRules g (depth + 1) first).run s = (.ok texts, between)) :
      Calls g ⟨depth, .action body, s⟩ ⟨depth + 1, .rule rule, between⟩

/-- The calls that are made directly or indirectly. -/
def Frame.Reaches (g : Grammar) : Frame γ → Frame γ → Prop :=
  Relation.ReflTransGen (Frame.Calls g)

end

theorem expand_eq_outcome [Chooser γ] (g : Grammar) (start : Text) (chance : γ) :
    g.expand start chance = ((Frame.start start chance).outcome g).map id State.chance := rfl

/-! ### The measure -/

section
variable [Chooser γ] {g : Grammar} {F F' : Frame γ}

/-- **Every call comes before the calls that it makes**: they have fewer levels left, or as many and
less text, or as much text and a lower rank. -/
theorem Frame.Calls.measure_lt (h : F.Calls g F') :
    Prod.Lex (· < ·) (Prod.Lex (· < ·) (· < ·)) F'.measure F.measure := by
  cases h with
  | @chosenRule depth _ _ _ _ hdepth hrules =>
    have hlevels : maxNesting + 1 - (depth + 1) < maxNesting + 1 - depth := by omega
    exact .left _ _ hlevels
  | @tagOfRule _ rule body _ _ _ _ _ hread hfirst =>
    have hsize : body.length + 2 ≤ rule.length := Section.weight_le_length hread
    have hlength : body.length < rule.length := by omega
    exact .right _ (.left _ _ hlength)
  | @actionOfRule _ rule body _ _ _ _ _ hread hfirst =>
    have hsize : body.length + 2 ≤ rule.length := Section.weight_le_length hread
    have hlength : body.length < rule.length := by omega
    exact .right _ (.left _ _ hlength)
  | actionOfTag hread hactions hfirst =>
    exact .right _ (.left _ _ (Tag.length_action_lt hread hactions))
  | @symbolOfTag _ body tag _ _ _ hread hsymbol hactions =>
    -- The symbol may be the whole text of the tag; then only the rank decreases.
    rcases Nat.lt_or_eq_of_le (Tag.length_symbol_le hread) with hlt | heq
    · exact .right _ (.left _ _ hlt)
    · refine .right _ ?_
      show Prod.Lex _ _ (tag.symbol.length, 0) (body.length, 1)
      rw [heq]
      exact .right _ Nat.zero_lt_one
  | @ruleOfAction depth body _ rule _ _ _ _ _ hread hfirst =>
    -- Beyond the limit no levels are left to lose, but the text still gets shorter.
    have hsize := Action.length_rule_add_two_le hread
    have hlength : rule.length < body.length := by omega
    by_cases hdepth : depth ≤ maxNesting
    · have hlevels : maxNesting + 1 - (depth + 1) < maxNesting + 1 - depth := by omega
      exact .left _ _ hlevels
    · have hlevels : maxNesting + 1 - (depth + 1) = maxNesting + 1 - depth := by omega
      show Prod.Lex _ _ (maxNesting + 1 - (depth + 1), rule.length, 1) _
      rw [hlevels]
      exact .right _ (.left _ _ hlength)

theorem calls_wellFounded (g : Grammar) : WellFounded fun F' F : Frame γ => F.Calls g F' :=
  Subrelation.wf Frame.Calls.measure_lt
    (InvImage.wf Frame.measure (Prod.lex Nat.lt_wfRel (Prod.lex Nat.lt_wfRel Nat.lt_wfRel)).wf)

/-- What holds of a call when it holds of the calls that it makes holds of every call. -/
@[elab_as_elim]
theorem Frame.induction (γ : Type) [Chooser γ] (g : Grammar) {motive : Frame γ → Prop} (F : Frame γ)
    (call : ∀ F, (∀ F', F.Calls g F' → motive F') → motive F) : motive F :=
  (calls_wellFounded g).induction F call

end

/-! ### Bodies with the recursion left open -/

namespace Call

/-- The text of a section, with its call answered. -/
def ofSection (ask : Answers γ) (depth : Nat) : Section → Step γ Text
  | .text t => pure t
  | .tag body => ask depth (.tag body)
  | .action body => do
    let _ ← ask depth (.action body)
    return []

/-- What a call does, given the answers to the calls that it makes. -/
def perform [Chooser γ] (g : Grammar) (ask : Answers γ) (depth : Nat) : (c : Call) → Step γ c.Result
  | .symbol name => do
    if maxNesting < depth then
      throw (.recursionLimit name maxNesting)
    else
      match rulesFor g (← get).pushed name with
      | [] => throw (g.unknownSymbol name)
      | first :: others =>
        let i ← choose others.length
        ask (depth + 1) (.rule ((first :: others).get i))
  | .rule r => do
    let sections ← orMalformed r (Section.ofRule r)
    List.flatten <$> sections.mapM (ofSection ask depth)
  | .tag body => do
    let tag ← orMalformed body (Tag.ofBody body)
    let targets ← List.reduceOption <$> tag.actions.mapM fun action => ask depth (.action action)
    let text ← (if tag.symbol = [] then pure []
      else Modifier.applyAll tag.modifiers <$> ask depth (.symbol tag.symbol))
    targets.forM pop
    return text
  | .action body => do
    match ← orMalformed body (Action.ofBody body) with
    | .pop target => do
      pop target
      return none
    | .push target rules => do
      let expanded ← rules.mapM fun r => ask (depth + 1) (.rule r)
      push target expanded
      return some target

end Call

section
variable [Chooser γ] (g : Grammar) (depth : Nat)

theorem expandSections_eq_mapM (parts : List Section) :
    (expandSections g depth parts : Step γ Text)
      = List.flatten <$> parts.mapM (Call.ofSection (answers g) depth) := by
  induction parts with
  | nil =>
    rw [expandSections, List.mapM_nil]
    rfl
  | cons part rest ih =>
    rw [List.mapM_cons]
    cases part with
    | text t =>
      rw [expandSections_text, ih]
      simp only [Call.ofSection, pure_bind, map_eq_pure_bind, bind_assoc, List.flatten_cons]
    | tag body =>
      rw [expandSections_tag, ih]
      simp only [Call.ofSection, answers, pure_bind, map_eq_pure_bind, bind_assoc,
        List.flatten_cons]
    | action body =>
      rw [expandSections_action, ih]
      simp only [Call.ofSection, answers, pure_bind, map_eq_pure_bind, bind_assoc,
        List.flatten_cons, List.nil_append]

theorem runActions_eq_mapM (bodies : List Text) :
    (runActions g depth bodies : Step γ (List Text))
      = List.reduceOption <$> bodies.mapM (runAction g depth) := by
  induction bodies with
  | nil =>
    rw [runActions, List.mapM_nil]
    rfl
  | cons body rest ih =>
    rw [List.mapM_cons, runActions, ih]
    simp only [map_eq_pure_bind, bind_assoc, pure_bind]
    refine bind_congr fun target => bind_congr fun targets => ?_
    cases target <;> rfl

theorem expandRules_eq_mapM (rules : List Text) :
    (expandRules g depth rules : Step γ (List Text)) = rules.mapM (expandRule g depth) := by
  induction rules with
  | nil => rw [expandRules, List.mapM_nil]
  | cons rule rest ih => rw [List.mapM_cons, expandRules, ih]

variable {g depth} {s s' : State γ}

theorem run_expandSections_of_mapM {parts : List Section} {texts : List Text}
    (h : (parts.mapM (Call.ofSection (answers g) depth)).run s = (.ok texts, s')) :
    (expandSections g depth parts).run s = (.ok texts.flatten, s') := by
  rw [expandSections_eq_mapM]
  exact run_map_eq_ok.mpr ⟨texts, h, rfl⟩

theorem run_runActions_of_mapM {bodies : List Text} {targets : List (Option Text)}
    (h : (bodies.mapM (runAction g depth)).run s = (.ok targets, s')) :
    (runActions g depth bodies).run s = (.ok targets.reduceOption, s') := by
  rw [runActions_eq_mapM]
  exact run_map_eq_ok.mpr ⟨targets, h, rfl⟩

variable (g depth)

/-- **The functions of the expansion are their bodies**, with the calls answered by themselves. -/
theorem perform_answers (c : Call) :
    c.perform g (answers g) depth = (answers g depth c : Step γ c.Result) := by
  cases c with
  | symbol name =>
    rw [Call.perform, answers, expandSymbol]
    split <;> rfl
  | rule r =>
    rw [Call.perform, answers]
    cases hread : Section.ofRule r with
    | error fault => rw [expandRule_error hread]; rfl
    | ok sections =>
      rw [expandRule_eq hread, expandSections_eq_mapM, orMalformed, pure_bind]
  | tag body =>
    rw [Call.perform, answers]
    cases hread : Tag.ofBody body with
    | error fault => rw [expandTag_error hread]; rfl
    | ok tag =>
      rw [expandTag_eq hread, runActions_eq_mapM, orMalformed, pure_bind]
      rfl
  | action body =>
    rw [Call.perform, answers]
    cases hread : Action.ofBody body with
    | error fault => rw [runAction_error hread]; rfl
    | ok action =>
      rw [orMalformed, pure_bind]
      cases action with
      | pop target => rw [runAction_pop hread]
      | push target rules => rw [runAction_push hread, expandRules_eq_mapM]; rfl

end

end Expansion

end GrammarBots

import GrammarBots.Grammar.Modifier
import GrammarBots.Grammar.Source
import GrammarBots.Random.Choice

/-!
# Expansion

Expanding a symbol picks one of its rules and replaces the rule's tags by the expansions of their
symbols.  Actions push rules onto the stack of a symbol, where they hide the rules of the grammar
until they are popped; a tag's own actions last for that tag only.  A rule is expanded when it is
pushed, so what lies on a stack is text that was already expanded once.

Symbols may nest `maxNesting` deep.  Expansion ends for every grammar, however it refers to itself:
a symbol costs one level of nesting, and every other step reads a part of the text at hand.  The
measure is the levels left, then the length of that text, then the rank of the step; no step needs
any other bound.
-/

namespace GrammarBots

/-- How deep symbols may nest. -/
def maxNesting : Nat := 64

/-- The symbol that every post starts from. -/
def startSymbol : Text := "origin".toList

namespace Expansion

/-- The rules pushed during an expansion, most recent push first, and the state of chance. -/
structure State (γ : Type) where
  /-- The pushes that are in force: the symbol and its rules. -/
  pushed : List (Text × List Text)
  /-- The state of the random choices. -/
  chance : γ

/-- A step of an expansion.  It keeps the state of chance when it fails. -/
abbrev Step (γ α : Type) := ExceptT GrammarError (StateM (State γ)) α

variable {γ : Type}

/-- The rules of a symbol: those of its latest push, else those of the grammar. -/
def rulesFor (g : Grammar) (pushed : List (Text × List Text)) (symbol : Text) : List Text :=
  match pushed.lookup symbol with
  | some rules => rules
  | none => (g.rules? symbol).getD []

/-- The stack of a symbol, top first. -/
def stack (pushed : List (Text × List Text)) (symbol : Text) : List (List Text) :=
  (pushed.filter (·.1 == symbol)).map (·.2)

/-- Puts rules on top of the stack of a symbol. -/
def push (target : Text) (rules : List Text) : Step γ Unit :=
  modify fun s => { s with pushed := (target, rules) :: s.pushed }

/-- Takes the top off the stack of a symbol; an empty stack stays empty. -/
def pop (target : Text) : Step γ Unit :=
  modify fun s => { s with pushed := s.pushed.eraseP (·.1 == target) }

/-- An index below `n + 1`, chosen at random. -/
def choose [Chooser γ] (n : Nat) : Step γ (Fin (n + 1)) := do
  let s ← get
  let (i, chance) := Chooser.choose s.chance n
  set { s with chance := chance }
  return i

/-- The parts of a text, or the error that the text is malformed. -/
def orMalformed {α : Type} (text : Text) : Except RuleFault α → Step γ α
  | .ok a => pure a
  | .error fault => throw (.malformedRule text fault)

mutual

/-- The expansion of a symbol that `depth` symbols lead to. -/
def expandSymbol [Chooser γ] (g : Grammar) (depth : Nat) (symbol : Text) : Step γ Text := do
  if _h : maxNesting < depth then
    throw (.recursionLimit symbol maxNesting)
  else
    match rulesFor g (← get).pushed symbol with
    | [] => throw (g.unknownSymbol symbol)
    | rule :: others =>
      let i ← choose others.length
      expandRule g (depth + 1) ((rule :: others).get i)
  termination_by (maxNesting + 1 - depth, symbol.length, 0)
  decreasing_by exact Prod.Lex.left _ _ (by omega)

/-- The expansion of a rule. -/
def expandRule [Chooser γ] (g : Grammar) (depth : Nat) (rule : Text) : Step γ Text :=
  match _h : Section.ofRule rule with
  | .error fault => throw (.malformedRule rule fault)
  | .ok sections => expandSections g depth sections
  termination_by (maxNesting + 1 - depth, rule.length, 2)
  decreasing_by
    have := Section.weights_le_of_ofRule _h
    simp only [Prod.lex_def, true_and]
    omega

/-- The expansions of the sections of a rule, one after the other. -/
def expandSections [Chooser γ] (g : Grammar) (depth : Nat) : List Section → Step γ Text
  | [] => pure []
  | s :: rest => do
    let first ← match s with
      | .text t => pure t
      | .tag body => expandTag g depth body
      | .action body => do
        let _ ← runAction g depth body
        pure []
    let others ← expandSections g depth rest
    return first ++ others
  termination_by sections => (maxNesting + 1 - depth, Section.weights sections, 1)
  decreasing_by
    all_goals
      have := Section.weight_pos s
      simp only [Prod.lex_def, true_and, Section.weights, Section.weight] at *
      omega

/-- The expansion of a tag: its actions, then its symbol, then its modifiers. -/
def expandTag [Chooser γ] (g : Grammar) (depth : Nat) (body : Text) : Step γ Text :=
  match _h : Tag.ofBody body with
  | .error fault => throw (.malformedRule body fault)
  | .ok tag => do
    -- What the tag's own actions push is taken back once its symbol is expanded.
    let targets ← runActions g depth tag.actions
    let expanded ← if tag.symbol = [] then pure [] else do
      let text ← expandSymbol g depth tag.symbol
      pure (Modifier.applyAll tag.modifiers text)
    targets.forM pop
    return expanded
  termination_by (maxNesting + 1 - depth, body.length, 2)
  decreasing_by
    all_goals
      have := Tag.sizes_of_ofBody _h
      simp only [Prod.lex_def, true_and]
      omega

/-- Runs several actions; gives the targets of their pushes. -/
def runActions [Chooser γ] (g : Grammar) (depth : Nat) : List Text → Step γ (List Text)
  | [] => pure []
  | body :: rest => do
    let target? ← runAction g depth body
    let targets ← runActions g depth rest
    return target?.toList ++ targets
  termination_by bodies => (maxNesting + 1 - depth, Text.sizes bodies, 1)
  decreasing_by
    all_goals
      simp only [Prod.lex_def, true_and, Text.sizes]
      omega

/-- Runs an action; gives the target of a push. -/
def runAction [Chooser γ] (g : Grammar) (depth : Nat) (body : Text) : Step γ (Option Text) :=
  match h : Action.ofBody body with
  | .error fault => throw (.malformedRule body fault)
  | .ok (.pop target) => do
    pop target
    return none
  | .ok (.push target rules) => do
    let expanded ← expandRules g (depth + 1) rules
    push target expanded
    return some target
  termination_by (maxNesting + 1 - depth, body.length, 2)
  decreasing_by
    have := Action.sizes_of_ofBody h
    simp only [Prod.lex_def]
    omega

/-- The expansions of several rules, in order. -/
def expandRules [Chooser γ] (g : Grammar) (depth : Nat) : List Text → Step γ (List Text)
  | [] => pure []
  | rule :: rest => do
    let first ← expandRule g depth rule
    let others ← expandRules g depth rest
    return first :: others
  termination_by rules => (maxNesting + 1 - depth, Text.sizes rules, 1)
  decreasing_by
    all_goals
      simp only [Prod.lex_def, true_and, Text.sizes]
      omega

end

end Expansion

/-- The expansion of a symbol of a grammar, and the state of chance after it. -/
def Grammar.expand {γ : Type} [Chooser γ] (g : Grammar) (start : Text) (chance : γ) :
    Except GrammarError Text × γ :=
  let (result, s) := (Expansion.expandSymbol g 0 start).run ⟨[], chance⟩
  (result, s.chance)

end GrammarBots

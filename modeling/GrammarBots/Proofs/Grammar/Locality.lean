import GrammarBots.Proofs.Grammar.Agreement
import GrammarBots.Proofs.Grammar.Reachability
import GrammarBots.Proofs.Grammar.Runs

/-!
# What an expansion depends on

Two grammars that give the same rules to every symbol that is looked up while a symbol is expanded
in one of them expand it in the same way: by the same calls in the same states, so with the same
choices, to the same text or error, and to the same state of chance.  Only the suggestions of an
unknown symbol are taken from the whole grammar; `GrammarError.withoutSuggestions` leaves them out.

* `Frame.answeredBy_of_same`: a call comes to the same in both grammars.  The induction is on the
  calls that are made, and each step is `Frame.perform_agree`.
* `Frame.reaches_iff`: the calls are the same in both grammars, since what comes before a call
  succeeds in the one as in the other; so the choices are as well (`Frame.chooses_iff`).
* `expandEach_of_same`: expansions that are made one after the other go on from the state of chance
  that the one before leaves, so all of them stay the same.
* `path_of_looksUp`: without actions, what is looked up lies on a path of references.

`expansion_local` puts them together.
-/

namespace GrammarBots

/-- The error, without what the grammar suggests instead of an unknown symbol. -/
def GrammarError.withoutSuggestions : GrammarError → GrammarError
  | .unknownSymbol symbol _ => .unknownSymbol symbol []
  | .invalidSource fault => .invalidSource fault
  | .malformedRule rule fault => .malformedRule rule fault
  | .recursionLimit symbol limit => .recursionLimit symbol limit

/-- The grammars have the same rules for the symbol. -/
def Grammar.SameRules (g g' : Grammar) (symbol : Text) : Prop :=
  (g.rules? symbol).getD [] = (g'.rules? symbol).getD []

namespace Expansion

/-- The errors are the same, up to suggestions. -/
def SameError (e e' : GrammarError) : Prop := e.withoutSuggestions = e'.withoutSuggestions

theorem SameError.refl (e : GrammarError) : SameError e e := rfl

theorem SameUpTo.mapError_eq {α : Type} {x y : Except GrammarError α}
    (h : SameUpTo SameError x y) :
    x.mapError GrammarError.withoutSuggestions = y.mapError GrammarError.withoutSuggestions := by
  cases h with
  | ok a => rfl
  | error h => exact congrArg Except.error h

variable {γ : Type} [Chooser γ] {g g' : Grammar} {F F' : Frame γ}

/-! ### What is looked up -/

/-- The call, or one that it leads to, asks the grammar for the rules of the symbol: the symbol is
expanded within the limit of nesting, and no rules are pushed on it. -/
def Frame.LooksUp (g : Grammar) (F : Frame γ) (symbol : Text) : Prop :=
  ∃ depth s, F.Reaches g ⟨depth, .symbol symbol, s⟩ ∧ depth ≤ maxNesting ∧
    s.pushed.lookup symbol = none

/-- What the calls look up that a call leads to, it looks up itself. -/
theorem Frame.LooksUp.of_reaches {symbol : Text} (h : F'.LooksUp g symbol)
    (hreaches : F.Reaches g F') : F.LooksUp g symbol := by
  obtain ⟨depth, s, hlater, hlookup⟩ := h
  exact ⟨depth, s, hreaches.trans hlater, hlookup⟩

/-- Rules that are pushed are the same in all grammars. -/
theorem rulesFor_eq {pushed : List (Text × List Text)} {symbol : Text}
    (hsame : pushed.lookup symbol = none → g.SameRules g' symbol) :
    rulesFor g' pushed symbol = rulesFor g pushed symbol := by
  unfold rulesFor
  cases hlookup : pushed.lookup symbol with
  | some rules => rfl
  | none => exact (hsame hlookup).symm

theorem rulesFor_of_lookups (hsame : ∀ symbol, F.LooksUp g symbol → g.SameRules g' symbol)
    {name : Text} (hname : F.call = .symbol name) (hdepth : F.depth ≤ maxNesting) :
    rulesFor g' F.state.pushed name = rulesFor g F.state.pushed name := by
  obtain ⟨depth, c, s⟩ := F
  obtain rfl : c = .symbol name := hname
  exact rulesFor_eq fun hlookup => hsame name ⟨depth, s, .refl, hdepth, hlookup⟩

/-! ### The same result -/

/-- **A call comes to the same** in all grammars that have the same rules for what is looked up. -/
theorem Frame.answeredBy_of_same (F : Frame γ)
    (hsame : ∀ symbol, F.LooksUp g symbol → g.SameRules g' symbol) :
    F.AnsweredBy SameError g (answers g') := by
  induction F using Frame.induction γ g with
  | call F ih =>
    have hcalls : ∀ F', F.Calls g F' → F'.AnsweredBy SameError g (answers g') := by
      intro F' hF'
      exact ih F' hF' fun symbol hlooks => hsame symbol (hlooks.of_reaches (.single hF'))
    have hrules : ∀ name, F.call = .symbol name → F.depth ≤ maxNesting →
        rulesFor g' F.state.pushed name = rulesFor g F.state.pushed name ∧
          SameError (g.unknownSymbol name) (g'.unknownSymbol name) :=
      fun name hname hdepth => ⟨rulesFor_of_lookups hsame hname hdepth, rfl⟩
    have hagree := F.perform_agree SameError.refl hrules hcalls
    rw [perform_answers] at hagree
    exact hagree

/-! ### The same calls -/

/-- Up to the calls that a call makes, two grammars do the same: the symbol at hand has the same
rules, and what comes before a place in the text succeeds in the one as in the other. -/
structure Frame.SameBefore (g g' : Grammar) (F : Frame γ) : Prop where
  /-- The symbol at hand has the same rules. -/
  rules : ∀ name, F.call = .symbol name → F.depth ≤ maxNesting →
    rulesFor g' F.state.pushed name = rulesFor g F.state.pushed name
  /-- The first sections of a rule succeed in the same way. -/
  sections : ∀ r parts after t s', F.call = .rule r → Section.ofRule r = .ok (parts ++ after) →
    ((expandSections g F.depth parts).run F.state = (.ok t, s') ↔
      (expandSections g' F.depth parts).run F.state = (.ok t, s'))
  /-- The first actions of a tag succeed in the same way. -/
  actions : ∀ body tag bodies after targets s', F.call = .tag body → Tag.ofBody body = .ok tag →
    tag.actions = bodies ++ after →
      ((runActions g F.depth bodies).run F.state = (.ok targets, s') ↔
        (runActions g' F.depth bodies).run F.state = (.ok targets, s'))
  /-- The first rules of a push succeed in the same way. -/
  pushes : ∀ body target rules after texts s', F.call = .action body →
    Action.ofBody body = .ok (.push target (rules ++ after)) →
      ((expandRules g (F.depth + 1) rules).run F.state = (.ok texts, s') ↔
        (expandRules g' (F.depth + 1) rules).run F.state = (.ok texts, s'))

theorem Frame.SameBefore.symm (h : F.SameBefore g g') : F.SameBefore g' g where
  rules name hname hdepth := (h.rules name hname hdepth).symm
  sections r parts after t s' hcall hread := (h.sections r parts after t s' hcall hread).symm
  actions body tag bodies after targets s' hcall hread hsplit :=
    (h.actions body tag bodies after targets s' hcall hread hsplit).symm
  pushes body target rules after texts s' hcall hread :=
    (h.pushes body target rules after texts s' hcall hread).symm

theorem Frame.SameBefore.calls (h : F.SameBefore g g') (hcalls : F.Calls g F') : F.Calls g' F' := by
  cases hcalls with
  | chosenRule hdepth hown => exact .chosenRule hdepth ((h.rules _ rfl hdepth).trans hown)
  | tagOfRule hread hfirst =>
    exact .tagOfRule hread ((h.sections _ _ _ _ _ rfl hread).mp hfirst)
  | actionOfRule hread hfirst =>
    exact .actionOfRule hread ((h.sections _ _ _ _ _ rfl hread).mp hfirst)
  | actionOfTag hread hsplit hfirst =>
    exact .actionOfTag hread hsplit ((h.actions _ _ _ _ _ _ rfl hread hsplit).mp hfirst)
  | @symbolOfTag _ _ tag _ _ _ hread hsymbol hall =>
    have hsplit := (List.append_nil tag.actions).symm
    exact .symbolOfTag hread hsymbol ((h.actions _ _ _ _ _ _ rfl hread hsplit).mp hall)
  | ruleOfAction hread hfirst =>
    exact .ruleOfAction hread ((h.pushes _ _ _ _ _ _ rfl hread).mp hfirst)

theorem Frame.sameBefore_of_same (F : Frame γ)
    (hsame : ∀ symbol, F.LooksUp g symbol → g.SameRules g' symbol) : F.SameBefore g g' := by
  have hrules := @rulesFor_of_lookups γ _ g g' F hsame
  have hcalls : ∀ F', F.Calls g F' → F'.AnsweredBy SameError g (answers g') := fun F' hF' =>
    F'.answeredBy_of_same fun symbol hlooks => hsame symbol (hlooks.of_reaches (.single hF'))
  obtain ⟨depth, c, s⟩ := F
  constructor
  case rules => exact fun _ hname hdepth => hrules hname hdepth
  case sections =>
    intro r parts after t s' hcall hread
    obtain rfl : c = .rule r := hcall
    rw [expandSections_eq_mapM g']
    exact (agree_sections SameError.refl hread hcalls).ok_iff
  case actions =>
    intro body tag bodies after targets s' hcall hread hsplit
    obtain rfl : c = .tag body := hcall
    rw [runActions_eq_mapM g']
    exact (agree_actions SameError.refl hread hsplit hcalls).ok_iff
  case pushes =>
    intro body target rules after texts s' hcall hread
    obtain rfl : c = .action body := hcall
    rw [expandRules_eq_mapM g']
    exact (agree_rules SameError.refl hread hcalls).ok_iff

/-- **The calls are the same**, in the same states. -/
theorem Frame.reaches_iff (F F' : Frame γ)
    (hsame : ∀ symbol, F.LooksUp g symbol → g.SameRules g' symbol) :
    F.Reaches g F' ↔ F.Reaches g' F' := by
  induction F using Frame.induction γ g with
  | call F ih =>
    unfold Frame.Reaches at ih ⊢
    rw [Relation.ReflTransGen.cases_head_iff, Relation.ReflTransGen.cases_head_iff]
    refine or_congr_right (exists_congr fun F₁ => ?_)
    have hbefore := F.sameBefore_of_same hsame
    rw [← show F.Calls g F₁ ↔ F.Calls g' F₁ from ⟨hbefore.calls, hbefore.symm.calls⟩]
    refine and_congr_right fun hcalls => ?_
    exact ih F₁ hcalls fun symbol hlooks => hsame symbol (hlooks.of_reaches (.single hcalls))

/-- A choice that is made on the way: the state of chance that it is made in, and how many rules
there are to choose from, not counting the first. -/
def Frame.Chooses (g : Grammar) (F : Frame γ) (chance : γ) (others : Nat) : Prop :=
  ∃ depth name s, F.Reaches g ⟨depth, .symbol name, s⟩ ∧ depth ≤ maxNesting ∧ s.chance = chance ∧
    (rulesFor g s.pushed name).length = others + 1

/-- **The choices are the same.** -/
theorem Frame.chooses_iff (F : Frame γ) (chance : γ) (others : Nat)
    (hsame : ∀ symbol, F.LooksUp g symbol → g.SameRules g' symbol) :
    F.Chooses g chance others ↔ F.Chooses g' chance others := by
  refine exists_congr fun depth => exists_congr fun name => exists_congr fun s => ?_
  rw [← F.reaches_iff _ hsame]
  refine and_congr_right fun hreaches => and_congr_right fun hdepth => ?_
  have hlater : ∀ symbol, (⟨depth, .symbol name, s⟩ : Frame γ).LooksUp g symbol →
      g.SameRules g' symbol := fun symbol hlooks => hsame symbol (hlooks.of_reaches hreaches)
  have hrules : rulesFor g' s.pushed name = rulesFor g s.pushed name :=
    rulesFor_of_lookups hlater rfl hdepth
  rw [hrules]

/-! ### One expansion after the other -/

theorem expand_of_same {start : Text} {chance : γ}
    (hsame : ∀ symbol, (Frame.start start chance).LooksUp g symbol → g.SameRules g' symbol) :
    (g.expand start chance).1.mapError GrammarError.withoutSuggestions
        = (g'.expand start chance).1.mapError GrammarError.withoutSuggestions ∧
      (g.expand start chance).2 = (g'.expand start chance).2 := by
  obtain ⟨hresult, hstate⟩ := (Frame.start start chance).answeredBy_of_same hsame
  exact ⟨hresult.mapError_eq, congrArg State.chance hstate⟩

/-- Expansions that are made one after the other, each in its grammar and from its symbol; chance
goes on from where the one before has left it. -/
def expandEach : List (Grammar × Text) → γ → List (Except GrammarError Text) × γ
  | [], chance => ([], chance)
  | (g, start) :: rest, chance =>
    let (result, between) := g.expand start chance
    let (results, last) := expandEach rest between
    (result :: results, last)

theorem expandEach_cons (g : Grammar) (start : Text) (rest : List (Grammar × Text)) (chance : γ) :
    expandEach ((g, start) :: rest) chance
      = ((g.expand start chance).1 :: (expandEach rest (g.expand start chance).2).1,
        (expandEach rest (g.expand start chance).2).2) := rfl

/-- An expansion, and the grammar that it is to be made in instead. -/
structure Edit where
  /-- The grammar that the expansion is made in. -/
  before : Grammar
  /-- The grammar that replaces it. -/
  after : Grammar
  /-- The symbol that is expanded. -/
  start : Text

/-- The edit leaves the rules of all symbols that may be looked up, whatever chance chooses. -/
def Edit.KeepsLookups (γ : Type) [Chooser γ] (e : Edit) : Prop :=
  ∀ (chance : γ) (symbol : Text), (Frame.start e.start chance).LooksUp e.before symbol →
    e.before.SameRules e.after symbol

theorem expandEach_of_same (edits : List Edit) (hkeep : ∀ e ∈ edits, e.KeepsLookups γ)
    (chance : γ) :
    (expandEach (edits.map fun e => (e.before, e.start)) chance).1.map
        (·.mapError GrammarError.withoutSuggestions)
      = (expandEach (edits.map fun e => (e.after, e.start)) chance).1.map
        (·.mapError GrammarError.withoutSuggestions) ∧
    (expandEach (edits.map fun e => (e.before, e.start)) chance).2
      = (expandEach (edits.map fun e => (e.after, e.start)) chance).2 := by
  induction edits generalizing chance with
  | nil => exact ⟨rfl, rfl⟩
  | cons e edits ih =>
    obtain ⟨he, hrest⟩ := List.forall_mem_cons.mp hkeep
    obtain ⟨hresult, hbetween⟩ := expand_of_same (he chance)
    obtain ⟨hresults, hlast⟩ := ih hrest (e.before.expand e.start chance).2
    rw [List.map_cons, List.map_cons, expandEach_cons, expandEach_cons, ← hbetween]
    exact ⟨List.cons_eq_cons.mpr ⟨hresult, hresults⟩, hlast⟩

/-! ### Without actions -/

/-- What a task reads has no actions in it. -/
def Task.IsActionFree (g : Grammar) : Task → Prop
  | .symbol _ => True
  | .rule r => r ∈ g.allRules
  | .sections parts => ∀ part ∈ parts, part.IsActionFree
  | .tag body => body.head? ≠ some '['
  | .actions bodies => bodies = []
  | .action _ _ => False
  | .rules _ => False

omit [Chooser γ] in
/-- Where nothing is pushed, there is nothing to take back. -/
theorem pushed_foldl_popped (targets : List Text) {s : State γ} (h : s.pushed = []) :
    (targets.foldl State.popped s).pushed = [] := by
  induction targets generalizing s with
  | nil => exact h
  | cons target targets ih => exact ih (by rw [State.popped, h]; rfl)

theorem rules?_of_rulesFor {name rule : Text} {others : List Text}
    (h : rulesFor g [] name = rule :: others) : g.rules? name = some (rule :: others) := by
  rw [rulesFor, List.lookup_nil] at h
  cases hrules : g.rules? name with
  | none => rw [hrules] at h; cases h
  | some rules => rw [hrules] at h; exact congrArg some h

/-- **Without actions, nothing is ever pushed.** -/
theorem Run.pushed_eq_nil (hfree : g.ActionFree) {depth : Nat} {task : Task} {s s' : State γ}
    {events : List Event} {result : List Text} (h : Run g depth task s events result s')
    (htask : task.IsActionFree g) (hs : s.pushed = []) : s'.pushed = [] := by
  induction h with
  | symbol hdepth hrules hrule ih =>
    rw [hs] at hrules
    exact ih (Grammar.mem_allRules (rules?_of_rulesFor hrules) (List.get_mem _ _)) hs
  | rule hread hsections ih => exact ih (hfree _ htask _ hread) hs
  | noSections => exact hs
  | text hrest ih => exact ih (List.forall_mem_cons.mp htask).2 hs
  | tagSection htag hrest ihtag ihrest =>
    obtain ⟨hbody, hsections⟩ := List.forall_mem_cons.mp htask
    exact ihrest hsections (ihtag hbody hs)
  | actionSection => exact ((List.forall_mem_cons.mp htask).1).elim
  | emptyTag hread hsymbol hactions ih =>
    exact pushed_foldl_popped _ (ih ((Tag.actions_eq_nil_iff hread).mpr htask) hs)
  | tag hread hsymbol hactions hexpand ihactions ihexpand =>
    have hbetween := ihactions ((Tag.actions_eq_nil_iff hread).mpr htask) hs
    exact pushed_foldl_popped _ (ihexpand trivial hbetween)
  | noActions => exact hs
  | actions => cases htask
  | pop => exact htask.elim
  | push => exact htask.elim
  | noRules => exact htask.elim
  | rules => exact htask.elim

/-- A call of an expansion without actions: nothing is pushed, and what is called belongs to a
symbol that the start symbol leads to. -/
inductive Frame.OnPath (g : Grammar) (start : Text) : Frame γ → Prop where
  /-- A symbol at the end of a path that is as long as the depth. -/
  | symbol {depth : Nat} {name : Text} {s : State γ} (hs : s.pushed = [])
      (path : g.Path start depth name) : OnPath g start ⟨depth, .symbol name, s⟩
  /-- A rule of such a symbol. -/
  | rule {depth : Nat} {name r : Text} {rules : List Text} {s : State γ} (hs : s.pushed = [])
      (path : g.Path start depth name) (hrules : g.rules? name = some rules) (hr : r ∈ rules) :
      OnPath g start ⟨depth + 1, .rule r, s⟩
  /-- A tag of such a rule. -/
  | tag {depth : Nat} {name r body : Text} {rules : List Text} {sections : List Section}
      {s : State γ} (hs : s.pushed = []) (path : g.Path start depth name)
      (hrules : g.rules? name = some rules) (hr : r ∈ rules)
      (hread : Section.ofRule r = .ok sections) (hbody : .tag body ∈ sections) :
      OnPath g start ⟨depth + 1, .tag body, s⟩

theorem Frame.OnPath.of_calls (hfree : g.ActionFree) {start : Text} (h : F.OnPath g start)
    (hcalls : F.Calls g F') : F'.OnPath g start := by
  cases h with
  | symbol hs path =>
    cases hcalls with
    | chosenRule hdepth hrules =>
      rw [hs] at hrules
      exact .rule hs path (rules?_of_rulesFor hrules) (List.get_mem _ _)
  | rule hs path hrules hr =>
    cases hcalls with
    | @tagOfRule _ _ body before first rest _ between hread hfirst =>
      have hsections := hfree _ (Grammar.mem_allRules hrules hr) _ hread
      have hinit : ∀ part ∈ first, part.IsActionFree := fun part hpart =>
        hsections part (List.mem_append_left _ hpart)
      obtain ⟨events, hrun⟩ := exists_run_of_step (.sections first) _ _
        (run_singleton_eq_ok.mpr ⟨before, hfirst, rfl⟩)
      exact .tag (hrun.pushed_eq_nil hfree hinit hs) path hrules hr hread
        List.mem_append_cons_self
    | actionOfRule hread hfirst =>
      exact (hfree _ (Grammar.mem_allRules hrules hr) _ hread _ List.mem_append_cons_self).elim
  | tag hs path hrules hr hread hbody =>
    have hhead := hfree _ (Grammar.mem_allRules hrules hr) _ hread _ hbody
    cases hcalls with
    | actionOfTag htag hactions hfirst =>
      rw [(Tag.actions_eq_nil_iff htag).mpr hhead] at hactions
      exact absurd hactions.symm (List.append_ne_nil_of_right_ne_nil _ (List.cons_ne_nil _ _))
    | symbolOfTag htag hsymbol hactions =>
      rw [(Tag.actions_eq_nil_iff htag).mpr hhead, run_runActions_nil] at hactions
      cases hactions
      exact .symbol hs (path.refer ⟨_, hrules, _, hr, _, hread, _, hbody, _, htag, rfl, hsymbol⟩)

theorem Frame.OnPath.of_reaches (hfree : g.ActionFree) {start : Text} (h : F.OnPath g start)
    (hreaches : F.Reaches g F') : F'.OnPath g start := by
  induction hreaches with
  | refl => exact h
  | tail _ hcalls ih => exact ih.of_calls hfree hcalls

/-- **What is looked up lies on a path of references**, if there are no actions. -/
theorem path_of_looksUp (hfree : g.ActionFree) {start symbol : Text} {chance : γ}
    (h : (Frame.start start chance).LooksUp g symbol) : ∃ length, g.Path start length symbol := by
  obtain ⟨depth, s, hreaches, -, -⟩ := h
  have hstart : (Frame.start start chance).OnPath g start := .symbol rfl .start
  cases hstart.of_reaches hfree hreaches with
  | symbol hs path => exact ⟨depth, path⟩

/-! ### Locality -/

/-- **An expansion depends on what it looks up, and on nothing else.**  In a grammar that gives the
same rules to all symbols that are looked up, the result is the same but for suggestions, chance is
left in the same state, and on the way there are the same calls in the same states and the same
choices.  It is the same for any number of expansions one after the other, if their grammars are
edited where no choices lead to.  Without actions, choices lead only along references. -/
theorem expansion_local :
    (∀ (g g' : Grammar) (start : Text) (chance : γ),
      (∀ symbol, (Frame.start start chance).LooksUp g symbol → g.SameRules g' symbol) →
        (g.expand start chance).1.mapError GrammarError.withoutSuggestions
            = (g'.expand start chance).1.mapError GrammarError.withoutSuggestions ∧
          (g.expand start chance).2 = (g'.expand start chance).2 ∧
          (∀ F, (Frame.start start chance).Reaches g F ↔
            (Frame.start start chance).Reaches g' F) ∧
          ∀ chance' others, (Frame.start start chance).Chooses g chance' others ↔
            (Frame.start start chance).Chooses g' chance' others) ∧
    (∀ edits : List Edit, (∀ e ∈ edits, e.KeepsLookups γ) → ∀ chance : γ,
      (expandEach (edits.map fun e => (e.before, e.start)) chance).1.map
          (·.mapError GrammarError.withoutSuggestions)
        = (expandEach (edits.map fun e => (e.after, e.start)) chance).1.map
          (·.mapError GrammarError.withoutSuggestions) ∧
      (expandEach (edits.map fun e => (e.before, e.start)) chance).2
        = (expandEach (edits.map fun e => (e.after, e.start)) chance).2) ∧
    (∀ e : Edit, e.before.ActionFree →
      (∀ length symbol, e.before.Path e.start length symbol → e.before.SameRules e.after symbol) →
        e.KeepsLookups γ) := by
  refine ⟨fun g g' start chance hsame => ?_, expandEach_of_same, fun e hfree hpaths => ?_⟩
  · obtain ⟨hresult, hchance⟩ := expand_of_same hsame
    exact ⟨hresult, hchance, fun F => (Frame.start start chance).reaches_iff F hsame,
      fun chance' others => (Frame.start start chance).chooses_iff chance' others hsame⟩
  · intro chance symbol hlooks
    obtain ⟨length, path⟩ := path_of_looksUp hfree hlooks
    exact hpaths length symbol path

/-- The greeting with a symbol that nothing refers to. -/
def greetingMore : Grammar :=
  Grammar.ofRules [(startSymbol, ["Hi #name#!".toList]), ("name".toList, ["Ada".toList]),
    ("town".toList, ["#nowhere#".toList])]

/-- The edit that adds the symbol. -/
def addTown : Edit := ⟨Grammar.greeting, greetingMore, startSymbol⟩

/-- A symbol that the greeting does not lead to changes neither a first nor a second greeting. -/
theorem expansion_local_greeting :
    Grammar.greeting.ActionFree ∧
    (∀ length symbol, Grammar.greeting.Path startSymbol length symbol →
      Grammar.greeting.SameRules greetingMore symbol) ∧
    ∀ seed,
      (Grammar.greeting.expand startSymbol (Generator.ofSeed seed)).2
        = (greetingMore.expand startSymbol (Generator.ofSeed seed)).2 ∧
      (expandEach [(Grammar.greeting, startSymbol), (Grammar.greeting, startSymbol)]
          (Generator.ofSeed seed)).2
        = (expandEach [(greetingMore, startSymbol), (greetingMore, startSymbol)]
          (Generator.ofSeed seed)).2 := by
  have hpaths : ∀ length symbol, Grammar.greeting.Path startSymbol length symbol →
      Grammar.greeting.SameRules greetingMore symbol := by
    intro length symbol path
    rcases Grammar.path_greeting path with ⟨-, rfl⟩ | ⟨-, rfl⟩
    · rfl
    · rfl
  obtain ⟨hone, hmany, hfree⟩ := @expansion_local Generator _
  have hkeep : addTown.KeepsLookups Generator := hfree addTown Grammar.actionFree_greeting hpaths
  have hkeeps : ∀ e ∈ [addTown, addTown], e.KeepsLookups Generator := by
    intro e he
    rcases List.mem_pair.mp he with rfl | rfl
    · exact hkeep
    · exact hkeep
  refine ⟨Grammar.actionFree_greeting, hpaths, fun seed => ⟨?_, ?_⟩⟩
  · exact (hone _ _ _ _ (hkeep (Generator.ofSeed seed))).2.1
  · exact (hmany [addTown, addTown] hkeeps (Generator.ofSeed seed)).2

end Expansion

end GrammarBots

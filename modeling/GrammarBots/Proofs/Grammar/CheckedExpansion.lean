import GrammarBots.Proofs.Grammar.CheckedReaders
import GrammarBots.Proofs.Grammar.Runs
import GrammarBots.Proofs.Grammar.Termination

/-!
# Expansions never get stuck

`Call.perform?` is the body of the functions of an expansion once more, as a program that can get
stuck: it gets stuck when a counter of brackets would go below zero, when a slice is not cut between
characters, when it has to choose among no rules, when the rule that was chosen is not there as the
rules are looked up again, and when an empty list of rules lies on a stack after a push or a pop.
`Grammar.expand_never_stuck` says that none of this happens, for any grammar, start symbol and
sequence of choices: the program comes to what the expansion comes to.

* `Keeps`: every step keeps empty lists off the stacks.  An action pushes as many texts as it has
  rules, and it has one at least.
* `Follows`: the program ends with the result of the expansion and, if that is a success, in its
  state.  A tag whose symbol fails takes its pushes back before it fails as well, which only an
  expansion that goes on could notice; so after a failure no more is said of the stacks than that
  there are no empty lists on them.
* `Frame.follows_perform`: a call whose calls are followed is followed.
-/

namespace GrammarBots

namespace Expansion

variable {γ α β : Type}

/-! ### Stacks without empty lists -/

/-- No list of rules on a stack is empty. -/
def State.Stocked (s : State γ) : Prop := ∀ symbol, ∀ rules ∈ stack s.pushed symbol, rules ≠ []

theorem stocked_iff {s : State γ} : s.Stocked ↔ ∀ entry ∈ s.pushed, entry.2 ≠ [] := by
  simp only [State.Stocked, stack, List.mem_map, List.mem_filter, beq_iff_eq, forall_exists_index,
    and_imp]
  constructor
  · intro h entry hentry
    exact h entry.1 entry.2 entry hentry rfl rfl
  · rintro h symbol rules entry hentry - rfl
    exact h entry hentry

theorem stocked_nil (chance : γ) : (⟨[], chance⟩ : State γ).Stocked :=
  stocked_iff.mpr (List.forall_mem_nil _)

theorem State.Stocked.popped {s : State γ} (h : s.Stocked) (target : Text) :
    (s.popped target).Stocked :=
  stocked_iff.mpr fun entry hentry => stocked_iff.mp h entry (List.mem_of_mem_eraseP hentry)

theorem State.Stocked.foldl_popped {s : State γ} (h : s.Stocked) (targets : List Text) :
    (targets.foldl State.popped s).Stocked := by
  induction targets generalizing s with
  | nil => exact h
  | cons target targets ih => exact ih (h.popped target)

theorem State.Stocked.withPush {s : State γ} (h : s.Stocked) (target : Text) {rules : List Text}
    (hrules : rules ≠ []) : (s.withPush target rules).Stocked :=
  stocked_iff.mpr (List.forall_mem_cons.mpr ⟨hrules, stocked_iff.mp h⟩)

/-! ### Steps that keep empty lists off the stacks -/

/-- The step keeps empty lists off the stacks, and what it gives has the property `q`. -/
def Keeps (q : α → Prop) (x : Step γ α) : Prop :=
  ∀ s, s.Stocked → (x.run s).2.Stocked ∧ ∀ a, (x.run s).1 = .ok a → q a

namespace Keeps

theorem pure {q : α → Prop} {a : α} (ha : q a) : Keeps q (pure a : Step γ α) :=
  fun _ hs => ⟨hs, fun _ h => Except.ok.inj h ▸ ha⟩

theorem throw {q : α → Prop} (e : GrammarError) : Keeps q (throw e : Step γ α) :=
  fun _ hs => ⟨hs, fun _ h => nomatch h⟩

theorem bind {q : α → Prop} {r : β → Prop} {x : Step γ α} {f : α → Step γ β} (hx : Keeps q x)
    (hf : ∀ a, q a → Keeps r (f a)) : Keeps r (x >>= f) := by
  intro s hs
  obtain ⟨hstocked, hresult⟩ := hx s hs
  rw [run_bind]
  cases hrun : (x.run s).1 with
  | ok a => exact hf a (hresult a hrun) _ hstocked
  | error e => exact ⟨hstocked, fun _ h => nomatch h⟩

theorem map {q : α → Prop} {x : Step γ α} (hx : Keeps q x) (f : α → β) :
    Keeps (fun _ => True) (f <$> x) := by
  rw [map_eq_pure_bind]
  exact hx.bind fun _ _ => Keeps.pure trivial

theorem stocked_of_run {q : α → Prop} {x : Step γ α} (hx : Keeps q x) {s s' : State γ}
    (hs : s.Stocked) {result : Except GrammarError α} (hrun : x.run s = (result, s')) :
    s'.Stocked := by
  have hstocked := (hx s hs).1
  rwa [hrun] at hstocked

theorem get : Keeps (fun _ => True) (get : Step γ (State γ)) :=
  fun _ hs => ⟨hs, fun _ _ => trivial⟩

theorem pop (target : Text) : Keeps (fun _ => True) (pop target : Step γ Unit) :=
  fun _ hs => ⟨hs.popped target, fun _ _ => trivial⟩

theorem push (target : Text) {rules : List Text} (hrules : rules ≠ []) :
    Keeps (fun _ => True) (push target rules : Step γ Unit) :=
  fun _ hs => ⟨hs.withPush target hrules, fun _ _ => trivial⟩

theorem pops (targets : List Text) :
    Keeps (fun _ => True) (targets.forM Expansion.pop : Step γ Unit) := by
  intro s hs
  rw [run_pops]
  exact ⟨hs.foldl_popped targets, fun _ _ => trivial⟩

theorem orMalformed (text : Text) (read : Except RuleFault α) :
    Keeps (fun a => read = .ok a) (orMalformed text read : Step γ α) := by
  cases read with
  | ok a => exact Keeps.pure rfl
  | error fault => exact Keeps.throw _

/-- Steps over a list give as many results as the list has members. -/
theorem mapM {q : β → Prop} {f : α → Step γ β} (l : List α) (hf : ∀ a ∈ l, Keeps q (f a)) :
    Keeps (fun bs => bs.length = l.length) (l.mapM f) := by
  induction l with
  | nil => exact Keeps.pure rfl
  | cons a l ih =>
    obtain ⟨ha, hl⟩ := List.forall_mem_cons.mp hf
    rw [List.mapM_cons]
    exact ha.bind fun _ _ => (ih hl).bind fun bs hbs => Keeps.pure (congrArg (· + 1) hbs)

end Keeps

theorem keeps_ofSection {ask : Answers γ} (hask : ∀ depth c, Keeps (fun _ => True) (ask depth c))
    (depth : Nat) (part : Section) : Keeps (fun _ => True) (Call.ofSection ask depth part) := by
  cases part with
  | text t => exact Keeps.pure trivial
  | tag body => exact hask depth _
  | action body => exact (hask depth (.action body)).bind fun _ _ => Keeps.pure trivial

section
variable [Chooser γ] {g : Grammar} {ask : Answers γ}

theorem keeps_choose (n : Nat) : Keeps (fun _ => True) (choose n : Step γ (Fin (n + 1))) :=
  fun _ hs => ⟨hs, fun _ _ => trivial⟩

/-- A call keeps empty lists off the stacks if the calls that it makes do. -/
theorem keeps_perform (hask : ∀ depth c, Keeps (fun _ => True) (ask depth c)) (depth : Nat)
    (c : Call) : Keeps (fun _ => True) (c.perform g ask depth) := by
  cases c with
  | symbol name =>
    rw [Call.perform]
    split
    · exact Keeps.throw _
    · refine Keeps.get.bind fun s _ => ?_
      split
      · exact Keeps.throw _
      · exact (keeps_choose _).bind fun _ _ => hask _ _
  | rule r =>
    exact (Keeps.orMalformed r _).bind fun sections _ =>
      (Keeps.mapM sections fun part _ => keeps_ofSection hask depth part).map _
  | tag body =>
    refine (Keeps.orMalformed body _).bind fun tag _ => ?_
    have hactions := Keeps.mapM tag.actions fun action _ => hask depth (.action action)
    refine (hactions.map List.reduceOption).bind fun targets _ => ?_
    refine Keeps.bind (q := fun _ => True) ?_ fun text _ =>
      (Keeps.pops targets).bind fun _ _ => Keeps.pure trivial
    split
    · exact Keeps.pure trivial
    · exact (hask depth _).map _
  | action body =>
    refine (Keeps.orMalformed body _).bind fun action hread => ?_
    cases action with
    | pop target => exact (Keeps.pop target).bind fun _ _ => Keeps.pure trivial
    | push target rules =>
      have hrules := Keeps.mapM rules fun r _ => hask (depth + 1) (.rule r)
      refine hrules.bind fun texts htexts => (Keeps.push target ?_).bind fun _ _ =>
        Keeps.pure trivial
      rintro rfl
      exact Action.rules_ne_nil hread (List.length_eq_zero_iff.mp htexts.symm)

theorem keeps_unfold (hask : ∀ depth c, Keeps (fun _ => True) (ask depth c)) (n : Nat) :
    ∀ depth c, Keeps (fun _ => True) ((Answers.unfold g)^[n] ask depth c) := by
  induction n with
  | zero => exact hask
  | succ n ih =>
    rw [Function.iterate_succ_apply']
    exact keeps_perform ih

/-- **Every step of an expansion keeps empty lists off the stacks.** -/
theorem keeps_answers (g : Grammar) (depth : Nat) (c : Call) :
    Keeps (fun _ => True) (answers g depth c : Step γ c.Result) := by
  intro s hs
  obtain ⟨n, hn⟩ := Frame.exists_unfolding g (⟨depth, c, s⟩ : Frame γ)
  have hrun := hn n (Nat.le_refl n) fun _ _ => throw (.recursionLimit [] 0)
  have hkeeps := keeps_unfold (g := g) (fun _ _ => Keeps.throw (γ := γ) (.recursionLimit [] 0)) n
    depth c s hs
  rw [hrun] at hkeeps
  exact hkeeps

theorem keeps_expandSections (g : Grammar) (depth : Nat) (parts : List Section) :
    Keeps (fun _ => True) (expandSections g depth parts : Step γ Text) := by
  rw [expandSections_eq_mapM]
  exact (Keeps.mapM parts fun part _ => keeps_ofSection (keeps_answers g) depth part).map _

theorem keeps_runActions (g : Grammar) (depth : Nat) (bodies : List Text) :
    Keeps (fun _ => True) (runActions g depth bodies : Step γ (List Text)) := by
  rw [runActions_eq_mapM]
  exact (Keeps.mapM bodies fun body _ => keeps_answers g depth (.action body)).map _

theorem keeps_expandRules (g : Grammar) (depth : Nat) (rules : List Text) :
    Keeps (fun texts => texts.length = rules.length)
      (expandRules g depth rules : Step γ (List Text)) := by
  rw [expandRules_eq_mapM]
  exact Keeps.mapM rules fun r _ => keeps_answers g depth (.rule r)

theorem Frame.Calls.stocked {F F' : Frame γ} (h : F.Calls g F') (hF : F.state.Stocked) :
    F'.state.Stocked := by
  cases h with
  | chosenRule => exact hF
  | tagOfRule _ hfirst | actionOfRule _ hfirst =>
    exact (keeps_expandSections g _ _).stocked_of_run hF hfirst
  | actionOfTag _ _ hfirst | symbolOfTag _ _ hfirst =>
    exact (keeps_runActions g _ _).stocked_of_run hF hfirst
  | ruleOfAction _ hfirst => exact (keeps_expandRules g _ _).stocked_of_run hF hfirst

/-- **There is no empty list on a stack when a call is made.** -/
theorem Frame.Reaches.stocked {F F' : Frame γ} (h : F.Reaches g F') (hF : F.state.Stocked) :
    F'.state.Stocked := by
  induction h with
  | refl => exact hF
  | tail _ hcalls ih => exact hcalls.stocked ih

end

/-! ### Steps that can get stuck -/

/-- A step of an expansion that can get stuck. -/
abbrev Checked (γ α : Type) := ExceptT GrammarError (StateT (State γ) Option) α

namespace Checked

/-- The step that is stuck. -/
def stuck : Checked γ α := ExceptT.mk fun _ => none

theorem run_bind (x : Checked γ α) (f : α → Checked γ β) (s : State γ) :
    (x >>= f).run s = (x.run s).bind fun out => match out.1 with
      | .ok a => (f a).run out.2
      | .error e => some (.error e, out.2) := by
  show (x.run s).bind (fun out => ExceptT.bindCont f out.1 out.2) = _
  refine congrArg (x.run s).bind (funext fun out => ?_)
  cases out.1 <;> rfl

/-- A value that has to be there. -/
def require (a? : Option α) : Checked γ α := ExceptT.mk fun s => a?.map fun a => (.ok a, s)

/-- A step that cannot get stuck. -/
def lift (x : Step γ α) : Checked γ α := ExceptT.mk fun s => some (x.run s)

/-- What a step comes to, as its result; the errors of the step are results as well. -/
def attempt (x : Checked γ α) : Checked γ (Except GrammarError α) :=
  ExceptT.mk fun s => (x.run s).map fun (result, s) => (.ok result, s)

/-- Gets stuck if an empty list of rules lies on a stack. -/
def inspect : Checked γ Unit :=
  ExceptT.mk fun s => if s.pushed.all fun entry => !entry.2.isEmpty then some (.ok (), s) else none

/-- Puts rules on top of the stack of a symbol, and inspects the stacks. -/
def push (target : Text) (rules : List Text) : Checked γ Unit := do
  lift (Expansion.push target rules)
  inspect

/-- Takes the top off the stack of a symbol, and inspects the stacks. -/
def pop (target : Text) : Checked γ Unit := do
  lift (Expansion.pop target)
  inspect

/-- An index below the count, chosen at random; there has to be one. -/
def choose [Chooser γ] : (count : Nat) → Checked γ Nat
  | 0 => stuck
  | n + 1 => Fin.val <$> lift (Expansion.choose n)

end Checked

/-- The rules of a symbol, if it has any list of rules at all. -/
def rulesFor? (g : Grammar) (pushed : List (Text × List Text)) (symbol : Text) :
    Option (List Text) :=
  match pushed.lookup symbol with
  | some rules => some rules
  | none => g.rules? symbol

/-- A rule of a symbol, chosen at random.  The rules are looked up twice, once to count them and
once to read the one that was chosen, which has to be there. -/
def chooseRule [Chooser γ] (g : Grammar) (name : Text) : Checked γ Text := do
  let count := ((rulesFor? g (← get).pushed name).map List.length).getD 0
  if count = 0 then throw (g.unknownSymbol name)
  else
    let pick ← Checked.choose count
    match rulesFor? g (← get).pushed name with
    | none => return []
    | some rules => Checked.require rules[pick]?

/-- Something that answers calls and can get stuck. -/
abbrev CheckedAnswers (γ : Type) := (depth : Nat) → (c : Call) → Checked γ c.Result

namespace Call

/-- The text of a section, with its call answered. -/
def ofSection? (ask : CheckedAnswers γ) (depth : Nat) : Section → Checked γ Text
  | .text t => pure t
  | .tag body => ask depth (.tag body)
  | .action body => do
    let _ ← ask depth (.action body)
    return []

/-- What a call does, given the answers to the calls that it makes, with every counter, slice,
choice and index checked. -/
def perform? [Chooser γ] (g : Grammar) (ask : CheckedAnswers γ) (depth : Nat) :
    (c : Call) → Checked γ c.Result
  | .symbol name => do
    if maxNesting < depth then
      throw (.recursionLimit name maxNesting)
    else
      let rule ← chooseRule g name
      ask (depth + 1) (.rule rule)
  | .rule r => do
    let sections ← Checked.lift (orMalformed r (← Checked.require (Section.ofRule? r)))
    List.flatten <$> sections.mapM (ofSection? ask depth)
  | .tag body => do
    let tag ← Checked.lift (orMalformed body (← Checked.require (Tag.ofBody? body)))
    let targets ← List.reduceOption <$> tag.actions.mapM fun action => ask depth (.action action)
    -- The pushes are taken back even if the symbol fails.
    let text ← Checked.attempt (if tag.symbol = [] then pure [] else do
      let text ← ask depth (.symbol tag.symbol)
      Checked.require (Modifier.appliedAll? tag.modifiers text))
    targets.forM Checked.pop
    Checked.lift (ExceptT.mk (pure text))
  | .action body => do
    match ← Checked.lift (orMalformed body (Action.ofBody body)) with
    | .pop target => do
      Checked.pop target
      return none
    | .push target rules => do
      let expanded ← rules.mapM fun r => ask (depth + 1) (.rule r)
      Checked.push target expanded
      return some target

end Call

/-- One unfolding of the recursion of the checked bodies. -/
def CheckedAnswers.unfold [Chooser γ] (g : Grammar) (ask : CheckedAnswers γ) : CheckedAnswers γ :=
  fun depth c => c.perform? g ask depth

/-! ### Steps that follow an expansion -/

/-- A step did not get stuck and ended as a step of an expansion does: with the same result and, if
that is a success, in the same state.  After a failure the stacks may differ, but no empty list lies
on them. -/
inductive Follows : Option (Except GrammarError α × State γ) → Except GrammarError α × State γ →
    Prop where
  /-- A success. -/
  | ok (a : α) (s : State γ) : Follows (some (.ok a, s)) (.ok a, s)
  /-- A failure. -/
  | error (e : GrammarError) {s s' : State γ} (hchance : s'.chance = s.chance)
      (hstocked : s'.Stocked) : Follows (some (.error e, s')) (.error e, s)

namespace Follows

variable {x : Checked γ α} {y : Step γ α} {s : State γ}

theorem bind {f : α → Checked γ β} {f' : α → Step γ β} (hx : Follows (x.run s) (y.run s))
    (hf : ∀ a s', y.run s = (.ok a, s') → Follows ((f a).run s') ((f' a).run s')) :
    Follows ((x >>= f).run s) ((y >>= f').run s) := by
  rw [Checked.run_bind, run_bind]
  generalize hout : y.run s = out at hx hf
  generalize x.run s = out? at hx
  cases hx with
  | ok a s' => exact hf a s' rfl
  | error e hchance hstocked => exact .error e hchance hstocked

/-- The result and the choices are those of the expansion, whether it succeeds or fails. -/
theorem map_chance {out? : Option (Except GrammarError α × State γ)}
    {out : Except GrammarError α × State γ} (h : Follows out? out) :
    out?.map (Prod.map id State.chance) = some (out.map id State.chance) := by
  cases h with
  | ok a s => rfl
  | error e hchance hstocked => rw [Option.map_some, Prod.map, hchance, Prod.map]

theorem pure (a : α) (s : State γ) :
    Follows ((Pure.pure a : Checked γ α).run s) ((Pure.pure a : Step γ α).run s) := .ok a s

theorem map (hx : Follows (x.run s) (y.run s)) (f : α → β) :
    Follows ((f <$> x).run s) ((f <$> y).run s) := by
  rw [map_eq_pure_bind, map_eq_pure_bind]
  exact hx.bind fun a s' _ => .pure (f a) s'

theorem mapM {f : α → Checked γ β} {f' : α → Step γ β} (l : List α) (s : State γ)
    (h : ∀ first a rest bs between, l = first ++ a :: rest →
      (first.mapM f').run s = (.ok bs, between) →
      Follows ((f a).run between) ((f' a).run between)) :
    Follows ((l.mapM f).run s) ((l.mapM f').run s) := by
  induction l generalizing s with
  | nil => exact .pure [] s
  | cons a l ih =>
    rw [List.mapM_cons, List.mapM_cons]
    refine (h [] a l [] s rfl rfl).bind fun b between hb => ?_
    refine Follows.bind (ih between fun first c rest bs last hl hfirst => ?_) fun bs s' _ =>
      .pure (b :: bs) s'
    refine h (a :: first) c rest (b :: bs) last (by rw [hl, List.cons_append]) ?_
    rw [List.mapM_cons]
    exact run_bind_eq_ok.mpr ⟨b, between, hb, run_bind_eq_ok.mpr ⟨bs, last, hfirst, rfl⟩⟩

end Follows

/-! ### Inspections -/

theorem run_inspect {s : State γ} (hs : s.Stocked) :
    (Checked.inspect : Checked γ Unit).run s = some (.ok (), s) := by
  have hall : (s.pushed.all fun entry => !entry.2.isEmpty) = true := by
    rw [List.all_eq_true]
    intro entry hentry
    simpa using stocked_iff.mp hs entry hentry
  exact if_pos hall

theorem run_push? {s : State γ} (hs : s.Stocked) (target : Text) {rules : List Text}
    (hrules : rules ≠ []) :
    (Checked.push target rules).run s = some (.ok (), s.withPush target rules) := by
  rw [Checked.push, Checked.run_bind]
  exact run_inspect (hs.withPush target hrules)

theorem run_pop? {s : State γ} (hs : s.Stocked) (target : Text) :
    (Checked.pop target).run s = some (.ok (), s.popped target) := by
  rw [Checked.pop, Checked.run_bind]
  exact run_inspect (hs.popped target)

theorem run_pops? {s : State γ} (hs : s.Stocked) (targets : List Text) :
    (targets.forM Checked.pop).run s = some (.ok (), targets.foldl State.popped s) := by
  induction targets generalizing s with
  | nil => rfl
  | cons target targets ih =>
    show (Checked.pop target >>= fun _ => targets.forM Checked.pop).run s = _
    rw [Checked.run_bind, run_pop? hs]
    exact ih (hs.popped target)

theorem chance_foldl_popped (targets : List Text) (s : State γ) :
    (targets.foldl State.popped s).chance = s.chance := by
  induction targets generalizing s with
  | nil => rfl
  | cons target targets ih => exact ih (s.popped target)

/-- What is taken back after a success and after a failure follows what is taken back after a
success only. -/
theorem Follows.pops {x : Checked γ α} {y : Step γ α} {s : State γ}
    (hx : Follows (x.run s) (y.run s)) (hy : (y.run s).2.Stocked) (targets : List Text) :
    Follows
      ((do
        let result ← Checked.attempt x
        targets.forM Checked.pop
        Checked.lift (ExceptT.mk (Pure.pure result)) : Checked γ α).run s)
      ((do
        let a ← y
        targets.forM pop
        return a : Step γ α).run s) := by
  have hattempt : (Checked.attempt x).run s
      = (x.run s).map fun out => (.ok out.1, out.2) := rfl
  have hrest (result : Except GrammarError α) {s' : State γ} (hs' : s'.Stocked) :
      (targets.forM Checked.pop >>= fun _ => Checked.lift (ExceptT.mk (Pure.pure result))).run s'
        = some (result, targets.foldl State.popped s') := by
    rw [Checked.run_bind, run_pops? hs']
    rfl
  have hpops (a : α) (s' : State γ) :
      ((targets.forM pop : Step γ Unit) >>= fun _ => Pure.pure a).run s'
        = (.ok a, targets.foldl State.popped s') :=
    run_bind_eq_ok.mpr ⟨(), _, run_pops targets s', rfl⟩
  rw [Checked.run_bind, run_bind, hattempt]
  generalize y.run s = out at hx hy
  generalize x.run s = out? at hx
  cases hx with
  | ok a s' =>
    simp only [Option.map_some, Option.bind_some]
    rw [hrest (.ok a) hy, hpops]
    exact .ok a _
  | error e hchance hstocked =>
    simp only [Option.map_some, Option.bind_some]
    rw [hrest (.error e) hstocked]
    exact .error e ((chance_foldl_popped targets _).trans hchance) (hstocked.foldl_popped targets)

/-! ### Calls that are followed -/

/-- The checked step for a call follows the call. -/
def Frame.FollowedBy [Chooser γ] (g : Grammar) (ask : CheckedAnswers γ) (F : Frame γ) : Prop :=
  Follows ((ask F.depth F.call).run F.state) (F.outcome g)

section
variable [Chooser γ] {g : Grammar} {ask : CheckedAnswers γ} {depth : Nat} {s : State γ}

theorem follows_sections {rule : Text} {sections : List Section}
    (hread : Section.ofRule rule = .ok sections)
    (hcalls : ∀ F, Frame.Calls g ⟨depth, .rule rule, s⟩ F → F.FollowedBy g ask) :
    Follows ((List.flatten <$> sections.mapM (Call.ofSection? ask depth)).run s)
      ((expandSections g depth sections).run s) := by
  rw [expandSections_eq_mapM]
  refine Follows.map (.mapM sections s fun first part rest texts between hparts hrun => ?_) _
  rw [hparts] at hread
  have hfirst := run_expandSections_of_mapM hrun
  cases part with
  | text t => exact .pure t between
  | tag body => exact hcalls _ (.tagOfRule hread hfirst)
  | action body =>
    exact Follows.bind (hcalls _ (.actionOfRule hread hfirst)) fun _ s' _ => .pure [] s'

theorem follows_actions {body : Text} {tag : Tag} (hread : Tag.ofBody body = .ok tag)
    (hcalls : ∀ F, Frame.Calls g ⟨depth, .tag body, s⟩ F → F.FollowedBy g ask) :
    Follows
      ((List.reduceOption <$> tag.actions.mapM fun action => ask depth (.action action)).run s)
      ((runActions g depth tag.actions).run s) := by
  rw [runActions_eq_mapM]
  refine Follows.map
    (.mapM tag.actions s fun first action rest targets between hactions hrun => ?_) _
  have hfirst := run_runActions_of_mapM hrun
  exact hcalls _ (.actionOfTag hread hactions hfirst)

theorem follows_rules {body target : Text} {rules : List Text}
    (hread : Action.ofBody body = .ok (.push target rules))
    (hcalls : ∀ F, Frame.Calls g ⟨depth, .action body, s⟩ F → F.FollowedBy g ask) :
    Follows ((rules.mapM fun r => ask (depth + 1) (.rule r)).run s)
      ((expandRules g (depth + 1) rules).run s) := by
  rw [expandRules_eq_mapM]
  refine .mapM rules s fun first rule rest texts between hrules hrun => ?_
  rw [hrules] at hread
  have hfirst : (expandRules g (depth + 1) first).run s = (.ok texts, between) := by
    rw [expandRules_eq_mapM]
    exact hrun
  exact hcalls _ (.ruleOfAction hread hfirst)

theorem rulesFor_eq_getD (g : Grammar) (pushed : List (Text × List Text)) (name : Text) :
    rulesFor g pushed name = (rulesFor? g pushed name).getD [] := by
  rw [rulesFor?, rulesFor]
  cases pushed.lookup name <;> rfl

theorem run_chooseRule_unknown {name : Text} (hrules : rulesFor g s.pushed name = []) :
    (chooseRule g name : Checked γ Text).run s = some (.error (g.unknownSymbol name), s) := by
  have hget (f : State γ → Checked γ Text) : (get >>= f).run s = (f s).run s := rfl
  rw [chooseRule, hget]
  rw [rulesFor_eq_getD] at hrules
  cases h? : rulesFor? g s.pushed name with
  | none => rfl
  | some rules =>
    rw [h?, Option.getD_some] at hrules
    rw [hrules]
    rfl

/-- There is something to choose from, and the rule that was chosen is found again. -/
theorem run_chooseRule {name rule : Text} {others : List Text}
    (hrules : rulesFor g s.pushed name = rule :: others) :
    (chooseRule g name : Checked γ Text).run s =
      some (.ok ((rule :: others).get (Chooser.choose s.chance others.length).1),
        { s with chance := (Chooser.choose s.chance others.length).2 }) := by
  have h? : rulesFor? g s.pushed name = some (rule :: others) := by
    rw [rulesFor_eq_getD] at hrules
    cases h? : rulesFor? g s.pushed name with
    | none => rw [h?] at hrules; cases hrules
    | some rules => rw [h?, Option.getD_some] at hrules; rw [hrules]
  have hget (f : State γ → Checked γ Text) (s : State γ) : (get >>= f).run s = (f s).run s := rfl
  rw [chooseRule, hget, h?, Option.map_some, Option.getD_some, List.length_cons,
    if_neg (Nat.succ_ne_zero _), Checked.run_bind, Checked.choose]
  show ((get >>= _ : Checked γ Text).run _) = _
  rw [hget, h?]
  have hindex : (rule :: others)[(Chooser.choose s.chance others.length).1.val]?
      = some ((rule :: others).get (Chooser.choose s.chance others.length).1) :=
    List.getElem?_eq_getElem (Chooser.choose s.chance others.length).1.isLt
  show (Checked.require (rule :: others)[(Chooser.choose s.chance others.length).1.val]?).run _ = _
  rw [hindex]
  rfl

theorem follows_symbol {name : Text} (hs : s.Stocked)
    (hcalls : ∀ F, Frame.Calls g ⟨depth, .symbol name, s⟩ F → F.FollowedBy g ask) :
    Follows ((Call.perform? g ask depth (.symbol name)).run s)
      ((expandSymbol g depth name).run s) := by
  by_cases hdepth : maxNesting < depth
  · rw [Call.perform?, if_pos hdepth, run_expandSymbol_limit hdepth]
    exact .error _ rfl hs
  have hdepth := Nat.le_of_not_lt hdepth
  rw [Call.perform?, if_neg (Nat.not_lt_of_le hdepth), Checked.run_bind]
  cases hrules : rulesFor g s.pushed name with
  | nil =>
    rw [run_chooseRule_unknown hrules, run_expandSymbol_unknown hdepth hrules]
    exact .error _ rfl hs
  | cons rule others =>
    rw [run_chooseRule hrules, run_expandSymbol g hdepth hrules]
    exact hcalls _ (.chosenRule hdepth hrules)

/-- A tag takes back what its actions pushed, whether its symbol succeeds or fails. -/
theorem follows_tag {body : Text} (hs : s.Stocked)
    (hcalls : ∀ F, Frame.Calls g ⟨depth, .tag body, s⟩ F → F.FollowedBy g ask) :
    Follows ((Call.perform? g ask depth (.tag body)).run s) ((expandTag g depth body).run s) := by
  rw [Call.perform?, Tag.ofBody?_eq]
  cases hread : Tag.ofBody body with
  | error fault =>
    rw [expandTag_error hread]
    exact .error _ rfl hs
  | ok tag =>
    rw [expandTag_eq hread]
    refine (follows_actions hread hcalls).bind fun targets between hactions => ?_
    have hbetween : between.Stocked := (keeps_runActions g depth _).stocked_of_run hs hactions
    by_cases hsymbol : tag.symbol = []
    · rw [if_pos hsymbol, if_pos hsymbol]
      exact Follows.pops (.pure [] between) hbetween targets
    · rw [if_neg hsymbol, if_neg hsymbol]
      have hcall := hcalls _ (.symbolOfTag hread hsymbol hactions)
      have hkeeps := (keeps_answers g depth (.symbol tag.symbol)).map
        (Modifier.applyAll tag.modifiers) between hbetween
      refine Follows.pops ?_ hkeeps.1 targets
      rw [map_eq_pure_bind]
      refine Follows.bind hcall fun text s' _ => ?_
      rw [Modifier.appliedAll?_eq]
      exact .pure _ s'

/-- **A call is followed if the calls that it makes are.** -/
theorem Frame.follows_perform (F : Frame γ) (hs : F.state.Stocked)
    (hcalls : ∀ F', F.Calls g F' → F'.FollowedBy g ask) :
    Follows ((F.call.perform? g ask F.depth).run F.state) (F.outcome g) := by
  obtain ⟨depth, c, s⟩ := F
  cases c with
  | symbol name => exact follows_symbol hs hcalls
  | rule r =>
    show Follows _ ((expandRule g depth r).run s)
    rw [Call.perform?, Section.ofRule?_eq]
    cases hread : Section.ofRule r with
    | error fault =>
      rw [expandRule_error hread]
      exact .error _ rfl hs
    | ok sections =>
      rw [expandRule_eq hread]
      exact follows_sections hread hcalls
  | tag body => exact follows_tag hs hcalls
  | action body =>
    show Follows _ ((runAction g depth body).run s)
    rw [Call.perform?]
    cases hread : Action.ofBody body with
    | error fault =>
      rw [runAction_error hread]
      exact .error _ rfl hs
    | ok action =>
      cases action with
      | pop target =>
        rw [runAction_pop hread]
        show Follows ((Checked.pop target >>= fun _ => pure none).run s) _
        rw [Checked.run_bind, run_pop? hs]
        exact .ok none (s.popped target)
      | push target rules =>
        rw [runAction_push hread]
        refine (follows_rules hread hcalls).bind fun texts s' hrun => ?_
        obtain ⟨hstocked, hlength⟩ := keeps_expandRules g (depth + 1) rules s hs
        rw [hrun] at hstocked hlength
        have htexts : texts ≠ [] := by
          rintro rfl
          exact Action.rules_ne_nil hread (List.length_eq_zero_iff.mp (hlength [] rfl).symm)
        rw [Checked.run_bind, run_push? hstocked target htexts]
        exact .ok (some target) (s'.withPush target texts)

/-- **Finitely many unfoldings follow a call**, although the calls that are left get stuck. -/
theorem Frame.exists_followed (g : Grammar) (F : Frame γ) (hs : F.state.Stocked) :
    ∃ n, ∀ m, n ≤ m →
      F.FollowedBy g ((CheckedAnswers.unfold g)^[m] fun _ _ => Checked.stuck) := by
  induction F using Frame.induction γ g with
  | call F ih =>
    have ih F' (hcalls : F.Calls g F') := ih F' hcalls (hcalls.stocked hs)
    choose! unfoldings hunfoldings using ih
    obtain ⟨bound, hbound⟩ := (F.finite_calls.image unfoldings).bddAbove
    refine ⟨bound + 1, fun m hm => ?_⟩
    obtain ⟨k, rfl⟩ : ∃ k, m = k + 1 := ⟨m - 1, by omega⟩
    rw [Function.iterate_succ_apply']
    refine F.follows_perform hs fun F' hcalls => ?_
    have hle : unfoldings F' ≤ bound := hbound (Set.mem_image_of_mem unfoldings hcalls)
    exact hunfoldings F' hcalls k (by omega)

end

end Expansion

open Expansion in
/-- **Expansion never gets stuck**, whatever the grammar, the start symbol and the choices.  No
empty list of rules lies on a stack when a call is made or has been answered.  The counters of the
readers never go below zero, and slices are cut between characters, in any rule, tag and modifier.
The whole expansion, with all this checked and its calls unfolded often enough, comes to what the
expansion comes to: so it never chooses among no rules either, and finds the rule that it chose. -/
theorem Grammar.expand_never_stuck {γ : Type} [Chooser γ] (g : Grammar) (start : Text)
    (chance : γ) :
    (∀ F, (Frame.start start chance).Reaches g F → F.state.Stocked ∧ (F.outcome g).2.Stocked) ∧
    (∀ rule, Section.ofRule? rule = some (Section.ofRule rule)) ∧
    (∀ body, Tag.ofBody? body = some (Tag.ofBody body)) ∧
    (∀ modifiers text,
      Modifier.appliedAll? modifiers text = some (Modifier.applyAll modifiers text)) ∧
    ∃ n, ∀ m, n ≤ m →
      (((CheckedAnswers.unfold g)^[m] (fun _ _ => Checked.stuck) 0 (.symbol start)).run
          ⟨[], chance⟩).map (Prod.map id State.chance)
        = some (g.expand start chance) := by
  have hstart : (Frame.start start chance).state.Stocked := stocked_nil chance
  refine ⟨fun F hreaches => ?_, Section.ofRule?_eq, Tag.ofBody?_eq, Modifier.appliedAll?_eq, ?_⟩
  · have hF := hreaches.stocked hstart
    exact ⟨hF, (keeps_answers g F.depth F.call F.state hF).1⟩
  · obtain ⟨n, hn⟩ := Frame.exists_followed g (Frame.start start chance) hstart
    refine ⟨n, fun m hm => ?_⟩
    rw [expand_eq_outcome]
    exact (hn m hm).map_chance

end GrammarBots


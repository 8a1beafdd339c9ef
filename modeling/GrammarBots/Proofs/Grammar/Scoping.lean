import GrammarBots.Proofs.Grammar.Runs
import Mathlib.Data.List.Induction
import Mathlib.Data.Nat.PSub

/-!
# What a tag leaves on a stack

A tag that ends takes the pushes of its own actions back, but it does so by their targets alone: it
pops whatever is on top.  `Expansion.stack_after_tag` says what this leaves of a tag whose only
action pushes onto a symbol, in every run in which nothing else pops from that stack: what was there
before stays, and on top of it there are as many rule lists as actions of rules have pushed.  They
are those very lists if no action of a rule pushes onto the stack while a tag has a list of its own
there; else the list of the tag may be what stays (`Expansion.own_push_stays`).

The proof counts the lists on the stack that belong to a tag which has not ended (`openAfter`).
Every run takes back just what it leaves open (`Run.openAfter_eq`), so a tag that ends never takes
more off the stack than was pushed since it began (`exists_adds`).
-/

namespace GrammarBots

namespace Expansion

/-! ### The stack of a symbol -/

/-- The symbol whose stack an event is about. -/
def Event.target : Event → Text
  | .push _ target _ => target
  | .pop target => target
  | .drop target => target

/-- What an event does to the stack of a symbol. -/
def Event.effect (symbol : Text) (lists : List (List Text)) : Event → List (List Text)
  | .push _ target rules => if target = symbol then rules :: lists else lists
  | .pop target => if target = symbol then lists.tail else lists
  | .drop target => if target = symbol then lists.tail else lists

section
variable {γ : Type}

theorem stack_cons (target : Text) (rules : List Text) (pushed : List (Text × List Text))
    (symbol : Text) : stack ((target, rules) :: pushed) symbol
      = if target = symbol then rules :: stack pushed symbol else stack pushed symbol := by
  by_cases h : target = symbol <;> simp [stack, h]

theorem stack_popped (s : State γ) (target symbol : Text) :
    stack (s.popped target).pushed symbol
      = if target = symbol then (stack s.pushed symbol).tail else stack s.pushed symbol := by
  show stack (s.pushed.eraseP (·.1 == target)) symbol = _
  induction s.pushed with
  | nil => exact (ite_self []).symm
  | cons entry pushed ih =>
    obtain ⟨other, rules⟩ := entry
    by_cases hother : other = target
    · subst hother
      rw [List.eraseP_cons_of_pos (by simp), stack_cons]
      by_cases h : other = symbol <;> simp [h]
    · rw [List.eraseP_cons_of_neg (by simpa using hother), stack_cons, stack_cons, ih]
      by_cases h : target = symbol
      · simp [h, h ▸ hother]
      · simp [h]

theorem stack_foldl_popped (targets : List Text) (s : State γ) (symbol : Text) :
    stack (targets.foldl State.popped s).pushed symbol
      = (targets.map .drop).foldl (Event.effect symbol) (stack s.pushed symbol) := by
  induction targets generalizing s with
  | nil => rfl
  | cons target targets ih =>
    rw [List.foldl_cons, ih, stack_popped]
    rfl

end

variable {γ : Type} [Chooser γ] {g : Grammar} {depth : Nat} {task : Task} {s s' : State γ}
  {events : List Event} {result : List Text}

/-- The stack after a run is made from the stack before it by the events alone. -/
theorem Run.stack_eq (h : Run g depth task s events result s') (symbol : Text) :
    stack s'.pushed symbol = events.foldl (Event.effect symbol) (stack s.pushed symbol) := by
  induction h with
  | symbol _ _ _ ih => exact ih
  | rule _ _ ih => exact ih
  | noSections => rfl
  | text _ ih => exact ih
  | tagSection _ _ ihtag ihrest => rw [List.foldl_append, ← ihtag, ihrest]
  | actionSection _ _ ihaction ihrest => rw [List.foldl_append, ← ihaction, ihrest]
  | emptyTag _ _ _ ih => rw [stack_foldl_popped, List.foldl_append, ih]
  | tag _ _ _ _ ihactions ihexpand =>
    rw [stack_foldl_popped, List.foldl_append, List.foldl_append, ← ihactions, ihexpand]
  | noActions => rfl
  | actions _ _ ihaction ihrest => rw [List.foldl_append, ← ihaction, ihrest]
  | pop _ => exact stack_popped _ _ _
  | push _ _ ih =>
    rw [List.foldl_append, ← ih]
    exact stack_cons _ _ _ _
  | noRules => rfl
  | rules _ _ ihrule ihrest => rw [List.foldl_append, ← ihrule, ihrest]

/-! ### Tags that have not ended -/

/-- Counts the lists on the stack of a symbol that tags have pushed and not taken back; there is no
count if one is taken back that is not there. -/
def Event.opened (symbol : Text) (n : Nat) : Event → Option Nat
  | .push own target _ => if own ∧ target = symbol then some (n + 1) else some n
  | .pop _ => some n
  | .drop target => if target = symbol then n.ppred else some n

/-- The count after some events that began with the count `n`. -/
def openAfter (symbol : Text) (n : Nat) (events : List Event) : Option Nat :=
  events.foldlM (Event.opened symbol) n

/-- How many lists a task with the given result leaves for its tag to take back. -/
def Task.held (symbol : Text) : Task → List Text → Nat
  | .actions _, targets => targets.count symbol
  | .action true _, targets => targets.count symbol
  | _, _ => 0

theorem openAfter_append (symbol : Text) (n : Nat) (events later : List Event) :
    openAfter symbol n (events ++ later)
      = (openAfter symbol n events).bind (openAfter symbol · later) :=
  List.foldlM_append

/-- A tag takes back what it holds. -/
theorem openAfter_drops (symbol : Text) (n : Nat) (targets : List Text) :
    openAfter symbol (n + targets.count symbol) (targets.map .drop) = some n := by
  induction targets with
  | nil => rfl
  | cons target targets ih =>
    by_cases h : target = symbol
    · subst h
      simpa [openAfter, Event.opened, ← Nat.add_assoc] using ih
    · simpa [openAfter, Event.opened, h] using ih

/-- **A run takes back what it leaves open**, up to what its task holds for a tag around it. -/
theorem Run.openAfter_eq (h : Run g depth task s events result s') (symbol : Text) (n : Nat) :
    openAfter symbol n events = some (n + task.held symbol result) := by
  -- The symbol of a tag begins with the lists that the tag holds, so the count is arbitrary.
  induction h generalizing n with
  | symbol _ _ _ ih => exact ih n
  | rule _ _ ih => exact ih n
  | noSections => rfl
  | text _ ih => exact ih n
  | tagSection _ _ ihtag ihrest =>
    rw [openAfter_append, ihtag]
    exact ihrest n
  | actionSection _ _ ihaction ihrest =>
    rw [openAfter_append, ihaction]
    exact ihrest n
  | emptyTag _ _ _ ih =>
    rw [openAfter_append, ih]
    exact openAfter_drops symbol n _
  | tag _ _ _ _ ihactions ihexpand =>
    rw [openAfter_append, ihactions, Option.bind_some, openAfter_append, ihexpand]
    exact openAfter_drops symbol n _
  | noActions => rfl
  | actions _ _ ihaction ihrest =>
    rw [openAfter_append, ihaction, Option.bind_some, ihrest]
    simp only [Task.held, List.count_append, Nat.add_assoc]
  | @pop _ own => cases own <;> rfl
  | @push _ own _ target _ _ _ _ _ _ _ ih =>
    rw [openAfter_append, ih, Option.bind_some]
    cases own <;> by_cases htarget : target = symbol <;>
      simp [openAfter, Event.opened, Task.held, htarget]
  | noRules => rfl
  | rules _ _ ihrule ihrest =>
    rw [openAfter_append, ihrule]
    exact ihrest n

/-! ### Pushes that last -/

/-- The rule lists that actions of rules push onto the stack of a symbol, first push first. -/
def lasting (symbol : Text) (events : List Event) : List (List Text) :=
  events.filterMap fun
    | .push false target rules => if target = symbol then some rules else none
    | _ => none

/-- No action of a rule pushes onto the stack of the symbol while a tag has a list there. -/
def Apart (symbol : Text) (events : List Event) : Prop :=
  ∀ before after rules, events = before ++ .push false symbol rules :: after →
    openAfter symbol 0 before = some 0

theorem Apart.of_append {symbol : Text} {events later : List Event}
    (h : Apart symbol (events ++ later)) : Apart symbol events := by
  rintro before after rules rfl
  exact h before (after ++ later) rules (by simp)

theorem lasting_append (symbol : Text) (events later : List Event) :
    lasting symbol (events ++ later) = lasting symbol events ++ lasting symbol later :=
  List.filterMap_append

/-- Events of other symbols change nothing. -/
theorem Event.of_target_ne {symbol : Text} {event : Event} (h : event.target ≠ symbol) :
    (∀ lists, event.effect symbol lists = lists) ∧ (∀ n, event.opened symbol n = some n) ∧
      lasting symbol [event] = [] := by
  cases event with
  | push own target rules =>
    have htarget : target ≠ symbol := h
    refine ⟨fun _ => if_neg htarget, fun _ => if_neg fun hown => htarget hown.2, ?_⟩
    cases own <;> simp [lasting, htarget]
  | pop target => exact ⟨fun _ => if_neg h, fun _ => rfl, rfl⟩
  | drop target => exact ⟨fun _ => if_neg h, fun _ => if_neg h, rfl⟩

/-- The events put the given lists on the stack of the symbol, of which `n` belong to tags that have
not ended.  Nothing is lost, but lists may change places. -/
structure Adds (symbol : Text) (events : List Event) (n : Nat) (added : List (List Text)) :
    Prop where
  /-- What was there before stays below the lists. -/
  effect : ∀ lists, events.foldl (Event.effect symbol) lists = added ++ lists
  /-- There are as many as actions of rules have pushed, and those of tags that have not ended. -/
  length : added.length = n + (lasting symbol events).length
  /-- Below the latter are the very lists that actions of rules have pushed, if none of them was
  pushed while a tag had a list there. -/
  apart : Apart symbol events → added.drop n = (lasting symbol events).reverse

/-- One more event, other than a pop, keeps this up; what it does depends on the count before it. -/
theorem Adds.step {symbol : Text} {m n : Nat} {added : List (List Text)} {event : Event}
    (h : Adds symbol events m added) (hm : openAfter symbol 0 events = some m)
    (hevent : event.opened symbol m = some n) (hpop : event ≠ .pop symbol) :
    ∃ added', Adds symbol (events ++ [event]) n added' := by
  have hadds : ∀ added', (∀ lists, event.effect symbol (added ++ lists) = added' ++ lists) →
      added'.length = n + ((lasting symbol events).length + (lasting symbol [event]).length) →
      (Apart symbol (events ++ [event]) →
        added'.drop n = (lasting symbol [event]).reverse ++ (lasting symbol events).reverse) →
      ∃ added', Adds symbol (events ++ [event]) n added' := by
    intro added' heffect hlength hapart
    refine ⟨added', fun lists => ?_, ?_, fun h => ?_⟩
    · rw [List.foldl_append, h.effect]
      exact heffect lists
    · rw [lasting_append, List.length_append, hlength]
    · rw [lasting_append, List.reverse_append, hapart h]
  by_cases htarget : event.target = symbol
  case neg =>
    obtain ⟨heffect, hopened, hlasting⟩ := Event.of_target_ne htarget
    obtain rfl : m = n := Option.some.inj ((hopened m).symm.trans hevent)
    refine hadds added (fun lists => heffect _) ?_ fun hapart => ?_
    · rw [hlasting, h.length]
      rfl
    · rw [hlasting, h.apart hapart.of_append]
      rfl
  case pos =>
    subst htarget
    match event with
    | .push true target rules =>
      obtain rfl : m + 1 = n := by simpa [Event.opened, Event.target] using hevent
      refine hadds (rules :: added) (fun lists => if_pos rfl) ?_ fun hapart => ?_
      · rw [List.length_cons, h.length]
        exact Nat.add_right_comm _ _ _
      · exact h.apart hapart.of_append
    | .push false target rules =>
      obtain rfl : m = n := by simpa [Event.opened, Event.target] using hevent
      have hlasting : lasting target [.push false target rules] = [rules] := by simp [lasting]
      refine hadds (rules :: added) (fun lists => if_pos rfl) ?_ fun hapart => ?_
      · show _ = m + (_ + (lasting target _).length)
        rw [hlasting, List.length_cons, h.length]
        rfl
      · obtain rfl : m = 0 := Option.some.inj (hm.symm.trans (hapart events [] rules rfl))
        show _ = (lasting target _).reverse ++ _
        rw [hlasting, ← h.apart hapart.of_append]
        rfl
    | .pop target => exact absurd rfl hpop
    | .drop target =>
      obtain rfl : n + 1 = m := by simpa [Event.opened, Event.target] using hevent
      have hlength := h.length
      -- The tag has a list of its own on the stack, so there is one to take off.
      cases added with
      | nil =>
        rw [List.length_nil] at hlength
        omega
      | cons top added =>
        refine hadds added (fun lists => if_pos rfl) ?_ fun hapart => h.apart hapart.of_append
        rw [List.length_cons] at hlength
        show added.length = n + (_ + 0)
        omega

/-- **Nothing is lost from a stack** while nothing pops from it. -/
theorem exists_adds {symbol : Text} {n : Nat} (hopen : openAfter symbol 0 events = some n)
    (hpop : .pop symbol ∉ events) : ∃ added, Adds symbol events n added := by
  induction events using List.reverseRecOn generalizing n with
  | nil =>
    cases hopen
    exact ⟨[], fun _ => rfl, rfl, fun _ => rfl⟩
  | append_singleton events event ih =>
    rw [openAfter_append] at hopen
    obtain ⟨m, hm, hlast⟩ := Option.bind_eq_some_iff.mp hopen
    have hevent : event.opened symbol m = some n := by simpa [openAfter] using hlast
    obtain ⟨hpop, hne⟩ : .pop symbol ∉ events ∧ .pop symbol ≠ event := by simpa using hpop
    obtain ⟨added, hadds⟩ := ih hm hpop
    exact hadds.step hm hevent hne.symm

/-! ### A tag with one push -/

/-- Events of an expansion of the symbol of a tag, if there is one. -/
def SymbolEvents (g : Grammar) (depth : Nat) (symbol : Text) (s : State γ) (events : List Event)
    (s' : State γ) : Prop :=
  symbol = [] ∧ events = [] ∧ s' = s ∨
    symbol ≠ [] ∧ ∃ expanded, Run g depth (.symbol symbol) s events [expanded] s'

theorem SymbolEvents.openAfter_eq {symbol : Text}
    (h : SymbolEvents g depth symbol s events s') (target : Text) :
    openAfter target 0 events = some 0 := by
  rcases h with ⟨-, rfl, -⟩ | ⟨-, _, hrun⟩
  · rfl
  · exact hrun.openAfter_eq target 0

theorem Run.actions_of_push {action target : Text} {rules : List Text}
    (hpush : Action.ofBody action = .ok (.push target rules))
    (h : Run g depth (.actions [action]) s events result s') :
    result = [target] ∧ ∃ pre own between, Run g (depth + 1) (.rules rules) s pre own between ∧
      events = pre ++ [.push true target own] ∧ s' = between.withPush target own := by
  cases h with
  | actions haction hrest =>
    cases hrest
    cases haction with
    | pop hread => cases hpush.symm.trans hread
    | push hread hrules =>
      cases hpush.symm.trans hread
      exact ⟨rfl, _, _, _, hrules, List.append_nil _, rfl⟩

/-- A tag whose only action pushes runs the rules of the push, pushes their texts, expands its
symbol and pops. -/
theorem Run.tag_of_push {body action target : Text} {tag : Tag} {rules : List Text}
    (hread : Tag.ofBody body = .ok tag) (hactions : tag.actions = [action])
    (hpush : Action.ofBody action = .ok (.push target rules))
    (h : Run g depth (.tag body) s events result s') :
    ∃ pre own post between last, Run g (depth + 1) (.rules rules) s pre own between ∧
      SymbolEvents g depth tag.symbol (between.withPush target own) post last ∧
      events = pre ++ .push true target own :: (post ++ [.drop target]) ∧
      s' = last.popped target := by
  cases h with
  | emptyTag hread' hsymbol hrun =>
    cases hread.symm.trans hread'
    rw [hactions] at hrun
    obtain ⟨rfl, pre, own, between, hrules, rfl, rfl⟩ := hrun.actions_of_push hpush
    exact ⟨pre, own, [], between, _, hrules, Or.inl ⟨hsymbol, rfl, rfl⟩, by simp, rfl⟩
  | tag hread' hsymbol hrun hexpand =>
    cases hread.symm.trans hread'
    rw [hactions] at hrun
    obtain ⟨rfl, pre, own, between, hrules, rfl, rfl⟩ := hrun.actions_of_push hpush
    exact ⟨pre, own, _, between, _, hrules, Or.inr ⟨hsymbol, _, hexpand⟩, by simp, rfl⟩

/-- **What a tag with one push leaves on the stack.**  If nothing else pops from the stack, what was
there before stays, and on top of it there are as many lists as actions of rules have pushed in the
meantime; if none of them was pushed while a tag had a list of its own there, they are those lists.
In general the tag takes off whatever is on top, and that is its own list only if the symbol of the
tag left nothing on it. -/
theorem stack_after_tag {body action target text : Text} {tag : Tag} {rules : List Text}
    (hread : Tag.ofBody body = .ok tag) (hactions : tag.actions = [action])
    (hpush : Action.ofBody action = .ok (.push target rules))
    (hexpand : (expandTag g depth body).run s = (.ok text, s')) :
    (∃ events, Run g depth (.tag body) s events [text] s') ∧
      ∀ events, Run g depth (.tag body) s events [text] s' → .pop target ∉ events →
        (∃ added, stack s'.pushed target = added ++ stack s.pushed target ∧
          added.length = (lasting target events).length ∧
          (Apart target events → added = (lasting target events).reverse)) ∧
        ∃ pre own post between last, Run g (depth + 1) (.rules rules) s pre own between ∧
          SymbolEvents g depth tag.symbol (between.withPush target own) post last ∧
          events = pre ++ .push true target own :: (post ++ [.drop target]) ∧
          (Apart target pre → Apart target post → stack s'.pushed target
            = ((lasting target post).reverse
                ++ own :: ((lasting target pre).reverse ++ stack s.pushed target)).tail) := by
  have hrun : ((Task.tag body).step g depth).run s = (.ok [text], s') :=
    run_singleton_eq_ok.mpr ⟨text, hexpand, rfl⟩
  refine ⟨exists_run_iff.mpr hrun, fun events h hpop => ⟨?_, ?_⟩⟩
  · obtain ⟨added, hadds⟩ := exists_adds (h.openAfter_eq target 0) hpop
    rw [h.stack_eq target, hadds.effect]
    exact ⟨added, rfl, by simpa [Task.held] using hadds.length, hadds.apart⟩
  · obtain ⟨pre, own, post, between, last, hrules, hsymbol, rfl, rfl⟩ :=
      h.tag_of_push hread hactions hpush
    refine ⟨pre, own, post, between, last, hrules, hsymbol, rfl, fun hpre hpost => ?_⟩
    have hnever : .pop target ∉ pre ∧ .pop target ∉ post := by
      constructor <;> intro hmem <;> exact hpop (by simp [hmem])
    obtain ⟨first, hfirst⟩ := exists_adds (hrules.openAfter_eq target 0) hnever.1
    obtain rfl : first = _ := hfirst.apart hpre
    obtain ⟨second, hsecond⟩ := exists_adds (hsymbol.openAfter_eq target) hnever.2
    obtain rfl : second = _ := hsecond.apart hpost
    rw [h.stack_eq target, List.foldl_append, List.foldl_cons, List.foldl_append, hfirst.effect]
    simp only [Event.effect, if_true, hsecond.effect, List.foldl_cons, List.foldl_nil]

/-! ### Pushes while a tag is expanded -/

/-- A symbol with one rule is expanded by this rule. -/
theorem Run.symbol_of_single {name rule : Text} (hdepth : depth ≤ maxNesting)
    (hrules : rulesFor g s.pushed name = [rule])
    (h : Run g (depth + 1) (.rule rule) { s with chance := (Chooser.choose s.chance 0).2 } events
      result s') : Run g depth (.symbol name) s events result s' := by
  refine .symbol hdepth hrules ?_
  have hchosen : [rule].get (Chooser.choose s.chance 0).1 = rule :=
    List.mem_singleton.mp (List.get_mem _ _)
  simp only [List.length_nil, hchosen]
  exact h

/-- A grammar whose symbol `s` pushes onto `t`. -/
def scoping : Grammar := Grammar.ofRules
  [(startSymbol, ["#[t:a]s##t#".toList]), ("s".toList, ["[t:b]x".toList]),
    ("t".toList, ["z".toList])]

/-- The text of a rule without delimiters. -/
theorem run_rule_text {rule : Text} (hread : Section.ofRule rule = .ok [.text rule]) :
    Run g depth (.rule rule) s [] [rule] s := by
  have h : Run g depth (.sections [.text rule]) s [] [rule ++ []] s := .text .noSections
  rw [List.append_nil] at h
  exact .rule hread h

/-- The symbol `s` pushes onto `t`, unless it is itself pushed. -/
theorem run_scoping_s (hdepth : depth ≤ maxNesting)
    (hrules : rulesFor scoping s.pushed "s".toList = ["[t:b]x".toList]) :
    Run scoping depth (.symbol "s".toList) s [.push false "t".toList ["b".toList]] ["x".toList]
      (State.withPush { s with chance := (Chooser.choose s.chance 0).2 } "t".toList
        ["b".toList]) := by
  have hread : Section.ofRule "[t:b]x".toList = .ok [.action "t:b".toList, .text "x".toList] := rfl
  have haction : Action.ofBody "t:b".toList = .ok (.push "t".toList ["b".toList]) := rfl
  refine .symbol_of_single hdepth hrules (.rule hread ?_)
  exact .actionSection (.push haction (.rules (run_rule_text rfl) .noRules)) (.text .noSections)

theorem ofBody_tag_push_first :
    Tag.ofBody "[t:#s#]t".toList = .ok ⟨["t:#s#".toList], "t".toList, []⟩ := by cbv

theorem ofBody_push_first :
    Action.ofBody "t:#s#".toList = .ok (.push "t".toList ["#s#".toList]) := rfl

/-- If the rule of the push is `#s#`, then what `s` pushes comes before the list of the tag. -/
theorem run_push_first {s : State γ} (hpushed : s.pushed = []) : ∃ s',
    Run scoping 1 (.tag "[t:#s#]t".toList) s [.push false "t".toList ["b".toList],
      .push true "t".toList ["x".toList], .drop "t".toList] ["x".toList] s' := by
  have hrule : Section.ofRule "#s#".toList = .ok [.tag "s".toList] := rfl
  have hname : Tag.ofBody "s".toList = .ok ⟨[], "s".toList, []⟩ := by cbv
  have hs : rulesFor scoping s.pushed "s".toList = ["[t:b]x".toList] := by
    rw [hpushed]
    rfl
  have hsections : Run scoping 2 (.sections [.tag "s".toList]) s
      [.push false "t".toList ["b".toList]] ["x".toList] _ :=
    .tagSection (.tag hname (by decide) .noActions (run_scoping_s (by decide) hs)) .noSections
  have hrules := Run.rules (.rule hrule hsections) .noRules
  have hactions := Run.actions (.push ofBody_push_first hrules) .noActions
  have htag := Run.tag ofBody_tag_push_first (by decide) hactions
    (.symbol_of_single (by decide) rfl (run_rule_text rfl))
  exact ⟨_, htag⟩

theorem apart_push_first (own : List Text) (later : List Event)
    (h : ∀ rules, .push false "t".toList rules ∉ later) :
    Apart "t".toList (.push false "t".toList own :: later) := by
  intro before after rules heq
  cases before with
  | nil => rfl
  | cons event before =>
    refine absurd ?_ (h rules)
    rw [(List.cons.inj heq).2]
    simp

/-- What `s` has pushed stays, and the list of the tag does not. -/
theorem stack_after_tag_push_first : ∃ s' : State Generator,
    (expandTag scoping 1 "[t:#s#]t".toList).run ⟨[], Generator.ofSeed 7⟩ = (.ok "x".toList, s') ∧
      stack s'.pushed "t".toList = [["b".toList]] := by
  have hpushed : (⟨[], Generator.ofSeed 7⟩ : State Generator).pushed = [] := rfl
  obtain ⟨s', hrun⟩ := run_push_first hpushed
  obtain ⟨text, hexpand, heq⟩ := run_singleton_eq_ok.mp hrun.step_eq
  cases heq
  obtain ⟨-, hstack⟩ := stack_after_tag ofBody_tag_push_first rfl ofBody_push_first hexpand
  obtain ⟨⟨added, hadded, -, hapart⟩, -⟩ := hstack _ hrun (by simp)
  refine ⟨s', hexpand, ?_⟩
  rw [hadded, hapart (apart_push_first _ _ (by simp))]
  rfl

/-- If `s` is expanded while the tag has its list on the stack, then what `s` pushes is on top when
the tag ends. -/
theorem run_push_later (chance : γ) : ∃ chance',
    Run scoping 1 (.tag "[t:a]s".toList) ⟨[], chance⟩ [.push true "t".toList ["a".toList],
      .push false "t".toList ["b".toList], .drop "t".toList] ["x".toList]
      ⟨[("t".toList, ["a".toList])], chance'⟩ := by
  have hread : Tag.ofBody "[t:a]s".toList = .ok ⟨["t:a".toList], "s".toList, []⟩ := by cbv
  have haction : Action.ofBody "t:a".toList = .ok (.push "t".toList ["a".toList]) := rfl
  have hrules : Run scoping 2 (.rules ["a".toList]) (⟨[], chance⟩ : State γ) [] ["a".toList] _ :=
    .rules (run_rule_text rfl) .noRules
  have hactions := Run.actions (.push haction hrules) .noActions
  exact ⟨_, .tag hread (by decide) hactions (run_scoping_s (by decide) rfl)⟩

/-- The tag `#t#` after that reads the list that was to be the tag's own. -/
theorem expand_scoping (chance : γ) : (scoping.expand startSymbol chance).1 = .ok "xa".toList := by
  have hread : Section.ofRule "#[t:a]s##t#".toList
      = .ok [.tag "[t:a]s".toList, .tag "t".toList] := rfl
  have hname : Tag.ofBody "t".toList = .ok ⟨[], "t".toList, []⟩ := by cbv
  obtain ⟨chance', hfirst⟩ := run_push_later (Chooser.choose chance 0).2
  have hsymbol : Run scoping 1 (.symbol "t".toList)
      (⟨[("t".toList, ["a".toList])], chance'⟩ : State γ) [] ["a".toList] _ :=
    .symbol_of_single (by decide) rfl (run_rule_text rfl)
  have hsections := Run.tagSection hfirst
    (.tagSection (.tag hname (by decide) .noActions hsymbol) .noSections)
  have hstart : Run scoping 0 (.symbol startSymbol) (⟨[], chance⟩ : State γ) _ ["xa".toList] _ :=
    .symbol_of_single (by decide) rfl (.rule hread hsections)
  obtain ⟨text, hexpand, heq⟩ := run_singleton_eq_ok.mp hstart.step_eq
  cases heq
  rw [Grammar.expand_fst, hexpand]

/-- **A tag's own push may stay.**  While `s` is expanded, an action of its rule pushes the list
`b` onto `t` and nothing pops, but the tag then takes off this list and leaves its own. -/
theorem own_push_stays :
    Tag.ofBody "[t:a]s".toList = .ok ⟨["t:a".toList], "s".toList, []⟩ ∧
      Action.ofBody "t:a".toList = .ok (.push "t".toList ["a".toList]) ∧
      (∀ seed, ∃ events s', Run scoping 1 (.tag "[t:a]s".toList)
          (⟨[], Generator.ofSeed seed⟩ : State Generator) events ["x".toList] s' ∧
        .pop "t".toList ∉ events ∧ lasting "t".toList events = [["b".toList]] ∧
        stack s'.pushed "t".toList = [["a".toList]]) ∧
      ∀ seed, (scoping.expand startSymbol (Generator.ofSeed seed)).1 = .ok "xa".toList := by
  refine ⟨by cbv, rfl, fun seed => ?_, fun seed => expand_scoping _⟩
  obtain ⟨chance', hrun⟩ := run_push_later (Generator.ofSeed seed)
  exact ⟨_, _, hrun, by simp, rfl, rfl⟩

end Expansion

end GrammarBots

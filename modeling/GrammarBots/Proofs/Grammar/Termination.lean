import GrammarBots.Proofs.Grammar.Agreement
import Mathlib

/-!
# Expansions end

Every call is answered by finitely many calls, whatever the grammar says and whatever chance
chooses.  A call makes at most one call from each place in its text (`Frame.finite_calls`), and
along every call the measure decreases, so the calls that are made directly or indirectly are
finitely many (`Frame.finite_reaches`).  `Answers.unfold` unfolds the recursion once; unfolding it a
finite number of times is all that a call needs, whatever answers the calls below
(`Frame.exists_unfolding`).

`expansion_terminates` states all of this, together with the measure that decreases.
-/

namespace GrammarBots

namespace Expansion

variable {γ : Type} [Chooser γ] {g : Grammar}

/-! ### Finitely many calls -/

/-- A list has finitely many places, and what is made at each of them is one thing at most. -/
theorem finite_places {α β : Type} (l : List α) (made? : List α → α → Option β) :
    {b | ∃ first a rest, l = first ++ a :: rest ∧ made? first a = some b}.Finite := by
  induction l generalizing made? with
  | nil =>
    refine Set.finite_empty.subset ?_
    rintro b ⟨first, a, rest, hl, -⟩
    exact absurd hl.symm (List.append_ne_nil_of_right_ne_nil first (List.cons_ne_nil a rest))
  | cons head l ih =>
    have hhead : {b | made? [] head = some b}.Finite :=
      Set.Subsingleton.finite fun b hb b' hb' => Option.some.inj (hb.symm.trans hb')
    have hrest := ih fun first => made? (head :: first)
    refine (hhead.union hrest).subset ?_
    rintro b ⟨first, a, rest, hl, hb⟩
    rcases first with - | ⟨c, first⟩
    · obtain ⟨rfl, rfl⟩ := List.cons.inj hl
      exact Or.inl hb
    · obtain ⟨rfl, hrest⟩ := List.cons.inj hl
      exact Or.inr ⟨first, a, rest, hrest, hb⟩

/-- The call that a section makes. -/
def callOfSection? : Section → Option Call
  | .text _ => none
  | .tag body => some (.tag body)
  | .action body => some (.action body)

section
variable (g : Grammar) (depth : Nat) (s : State γ)

theorem finite_calls_rule (r : Text) : {F | Frame.Calls g ⟨depth, .rule r, s⟩ F}.Finite := by
  cases hread : Section.ofRule r with
  | error fault =>
    refine Set.finite_empty.subset fun F hcalls => ?_
    cases hcalls with
    | tagOfRule hread' => rw [hread] at hread'; cases hread'
    | actionOfRule hread' => rw [hread] at hread'; cases hread'
  | ok sections =>
    refine (finite_places sections fun first part => (callOfSection? part).map fun c =>
      (⟨depth, c, ((expandSections g depth first).run s).2⟩ : Frame γ)).subset fun F hcalls => ?_
    cases hcalls with
    | @tagOfRule _ _ body _ first rest _ _ hread' hfirst =>
      rw [hread] at hread'
      exact ⟨first, .tag body, rest, Except.ok.inj hread', by rw [hfirst]; rfl⟩
    | @actionOfRule _ _ body _ first rest _ _ hread' hfirst =>
      rw [hread] at hread'
      exact ⟨first, .action body, rest, Except.ok.inj hread', by rw [hfirst]; rfl⟩

theorem finite_calls_tag (body : Text) : {F | Frame.Calls g ⟨depth, .tag body, s⟩ F}.Finite := by
  cases hread : Tag.ofBody body with
  | error fault =>
    refine Set.finite_empty.subset fun F hcalls => ?_
    cases hcalls with
    | actionOfTag hread' => rw [hread] at hread'; cases hread'
    | symbolOfTag hread' => rw [hread] at hread'; cases hread'
  | ok tag =>
    have hactions := finite_places tag.actions fun first action =>
      some (⟨depth, .action action, ((runActions g depth first).run s).2⟩ : Frame γ)
    have hsymbol := Set.finite_singleton
      (⟨depth, .symbol tag.symbol, ((runActions g depth tag.actions).run s).2⟩ : Frame γ)
    refine (hactions.union hsymbol).subset fun F hcalls => ?_
    cases hcalls with
    | @actionOfTag _ _ action _ first rest _ _ _ hread' hactions' hfirst =>
      rw [hread] at hread'
      obtain rfl := Except.ok.inj hread'
      exact Or.inl ⟨first, action, rest, hactions', by rw [hfirst]⟩
    | symbolOfTag hread' _ hrun =>
      rw [hread] at hread'
      obtain rfl := Except.ok.inj hread'
      exact Or.inr (by rw [hrun]; rfl)

theorem finite_calls_action (body : Text) :
    {F | Frame.Calls g ⟨depth, .action body, s⟩ F}.Finite := by
  by_cases hread : ∃ target rules, Action.ofBody body = .ok (.push target rules)
  · obtain ⟨target, rules, hread⟩ := hread
    refine (finite_places rules fun first r =>
      some (⟨depth + 1, .rule r, ((expandRules g (depth + 1) first).run s).2⟩ : Frame γ)).subset
      fun F hcalls => ?_
    cases hcalls with
    | @ruleOfAction _ _ _ r first rest _ _ _ hread' hfirst =>
      rw [hread] at hread'
      obtain ⟨rfl, hrules⟩ := Action.push.inj (Except.ok.inj hread')
      exact ⟨first, r, rest, hrules, by rw [hfirst]⟩
  · refine Set.finite_empty.subset fun F hcalls => ?_
    cases hcalls with
    | ruleOfAction hread' => exact hread ⟨_, _, hread'⟩

theorem finite_calls_symbol (name : Text) :
    {F | Frame.Calls g ⟨depth, .symbol name, s⟩ F}.Finite := by
  refine Set.Subsingleton.finite fun F hcalls F' hcalls' => ?_
  cases hcalls with
  | chosenRule _ hrules =>
    cases hcalls' with
    | chosenRule _ hrules' =>
      obtain ⟨rfl, rfl⟩ := List.cons.inj (hrules.symm.trans hrules')
      rfl

end

/-- A call makes finitely many calls: at most one from each place in its text. -/
theorem Frame.finite_calls (F : Frame γ) : {F' | F.Calls g F'}.Finite := by
  obtain ⟨depth, c, s⟩ := F
  cases c with
  | symbol name => exact finite_calls_symbol g depth s name
  | rule r => exact finite_calls_rule g depth s r
  | tag body => exact finite_calls_tag g depth s body
  | action body => exact finite_calls_action g depth s body

/-- The calls that are made directly or indirectly are finitely many. -/
theorem Frame.finite_reaches (F : Frame γ) : {F' | F.Reaches g F'}.Finite := by
  induction F using Frame.induction γ g with
  | call F ih =>
    have hsubset : {F' | F.Reaches g F'} ⊆
        {F} ∪ ⋃ F₁ ∈ {F₁ | F.Calls g F₁}, {F' | F₁.Reaches g F'} := by
      intro F' hreaches
      rcases Relation.ReflTransGen.cases_head hreaches with rfl | ⟨F₁, hcalls, hrest⟩
      · exact Or.inl rfl
      · exact Or.inr (Set.mem_biUnion hcalls hrest)
    have hbelow := F.finite_calls.biUnion ih
    exact ((Set.finite_singleton F).union hbelow).subset hsubset

/-! ### Unfolding the recursion -/

/-- One unfolding of the recursion: calls are answered by the bodies, and the calls that these make
by what is given. -/
def Answers.unfold (g : Grammar) (ask : Answers γ) : Answers γ := fun depth c =>
  c.perform g ask depth

/-- **Finitely many unfoldings answer a call**, whatever answers the calls that are left. -/
theorem Frame.exists_unfolding (g : Grammar) (F : Frame γ) :
    ∃ n, ∀ m, n ≤ m → ∀ ask : Answers γ,
      ((Answers.unfold g)^[m] ask F.depth F.call).run F.state = F.outcome g := by
  induction F using Frame.induction γ g with
  | call F ih =>
    choose! unfoldings hunfoldings using ih
    -- One more unfolding than the calls that are made need; these are finitely many.
    obtain ⟨bound, hbound⟩ := (F.finite_calls.image unfoldings).bddAbove
    refine ⟨bound + 1, fun m hm ask => ?_⟩
    obtain ⟨k, rfl⟩ : ∃ k, m = k + 1 := ⟨m - 1, by omega⟩
    rw [Function.iterate_succ_apply']
    refine F.run_perform fun F' hcalls => ?_
    have hle : unfoldings F' ≤ bound := hbound (Set.mem_image_of_mem unfoldings hcalls)
    exact hunfoldings F' hcalls k (by omega) ask

/-- **Expansion ends**, for every grammar, from every call and state, whatever chance chooses: along
every call the levels left, the length of the text and the rank of the function decrease
lexicographically; so no chain of calls is infinite, and a call leads to finitely many calls in all.
The calls are all that a call waits for, so that the bodies of the functions, unfolded finitely
often, already say what a call comes to, and what a symbol of a grammar expands to. -/
theorem expansion_terminates (g : Grammar) :
    (∀ F F' : Frame γ, F.Calls g F' →
      Prod.Lex (· < ·) (Prod.Lex (· < ·) (· < ·)) F'.measure F.measure) ∧
    (WellFounded fun F' F : Frame γ => F.Calls g F') ∧
    (∀ F : Frame γ, {F' | F.Reaches g F'}.Finite) ∧
    (∀ (F : Frame γ) (ask : Answers γ),
      (∀ F', F.Calls g F' → (ask F'.depth F'.call).run F'.state = F'.outcome g) →
        (F.call.perform g ask F.depth).run F.state = F.outcome g) ∧
    (∀ F : Frame γ, ∃ n, ∀ m, n ≤ m → ∀ ask : Answers γ,
      ((Answers.unfold g)^[m] ask F.depth F.call).run F.state = F.outcome g) ∧
    (∀ (start : Text) (chance : γ), ∃ n, ∀ m, n ≤ m → ∀ ask : Answers γ,
      (((Answers.unfold g)^[m] ask 0 (.symbol start)).run ⟨[], chance⟩).map id State.chance
        = g.expand start chance) := by
  refine ⟨fun F F' hcalls => hcalls.measure_lt, calls_wellFounded g, Frame.finite_reaches,
    fun F ask hask => F.run_perform hask, Frame.exists_unfolding g, fun start chance => ?_⟩
  obtain ⟨n, hn⟩ := Frame.exists_unfolding g (Frame.start start chance)
  refine ⟨n, fun m hm ask => ?_⟩
  rw [expand_eq_outcome]
  exact congrArg (Prod.map id State.chance) (hn m hm ask)

/-- A grammar that only refers to itself. -/
def echo : Grammar := Grammar.ofRules [(startSymbol, ["#origin#".toList])]

/-- The symbol is all that its tag says, so only the rank decreases; a rule that is pushed beyond
the limit has no level left to lose, but less text. -/
theorem expansion_terminates_echo :
    (∀ s : State Generator,
      Frame.Calls echo ⟨1, .tag startSymbol, s⟩ ⟨1, .symbol startSymbol, s⟩ ∧
        Prod.Lex (· < ·) (Prod.Lex (· < ·) (· < ·)) (64, 6, 0) (64, 6, 1)) ∧
    (∀ s : State Generator,
      Frame.Calls echo ⟨65, .action "x:#origin#".toList, s⟩ ⟨66, .rule "#origin#".toList, s⟩ ∧
        Prod.Lex (· < ·) (Prod.Lex (· < ·) (· < ·)) (0, 8, 1) (0, 10, 1)) ∧
    ∀ seed, ∃ n, ∀ m, n ≤ m → ∀ ask : Answers Generator,
      (((Answers.unfold echo)^[m] ask 0 (.symbol startSymbol)).run
          ⟨[], Generator.ofSeed seed⟩).map id State.chance
        = echo.expand startSymbol (Generator.ofSeed seed) := by
  have htag : Tag.ofBody startSymbol = .ok ⟨[], startSymbol, []⟩ := by cbv
  have haction : Action.ofBody "x:#origin#".toList
      = .ok (.push "x".toList ([] ++ "#origin#".toList :: [])) := by cbv
  obtain ⟨hmeasure, -, -, -, -, hexpand⟩ := @expansion_terminates Generator _ echo
  refine ⟨fun s => ?_, fun s => ?_, fun seed => hexpand startSymbol (Generator.ofSeed seed)⟩
  · have hcalls : Frame.Calls echo ⟨1, .tag startSymbol, s⟩ ⟨1, .symbol startSymbol, s⟩ :=
      .symbolOfTag htag (by decide) (run_runActions_nil s)
    exact ⟨hcalls, hmeasure _ _ hcalls⟩
  · have hcalls : Frame.Calls echo ⟨65, .action "x:#origin#".toList, s⟩
        ⟨66, .rule "#origin#".toList, s⟩ :=
      .ruleOfAction haction (run_expandRules_nil s)
    exact ⟨hcalls, hmeasure _ _ hcalls⟩

end Expansion

end GrammarBots

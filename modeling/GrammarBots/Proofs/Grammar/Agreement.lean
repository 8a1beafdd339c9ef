import GrammarBots.Proofs.Grammar.Calls

/-!
# Agreement of expansions

Two steps agree in a state if they end in the same state, with the same result or with errors that
are related (`AgreeAt`).  What a call does depends on the calls that it makes and, if it expands a
symbol, on the rules of that symbol, and on nothing else: `Frame.perform_agree` compares a call with
its body in another grammar, whose calls are answered by something else, and needs no more than that
the answers to the calls agree.

The loops over sections, actions and rules are all `List.mapM`, so that one lemma carries agreement
along them (`AgreeAt.mapM`): each member of the list is taken in the state that the members before
it lead to, which is the state that the call is made in.
-/

namespace GrammarBots

namespace Expansion

variable {γ α β : Type}

/-! ### Steps that agree -/

/-- The same result, or errors that are related. -/
inductive SameUpTo (related : GrammarError → GrammarError → Prop) :
    Except GrammarError α → Except GrammarError α → Prop where
  /-- The same result. -/
  | ok (a : α) : SameUpTo related (.ok a) (.ok a)
  /-- Related errors. -/
  | error {e e' : GrammarError} (h : related e e') : SameUpTo related (.error e) (.error e')

theorem SameUpTo.refl {related : GrammarError → GrammarError → Prop} (hrefl : ∀ e, related e e)
    (x : Except GrammarError α) : SameUpTo related x x := by
  cases x with
  | ok a => exact .ok a
  | error e => exact .error (hrefl e)

theorem SameUpTo.eq {x y : Except GrammarError α} (h : SameUpTo Eq x y) : x = y := by
  cases h with
  | ok a => rfl
  | error h => rw [h]

/-- Two steps agree in a state: they end in the same state, with the same result or with errors that
are related. -/
structure AgreeAt (related : GrammarError → GrammarError → Prop) (x y : Step γ α) (s : State γ) :
    Prop where
  /-- The results are the same up to the relation of errors. -/
  result : SameUpTo related (x.run s).1 (y.run s).1
  /-- The states after the steps are the same. -/
  state : (x.run s).2 = (y.run s).2

namespace AgreeAt

variable {related : GrammarError → GrammarError → Prop} {x y : Step γ α} {s s' : State γ}

theorem refl (hrefl : ∀ e, related e e) (x : Step γ α) (s : State γ) : AgreeAt related x x s :=
  ⟨.refl hrefl _, rfl⟩

theorem run_eq (h : AgreeAt Eq x y s) : x.run s = y.run s := Prod.ext h.result.eq h.state

theorem of_run_eq (hrefl : ∀ e, related e e) (h : x.run s = y.run s) : AgreeAt related x y s :=
  ⟨h ▸ .refl hrefl _, congrArg Prod.snd h⟩

/-- Of two steps that agree, one succeeds as the other does. -/
theorem ok_iff (h : AgreeAt related x y s) {a : α} :
    x.run s = (.ok a, s') ↔ y.run s = (.ok a, s') := by
  obtain ⟨hresult, hstate⟩ := h
  constructor
  · intro hx
    rw [hx] at hresult hstate
    generalize hy : y.run s = outcome at hresult hstate
    obtain ⟨_, _⟩ := outcome
    cases hresult
    cases hstate
    rfl
  · intro hy
    rw [hy] at hresult hstate
    generalize hx : x.run s = outcome at hresult hstate
    obtain ⟨_, _⟩ := outcome
    cases hresult
    cases hstate
    rfl

/-- Steps that agree, followed by steps that agree where the first ones succeed. -/
theorem bind (hrelated : AgreeAt related x y s) {f f' : α → Step γ β}
    (hf : ∀ a s', x.run s = (.ok a, s') → AgreeAt related (f a) (f' a) s') :
    AgreeAt related (x >>= f) (y >>= f') s := by
  obtain ⟨hresult, hstate⟩ := hrelated
  cases hx : x.run s with
  | mk r s' =>
    cases hy : y.run s with
    | mk r' s'' =>
      rw [hx, hy] at hresult hstate
      cases hstate
      cases hresult with
      | ok a =>
        obtain ⟨hresult', hstate'⟩ := hf a s' hx
        constructor
        · rw [run_bind, run_bind, hx, hy]
          exact hresult'
        · rw [run_bind, run_bind, hx, hy]
          exact hstate'
      | error h =>
        constructor
        · rw [run_bind, run_bind, hx, hy]
          exact .error h
        · rw [run_bind, run_bind, hx, hy]

theorem map (hrefl : ∀ e, related e e) (h : AgreeAt related x y s) (f : α → β) :
    AgreeAt related (f <$> x) (f <$> y) s := by
  rw [map_eq_pure_bind, map_eq_pure_bind]
  exact h.bind fun a s' _ => refl hrefl _ s'

/-- Steps over a list agree if those of each member do, in the state that the members before it
lead to. -/
theorem mapM (hrefl : ∀ e, related e e) {f f' : α → Step γ β} (l : List α) (s : State γ)
    (h : ∀ first a rest bs between, l = first ++ a :: rest →
      (first.mapM f).run s = (.ok bs, between) → AgreeAt related (f a) (f' a) between) :
    AgreeAt related (l.mapM f) (l.mapM f') s := by
  induction l generalizing s with
  | nil => exact refl hrefl _ s
  | cons a l ih =>
    rw [List.mapM_cons, List.mapM_cons]
    refine (h [] a l [] s rfl rfl).bind fun b between hb => ?_
    refine AgreeAt.bind (ih between fun first c rest bs last hl hfirst => ?_) fun bs s' _ =>
      refl hrefl _ s'
    refine h (a :: first) c rest (b :: bs) last (by rw [hl, List.cons_append]) ?_
    rw [List.mapM_cons]
    exact run_bind_eq_ok.mpr ⟨b, between, hb, run_bind_eq_ok.mpr ⟨bs, last, hfirst, rfl⟩⟩

end AgreeAt

/-! ### Calls that agree -/

/-- The answer to a call agrees with what the call comes to. -/
def Frame.AnsweredBy [Chooser γ] (related : GrammarError → GrammarError → Prop) (g : Grammar)
    (ask : Answers γ) (F : Frame γ) : Prop :=
  AgreeAt related (answers g F.depth F.call) (ask F.depth F.call) F.state

section
variable [Chooser γ] {g g' : Grammar} {related : GrammarError → GrammarError → Prop}
  {ask : Answers γ} {depth : Nat} {s : State γ}

/-- The first sections of a rule do the same if the calls of the rule are answered. -/
theorem agree_sections (hrefl : ∀ e, related e e) {rule : Text} {parts after : List Section}
    (hread : Section.ofRule rule = .ok (parts ++ after))
    (hcalls : ∀ F, Frame.Calls g ⟨depth, .rule rule, s⟩ F → F.AnsweredBy related g ask) :
    AgreeAt related (expandSections g depth parts)
      (List.flatten <$> parts.mapM (Call.ofSection ask depth)) s := by
  rw [expandSections_eq_mapM]
  refine AgreeAt.map hrefl
    (.mapM hrefl parts s fun first part rest texts between hparts hrun => ?_) _
  rw [hparts, List.append_assoc, List.cons_append] at hread
  have hfirst := run_expandSections_of_mapM hrun
  cases part with
  | text t => exact .refl hrefl _ between
  | tag body => exact hcalls _ (.tagOfRule hread hfirst)
  | action body =>
    have hanswer := hcalls _ (.actionOfRule hread hfirst)
    exact AgreeAt.bind hanswer fun _ s' _ => .refl hrefl _ s'

/-- The first actions of a tag do the same if the calls of the tag are answered. -/
theorem agree_actions (hrefl : ∀ e, related e e) {body : Text} {tag : Tag}
    {bodies after : List Text} (hread : Tag.ofBody body = .ok tag)
    (hactions : tag.actions = bodies ++ after)
    (hcalls : ∀ F, Frame.Calls g ⟨depth, .tag body, s⟩ F → F.AnsweredBy related g ask) :
    AgreeAt related (runActions g depth bodies)
      (List.reduceOption <$> bodies.mapM fun action => ask depth (.action action)) s := by
  rw [runActions_eq_mapM]
  refine AgreeAt.map hrefl
    (.mapM hrefl bodies s fun first action rest targets between hbodies hrun => ?_) _
  rw [hbodies, List.append_assoc, List.cons_append] at hactions
  have hfirst := run_runActions_of_mapM hrun
  exact hcalls _ (.actionOfTag hread hactions hfirst)

/-- The first rules of a push do the same if the calls of the action are answered. -/
theorem agree_rules (hrefl : ∀ e, related e e) {body target : Text} {rules after : List Text}
    (hread : Action.ofBody body = .ok (.push target (rules ++ after)))
    (hcalls : ∀ F, Frame.Calls g ⟨depth, .action body, s⟩ F → F.AnsweredBy related g ask) :
    AgreeAt related (expandRules g (depth + 1) rules)
      (rules.mapM fun r => ask (depth + 1) (.rule r)) s := by
  rw [expandRules_eq_mapM]
  refine .mapM hrefl rules s fun first rule rest texts between hrules hrun => ?_
  rw [hrules, List.append_assoc, List.cons_append] at hread
  have hfirst : (expandRules g (depth + 1) first).run s = (.ok texts, between) := by
    rw [expandRules_eq_mapM]
    exact hrun
  exact hcalls _ (.ruleOfAction hread hfirst)

theorem agree_symbol (hrefl : ∀ e, related e e) {name : Text}
    (hrules : depth ≤ maxNesting → rulesFor g' s.pushed name = rulesFor g s.pushed name ∧
      related (g.unknownSymbol name) (g'.unknownSymbol name))
    (hcalls : ∀ F, Frame.Calls g ⟨depth, .symbol name, s⟩ F → F.AnsweredBy related g ask) :
    AgreeAt related (expandSymbol g depth name) (Call.perform g' ask depth (.symbol name)) s := by
  show AgreeAt related (answers g depth (.symbol name)) _ s
  rw [← perform_answers, Call.perform, Call.perform]
  by_cases hdepth : maxNesting < depth
  · rw [if_pos hdepth, if_pos hdepth]
    exact .refl hrefl _ s
  · rw [if_neg hdepth, if_neg hdepth]
    obtain ⟨hsame, herror⟩ := hrules (Nat.le_of_not_lt hdepth)
    refine (AgreeAt.refl hrefl get s).bind fun a s' hget => ?_
    cases hget
    rw [hsame]
    cases hown : rulesFor g s.pushed name with
    | nil => exact ⟨.error herror, rfl⟩
    | cons rule others =>
      refine (AgreeAt.refl hrefl (choose others.length) s).bind fun i s' hi => ?_
      cases hi
      exact hcalls _ (.chosenRule (Nat.le_of_not_lt hdepth) hown)

/-- **What a call does depends on the calls that it makes, and on nothing else**: whoever has the
same rules for the symbol at hand, and is given the answers of the expansion to the calls that are
made, does the same. -/
theorem Frame.perform_agree (hrefl : ∀ e, related e e) (F : Frame γ)
    (hrules : ∀ name, F.call = .symbol name → F.depth ≤ maxNesting →
      rulesFor g' F.state.pushed name = rulesFor g F.state.pushed name ∧
        related (g.unknownSymbol name) (g'.unknownSymbol name))
    (hcalls : ∀ F', F.Calls g F' → F'.AnsweredBy related g ask) :
    AgreeAt related (answers g F.depth F.call) (F.call.perform g' ask F.depth) F.state := by
  obtain ⟨depth, c, s⟩ := F
  cases c with
  | symbol name => exact agree_symbol hrefl (hrules name rfl) hcalls
  | rule r =>
    show AgreeAt related (expandRule g depth r) _ s
    rw [Call.perform]
    cases hread : Section.ofRule r with
    | error fault =>
      rw [expandRule_error hread]
      exact .refl hrefl _ s
    | ok sections =>
      rw [expandRule_eq hread, orMalformed, pure_bind]
      exact agree_sections hrefl (by rw [hread, List.append_nil]) hcalls
  | tag body =>
    show AgreeAt related (expandTag g depth body) _ s
    rw [Call.perform]
    cases hread : Tag.ofBody body with
    | error fault =>
      rw [expandTag_error hread]
      exact .refl hrefl _ s
    | ok tag =>
      rw [expandTag_eq hread, orMalformed, pure_bind]
      have hactions := agree_actions hrefl hread (List.append_nil tag.actions).symm hcalls
      refine hactions.bind fun targets between hrun => ?_
      refine AgreeAt.bind ?_ fun text s' _ => .refl hrefl _ s'
      by_cases hsymbol : tag.symbol = []
      · rw [if_pos hsymbol, if_pos hsymbol]
        exact .refl hrefl _ between
      · rw [if_neg hsymbol, if_neg hsymbol]
        exact AgreeAt.map hrefl (hcalls _ (.symbolOfTag hread hsymbol hrun)) _
  | action body =>
    show AgreeAt related (runAction g depth body) _ s
    rw [Call.perform]
    cases hread : Action.ofBody body with
    | error fault =>
      rw [runAction_error hread]
      exact .refl hrefl _ s
    | ok action =>
      rw [orMalformed, pure_bind]
      cases action with
      | pop target =>
        rw [runAction_pop hread]
        exact .refl hrefl _ s
      | push target rules =>
        rw [runAction_push hread]
        have hrules' := agree_rules hrefl (by rw [hread, List.append_nil]) hcalls
        exact hrules'.bind fun texts s' _ => .refl hrefl _ s'

/-- A call comes to what its body does with answers that are those of the expansion. -/
theorem Frame.run_perform (F : Frame γ)
    (hcalls : ∀ F', F.Calls g F' → (ask F'.depth F'.call).run F'.state = F'.outcome g) :
    (F.call.perform g ask F.depth).run F.state = F.outcome g := by
  have hanswered : ∀ F', F.Calls g F' → F'.AnsweredBy Eq g ask := fun F' hF' =>
    .of_run_eq Eq.refl (hcalls F' hF').symm
  have hrules : ∀ name, F.call = .symbol name → F.depth ≤ maxNesting →
      rulesFor g F.state.pushed name = rulesFor g F.state.pushed name ∧
        g.unknownSymbol name = g.unknownSymbol name := fun _ _ _ => ⟨rfl, rfl⟩
  have hagree := F.perform_agree Eq.refl hrules hanswered
  exact hagree.run_eq.symm

end

end Expansion

end GrammarBots

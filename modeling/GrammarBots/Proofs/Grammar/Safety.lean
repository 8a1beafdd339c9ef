import GrammarBots.Proofs.Grammar.Lint
import GrammarBots.Proofs.Grammar.Steps

/-!
# Grammars that do not go wrong

An expansion fails where a rule, a tag or an action cannot be read, where a symbol has no rules, or
where symbols nest too deeply.  `Grammar.expand_of_tame` says that only the last is left when the
check of the grammar finds nothing and the grammar is tame.

A grammar is tame if every action can be read, and so can all rules inside actions; if the symbols
that actions assign have rules of their own as well; and, where anything is pushed at all, if no
literal text of the grammar holds a character that means something in a rule, not even after a
backslash.  Then what is pushed is itself again when it is read as a rule.  This is enough, but more
than it takes.  A symbol that is only ever assigned does no harm as long as it is assigned whenever
it is referred to, and neither does an escaped character that is never pushed; a grammar with one of
these can be fine without being tame.  A grammar without actions is always tame
(`Grammar.tame_of_actionFree`).

The proof follows the parts of a rule.  `Safe` is what is shown of each step, and
`safeSection_of_tame` shows it of the sections of a rule, given that it holds of symbols one level
of nesting deeper.
-/

namespace GrammarBots

namespace Section

/-! ### Plain text -/

/-- The text has no character that means something in a rule. -/
def IsPlain (t : Text) : Prop := ∀ c ∈ t, isSpecial c = false

instance (t : Text) : Decidable (IsPlain t) := List.decidableBAll (isSpecial · = false) t

theorem escape_eq_self {t : Text} (h : IsPlain t) : escape t = t := by
  induction t with
  | nil => rfl
  | cons c t ih =>
    obtain ⟨hc, ht⟩ := List.forall_mem_cons.mp h
    rw [escape_cons, hc, ih ht]
    rfl

/-! ### Tame sections -/

/-- A section that can be read down to the rules inside its actions, and whose literal text has the
property `P`.  This is to be a property of all texts that come of expansions, so modifiers must
preserve it; and if the section pushes anything, it must make texts plain. -/
inductive Tame (P : Text → Prop) : Section → Prop where
  /-- Literal text has the property. -/
  | text {t : Text} (h : P t) : Tame P (.text t)
  /-- A tag can be read, its actions are tame, and its modifiers preserve the property. -/
  | tag {body : Text} {tag : Tag} (hread : Tag.ofBody body = .ok tag)
      (hactions : ∀ action ∈ tag.actions, Tame P (.action action))
      (hmodifiers : ∀ t, P t → P (Modifier.applyAll tag.modifiers t)) : Tame P (.tag body)
  /-- An action that pops is tame. -/
  | pop {body target : Text} (hread : Action.ofBody body = .ok (.pop target)) :
      Tame P (.action body)
  /-- An action that pushes can be read, and so can its rules, whose sections are tame. -/
  | push {body target : Text} {rules : List Text}
      (hread : Action.ofBody body = .ok (.push target rules)) (hplain : ∀ t, P t → IsPlain t)
      (hrules : ∀ rule ∈ rules, ∃ sections, ofRule rule = .ok sections)
      (hsections : ∀ rule ∈ rules, ∀ sections, ofRule rule = .ok sections →
        ∀ s ∈ sections, Tame P s) : Tame P (.action body)

/-- A section that neither is an action nor begins with one. -/
def IsActionFree : Section → Prop
  | .text _ => True
  | .tag body => body.head? ≠ some '['
  | .action _ => False

end Section

/-- What is asked of a grammar beyond its check, so that nothing goes wrong in it.  It is sufficient
and not necessary: all literal text has the property, wherever it ends up, and a symbol that is
assigned has rules of its own, even if it is never referred to without the assignment. -/
structure Grammar.Tame (g : Grammar) (P : Text → Prop) : Prop where
  /-- No text at all has the property. -/
  nil : P []
  /-- Texts one after the other have the property together. -/
  append : ∀ s t, P s → P t → P (s ++ t)
  /-- The sections of rules are tame. -/
  sections : ∀ rule ∈ g.allRules, ∀ sections, Section.ofRule rule = .ok sections →
    ∀ s ∈ sections, s.Tame P
  /-- What actions assign is defined without them too. -/
  assigned : ∀ name ∈ (References.ofRules g.allRules).assigned, g.defines name = true

/-- A grammar without actions. -/
def Grammar.ActionFree (g : Grammar) : Prop :=
  ∀ rule ∈ g.allRules, ∀ sections, Section.ofRule rule = .ok sections →
    ∀ s ∈ sections, s.IsActionFree

/-! ### Without actions -/

/-- A tag that does not begin with an action has none. -/
theorem Tag.exists_ofBody {body : Text} (h : body.head? ≠ some '[') :
    ∃ tag, ofBody body = .ok tag ∧ tag.actions = [] := by
  have hactions : leadingActions body = .ok ([], body) := by
    unfold leadingActions
    split
    next => exact absurd rfl h
    next => rfl
  rw [ofBody, hactions]
  refine ⟨_, rfl, ?_⟩
  dsimp only
  split <;> rfl

namespace References

theorem not_mem_assigned_ofSections {sections : List Section}
    (h : ∀ s ∈ sections, s.IsActionFree) (name : Text) :
    name ∉ (ofSections sections).assigned := by
  induction sections with
  | nil => simp [ofSections, none]
  | cons s sections ih =>
    obtain ⟨hs, hrest⟩ := List.forall_mem_cons.mp h
    rw [ofSections_cons, mem_assigned_append, not_or]
    refine ⟨?_, ih hrest⟩
    cases s with
    | text t => simp [ofSection, none]
    | action body => exact hs.elim
    | tag body =>
      obtain ⟨tag, hread, hactions⟩ := Tag.exists_ofBody hs
      rw [ofSection, ofTag_eq hread, hactions]
      simp [ofActions, none, append]

theorem not_mem_assigned_ofRules {rules : List Text}
    (h : ∀ rule ∈ rules, ∀ sections, Section.ofRule rule = .ok sections →
      ∀ s ∈ sections, s.IsActionFree) (name : Text) : name ∉ (ofRules rules).assigned := by
  induction rules with
  | nil => simp [ofRules, none]
  | cons rule rules ih =>
    obtain ⟨hrule, hrest⟩ := List.forall_mem_cons.mp h
    rw [ofRules, mem_assigned_append, not_or]
    refine ⟨?_, ih hrest⟩
    cases hread : Section.ofRule rule with
    | ok sections =>
      rw [ofRule_eq hread]
      exact not_mem_assigned_ofSections (hrule sections hread) name
    | error fault =>
      rw [ofRule_error hread]
      exact List.not_mem_nil

end References

/-- **A grammar without actions is tame.** -/
theorem Grammar.tame_of_actionFree {g : Grammar} (hfree : g.ActionFree) :
    g.Tame fun _ => True where
  nil := trivial
  append _ _ _ _ := trivial
  assigned name hname := absurd hname (References.not_mem_assigned_ofRules hfree name)
  sections := by
    intro rule hrule sections hread s hs
    have hs := hfree rule hrule sections hread s hs
    cases s with
    | text t => exact .text trivial
    | action body => exact hs.elim
    | tag body =>
      obtain ⟨tag, hread, hactions⟩ := Tag.exists_ofBody hs
      refine .tag hread ?_ fun _ _ => trivial
      intro action haction
      rw [hactions] at haction
      cases haction

/-! ### Safe steps -/

namespace Expansion

variable {γ α β : Type} {P : Text → Prop}

/-- What is pushed are plain texts with the property. -/
def Pushes (P : Text → Prop) (pushed : List (Text × List Text)) : Prop :=
  ∀ entry ∈ pushed, entry.2 ≠ [] ∧ ∀ t ∈ entry.2, P t ∧ Section.IsPlain t

/-- The step fails only for want of levels of nesting, keeps to pushes of plain texts, and gives
what has the property `q`. -/
def Safe (P : Text → Prop) (q : α → Prop) (x : Step γ α) : Prop :=
  ∀ s, Pushes P s.pushed → Pushes P (x.run s).2.pushed ∧ match (x.run s).1 with
    | .ok a => q a
    | .error e => ∃ symbol, e = .recursionLimit symbol maxNesting

theorem safe_pure {q : α → Prop} {a : α} (ha : q a) : Safe P q (pure a : Step γ α) :=
  fun _ hs => ⟨hs, ha⟩

theorem Safe.bind {q : α → Prop} {r : β → Prop} {x : Step γ α} {f : α → Step γ β}
    (hx : Safe P q x) (hf : ∀ a, q a → Safe P r (f a)) : Safe P r (x >>= f) := by
  intro s hs
  obtain ⟨hpushes, hresult⟩ := hx s hs
  rw [run_bind]
  cases hrun : (x.run s).1 with
  | ok a =>
    rw [hrun] at hresult
    exact hf a hresult _ hpushes
  | error e =>
    rw [hrun] at hresult
    exact ⟨hpushes, hresult⟩

theorem safe_pop (target : Text) : Safe P (fun _ => True) (pop target : Step γ Unit) :=
  fun _ hs => ⟨fun entry hentry => hs entry (List.mem_of_mem_eraseP hentry), trivial⟩

theorem safe_push {target : Text} {rules : List Text} (hne : rules ≠ [])
    (hrules : ∀ t ∈ rules, P t ∧ Section.IsPlain t) :
    Safe P (fun _ => True) (push target rules : Step γ Unit) :=
  fun _ hs => ⟨List.forall_mem_cons.mpr ⟨⟨hne, hrules⟩, hs⟩, trivial⟩

theorem safe_pops (targets : List Text) :
    Safe P (fun _ => True) (targets.forM pop : Step γ Unit) := by
  induction targets with
  | nil => exact safe_pure trivial
  | cons target targets ih =>
    show Safe P _ (pop target >>= fun _ => targets.forM pop)
    exact (safe_pop target).bind fun _ _ => ih

variable [Chooser γ] {g : Grammar} {depth : Nat}

theorem safe_expandRules {rules : List Text}
    (h : ∀ rule ∈ rules, Safe P P (expandRule g depth rule : Step γ Text)) :
    Safe P (fun texts => texts.length = rules.length ∧ ∀ t ∈ texts, P t)
      (expandRules g depth rules : Step γ (List Text)) := by
  induction rules with
  | nil =>
    rw [expandRules]
    exact safe_pure ⟨rfl, List.forall_mem_nil _⟩
  | cons rule rules ih =>
    obtain ⟨hrule, hrest⟩ := List.forall_mem_cons.mp h
    rw [expandRules]
    refine hrule.bind fun first hfirst => (ih hrest).bind fun others hothers => safe_pure ?_
    exact ⟨congrArg (· + 1) hothers.1, List.forall_mem_cons.mpr ⟨hfirst, hothers.2⟩⟩

theorem safe_runActions {bodies : List Text}
    (h : ∀ body ∈ bodies, Safe P (fun _ => True) (runAction g depth body : Step γ (Option Text))) :
    Safe P (fun _ => True) (runActions g depth bodies : Step γ (List Text)) := by
  induction bodies with
  | nil =>
    rw [runActions]
    exact safe_pure trivial
  | cons body bodies ih =>
    obtain ⟨hbody, hrest⟩ := List.forall_mem_cons.mp h
    rw [runActions]
    exact hbody.bind fun _ _ => (ih hrest).bind fun _ _ => safe_pure trivial

/-! ### Sections -/

/-- Expanding the section is safe. -/
def SafeSection (γ : Type) [Chooser γ] (g : Grammar) (P : Text → Prop) (depth : Nat) :
    Section → Prop
  | .text t => P t
  | .tag body => Safe P P (expandTag g depth body : Step γ Text)
  | .action body => Safe P (fun _ => True) (runAction g depth body : Step γ (Option Text))

theorem safe_expandSections (hnil : P []) (happend : ∀ s t, P s → P t → P (s ++ t))
    {sections : List Section} (h : ∀ s ∈ sections, SafeSection γ g P depth s) :
    Safe P P (expandSections g depth sections : Step γ Text) := by
  induction sections with
  | nil =>
    rw [expandSections]
    exact safe_pure hnil
  | cons s sections ih =>
    obtain ⟨hs, hrest⟩ := List.forall_mem_cons.mp h
    have happended : ∀ first, P first →
        Safe P P ((first ++ ·) <$> expandSections g depth sections : Step γ Text) := by
      intro first hfirst
      rw [map_eq_pure_bind]
      exact (ih hrest).bind fun others hothers => safe_pure (happend first others hfirst hothers)
    cases s with
    | text t =>
      rw [expandSections_text]
      exact happended t hs
    | tag body =>
      rw [expandSections_tag]
      exact Safe.bind hs happended
    | action body =>
      rw [expandSections_action]
      exact Safe.bind hs fun _ _ => ih hrest

/-- **Tame sections are safe** if the symbols that they refer to are, at this level of nesting and
the deeper ones. -/
theorem safeSection_of_tame (hnil : P []) (happend : ∀ s t, P s → P t → P (s ++ t)) {bound : Nat}
    (hsymbols : ∀ depth, bound ≤ depth → ∀ symbol, g.defines symbol = true →
      Safe P P (expandSymbol g depth symbol : Step γ Text))
    {s : Section} (hs : s.Tame P)
    (hdefined : ∀ name ∈ (References.ofSection s).referenced, g.defines name = true)
    (hdepth : bound ≤ depth) : SafeSection γ g P depth s := by
  induction hs generalizing depth with
  | text h => exact h
  | @tag body tag hread _ hmodifiers ih =>
    have hreferences := References.ofTag_eq hread
    have hactions : ∀ action ∈ tag.actions,
        Safe P (fun _ => True) (runAction g depth action : Step γ (Option Text)) := by
      intro action haction
      refine ih action haction (fun name hname => hdefined name ?_) hdepth
      rw [References.ofSection, hreferences, References.mem_referenced_append]
      exact Or.inl (References.mem_ofActions_of_mem haction hname)
    show Safe P P _
    rw [expandTag_eq hread]
    have htext : Safe P P
        (if tag.symbol = [] then pure []
          else Modifier.applyAll tag.modifiers <$> expandSymbol g depth tag.symbol :
            Step γ Text) := by
      split
      next => exact safe_pure hnil
      next hsymbol =>
        have hdefines : g.defines tag.symbol = true := by
          refine hdefined tag.symbol ?_
          rw [References.ofSection, hreferences, References.mem_referenced_append]
          simp [hsymbol]
        rw [map_eq_pure_bind]
        exact (hsymbols depth hdepth tag.symbol hdefines).bind fun text htext =>
          safe_pure (hmodifiers text htext)
    exact (safe_runActions hactions).bind fun targets _ => htext.bind fun text htext =>
      (safe_pops targets).bind fun _ _ => safe_pure htext
  | @pop body target hread =>
    show Safe P _ _
    rw [runAction_pop hread]
    exact (safe_pop target).bind fun _ _ => safe_pure trivial
  | @push body target rules hread hplain hrules _ ih =>
    -- The rules of an action are one level deeper, where symbols are safe as well.
    have hexpand : ∀ rule ∈ rules, Safe P P (expandRule g (depth + 1) rule : Step γ Text) := by
      intro rule hrule
      obtain ⟨sections, hsections⟩ := hrules rule hrule
      rw [expandRule_eq hsections]
      refine safe_expandSections hnil happend fun s hs => ih rule hrule sections hsections s hs
        (fun name hname => hdefined name ?_) (Nat.le_succ_of_le hdepth)
      rw [References.ofSection, References.ofAction_push hread, References.mem_referenced_append]
      refine Or.inr (References.mem_ofRules_of_mem hrule ?_)
      rw [References.ofRule_eq hsections]
      exact References.mem_ofSections_of_mem hs hname
    show Safe P _ _
    rw [runAction_push hread]
    refine (safe_expandRules hexpand).bind fun texts htexts => Safe.bind (safe_push ?_ ?_)
      fun _ _ => safe_pure trivial
    · intro hempty
      rw [hempty] at htexts
      exact Action.rules_ne_nil hread (List.length_eq_zero_iff.mp htexts.1.symm)
    · exact fun t ht => ⟨htexts.2 t ht, hplain t (htexts.2 t ht)⟩

/-! ### Symbols -/

/-- A symbol is safe if all of its rules are, one level of nesting deeper. -/
theorem safe_expandSymbol_of_rules {symbol : Text}
    (hdefined : g.rules? symbol ≠ none ∧ g.rules? symbol ≠ some [])
    (hrules : ∀ rules, g.rules? symbol = some rules → ∀ rule ∈ rules,
      Safe P P (expandRule g (depth + 1) rule : Step γ Text)) :
    Safe P P (expandSymbol g depth symbol : Step γ Text) := by
  intro s hs
  by_cases hlimit : maxNesting < depth
  · rw [expandSymbol, dif_pos hlimit]
    exact ⟨hs, symbol, rfl⟩
  · have hsafe : rulesFor g s.pushed symbol ≠ [] ∧ ∀ rule ∈ rulesFor g s.pushed symbol,
        Safe P P (expandRule g (depth + 1) rule : Step γ Text) := by
      unfold rulesFor
      cases hlookup : s.pushed.lookup symbol with
      | some rules =>
        -- What was pushed is plain text, which is itself again.
        obtain ⟨before, after, hpushed, -⟩ := List.lookup_eq_some_iff.mp hlookup
        obtain ⟨hne, hplain⟩ := hs (symbol, rules) (by
          rw [hpushed]
          exact List.mem_append_right _ List.mem_cons_self)
        refine ⟨hne, fun rule hrule => ?_⟩
        obtain ⟨hP, hplain⟩ := hplain rule hrule
        rw [← Section.escape_eq_self hplain, expandRule_escape]
        exact safe_pure hP
      | none =>
        cases hown : g.rules? symbol with
        | none => exact absurd hown hdefined.1
        | some rules =>
          refine ⟨fun hnil => hdefined.2 ?_, hrules rules hown⟩
          rw [hown]
          exact congrArg some hnil
    cases hrulesFor : rulesFor g s.pushed symbol with
    | nil => exact absurd hrulesFor hsafe.1
    | cons rule others =>
      rw [hrulesFor] at hsafe
      rw [run_expandSymbol g (Nat.le_of_not_lt hlimit) hrulesFor]
      exact hsafe.2 _ (List.get_mem _ _) _ hs

/-- **Symbols of a tame grammar are safe** at every level of nesting.  The induction is on the
number of levels that are left. -/
theorem safe_expandSymbol {start : Text} (htame : g.Tame P) (hlint : g.lint start = [])
    (hrules : ∀ symbol, g.rules? symbol ≠ some []) (levels : Nat) :
    ∀ depth, maxNesting < depth + levels → ∀ symbol, g.defines symbol = true →
      Safe P P (expandSymbol g depth symbol : Step γ Text) := by
  obtain ⟨-, hreadable, hreferenced⟩ := Grammar.lint_eq_nil_iff.mp hlint
  induction levels with
  | zero =>
    intro depth hlimit symbol _ s hs
    rw [Nat.add_zero] at hlimit
    rw [expandSymbol, dif_pos hlimit]
    exact ⟨hs, symbol, rfl⟩
  | succ levels ih =>
    intro depth hdepth symbol hsymbol
    have hdefined : g.rules? symbol ≠ none := Option.isSome_iff_ne_none.mp hsymbol
    refine safe_expandSymbol_of_rules ⟨hdefined, hrules symbol⟩ fun rules hown rule hrule => ?_
    have hall := Grammar.mem_allRules hown hrule
    obtain ⟨sections, hread⟩ := hreadable rule hall
    rw [expandRule_eq hread]
    refine safe_expandSections htame.nil htame.append fun s hs => ?_
    have hdeeper : ∀ deeper, depth + 1 ≤ deeper → ∀ symbol, g.defines symbol = true →
        Safe P P (expandSymbol g deeper symbol : Step γ Text) :=
      fun deeper hdeeper => ih deeper (by omega)
    refine safeSection_of_tame htame.nil htame.append hdeeper
      (htame.sections rule hall sections hread s hs) (fun name hname => ?_) (Nat.le_refl _)
    -- The check has looked at every reference; those that are only assigned are defined as well.
    have hmem : name ∈ (References.ofRules g.allRules).referenced := by
      refine References.mem_ofRules_of_mem hall ?_
      rw [References.ofRule_eq hread]
      exact References.mem_ofSections_of_mem hs hname
    exact (hreferenced name hmem).elim id (htame.assigned name)

end Expansion

/-- **A tame grammar does not go wrong**: if its check finds nothing, an expansion gives a text or
goes over the limit of nesting, whatever chance chooses. -/
theorem Grammar.expand_of_tame {g : Grammar} {P : Text → Prop} {start : Text} (htame : g.Tame P)
    (hlint : g.lint start = []) (hrules : ∀ symbol, g.rules? symbol ≠ some []) {γ : Type}
    [Chooser γ] (chance : γ) :
    (∃ text, (g.expand start chance).1 = .ok text ∧ P text) ∨
      ∃ symbol, (g.expand start chance).1 = .error (.recursionLimit symbol maxNesting) := by
  have hstart := (Grammar.lint_eq_nil_iff.mp hlint).1
  have hsafe : Expansion.Safe P P (Expansion.expandSymbol g 0 start : Expansion.Step γ Text) :=
    Expansion.safe_expandSymbol htame hlint hrules (maxNesting + 1) 0 (by omega) start hstart
  obtain ⟨-, hresult⟩ := hsafe ⟨[], chance⟩ (List.forall_mem_nil _)
  rw [Grammar.expand_fst]
  cases hrun : ((Expansion.expandSymbol g 0 start).run ⟨[], chance⟩).1 with
  | ok text =>
    rw [hrun] at hresult
    exact Or.inl ⟨text, rfl, hresult⟩
  | error e =>
    rw [hrun] at hresult
    obtain ⟨symbol, rfl⟩ := hresult
    exact Or.inr ⟨symbol, rfl⟩

/-! ### A tame grammar with an action -/

namespace Grammar

/-- A grammar that pushes a rule onto a symbol with a rule of its own. -/
def pushing : Grammar :=
  Grammar.ofRules [(startSymbol, ["[x:a]#x#".toList]), ("x".toList, ["b".toList])]

theorem forall_mem_allRules_pushing {p : Text → Prop} (hstart : p "[x:a]#x#".toList)
    (hx : p "b".toList) : ∀ rule ∈ pushing.allRules, p rule := by
  have hrules : pushing.allRules = ["[x:a]#x#".toList, "b".toList] := rfl
  rw [hrules]
  exact List.forall_mem_cons.mpr ⟨hstart, List.forall_mem_singleton.mpr hx⟩

theorem ofBody_pushing : Action.ofBody "x:a".toList = .ok (.push "x".toList ["a".toList]) := rfl

theorem ofBody_tag_pushing : Tag.ofBody "x".toList = .ok ⟨[], "x".toList, []⟩ := by cbv

theorem references_pushing :
    References.ofRules pushing.allRules = ⟨["x".toList], ["x".toList]⟩ := by
  have hrules : pushing.allRules = ["[x:a]#x#".toList, "b".toList] := rfl
  have hstart : Section.ofRule "[x:a]#x#".toList
      = .ok [.action "x:a".toList, .tag "x".toList] := rfl
  have ha : Section.ofRule "a".toList = .ok [.text "a".toList] := rfl
  have hb : Section.ofRule "b".toList = .ok [.text "b".toList] := rfl
  simp only [hrules, References.ofRules, References.ofRule_eq hstart, References.ofRule_eq ha,
    References.ofRule_eq hb, References.ofSections_cons, References.ofSection,
    References.ofAction_push ofBody_pushing, References.ofTag_eq ofBody_tag_pushing,
    References.ofActions, References.ofSections]
  rfl

theorem lint_pushing : pushing.lint startSymbol = [] := by
  rw [Grammar.lint_eq_nil_iff, references_pushing]
  exact ⟨rfl, forall_mem_allRules_pushing ⟨_, rfl⟩ ⟨_, rfl⟩, fun _ hname => Or.inr hname⟩

/-- What it pushes is plain text. -/
theorem tame_pushing : pushing.Tame Section.IsPlain where
  nil := List.forall_mem_nil _
  append _ _ hs ht := List.forall_mem_append.mpr ⟨hs, ht⟩
  assigned := by
    intro name hname
    rw [references_pushing] at hname
    rw [List.mem_singleton.mp hname]
    rfl
  sections := by
    refine forall_mem_allRules_pushing ?_ ?_
    · intro sections hread
      obtain rfl : [.action "x:a".toList, .tag "x".toList] = sections := Except.ok.inj hread
      refine List.forall_mem_cons.mpr ⟨?_, List.forall_mem_singleton.mpr ?_⟩
      · refine .push ofBody_pushing (fun _ => id) (fun rule hrule => ?_) fun rule hrule => ?_
        · rw [List.mem_singleton.mp hrule]
          exact ⟨_, rfl⟩
        · rw [List.mem_singleton.mp hrule]
          intro sections hread
          obtain rfl : [.text "a".toList] = sections := Except.ok.inj hread
          exact List.forall_mem_singleton.mpr (.text (by decide))
      · exact .tag ofBody_tag_pushing (List.forall_mem_nil _) fun _ => id
    · intro sections hread
      obtain rfl : [.text "b".toList] = sections := Except.ok.inj hread
      exact List.forall_mem_singleton.mpr (.text (by decide))

end Grammar

end GrammarBots

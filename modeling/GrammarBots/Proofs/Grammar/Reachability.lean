import GrammarBots.Proofs.Grammar.Printing
import GrammarBots.Proofs.Grammar.Safety

/-!
# Grammars that always expand

For a grammar without actions, whether expansions can fail is a question about references alone.
`Grammar.expands_iff` says that the expansion of a symbol succeeds for every sequence of choices
exactly when every symbol that it leads to has rules, all of these can be read, and no path of
references is longer than the limit of nesting.  Without actions means without actions as sections
and without tags that have leading actions (`Grammar.actionFree_iff`).  Tags need no condition of
their own, since the tags of a rule that can be read can be read as well
(`Tag.exists_ofBody_of_ofRule`).

One direction goes along the paths: what `depth` references lead to is expanded at depth `depth`
(`Expansion.total_expandSymbol`).  For the other, a sequence of choices has to be found that comes
to the fault.  This is where the choices before it matter: a step that succeeds for all sequences
can leave any sequence at all to the steps after it (`Expansion.leavesAll_expandSymbol`), so each of
them succeeds for all sequences as well.
-/

namespace GrammarBots

/-! ### Sequences of choices -/

/-- A sequence of draws, one for every choice to come. -/
structure Choices where
  /-- The draws, beginning with the one for the next choice. -/
  draw : Nat → Nat

namespace Choices

/-- The sequence that begins with the given draw. -/
def cons (first : Nat) (later : Choices) : Choices where
  draw
    | 0 => first
    | k + 1 => later.draw k

/-- A choice uses up the next draw, as its remainder by the number of possibilities. -/
instance : Chooser Choices where
  choose c n := (⟨c.draw 0 % (n + 1), Nat.mod_lt _ (Nat.succ_pos n)⟩, ⟨fun k => c.draw (k + 1)⟩)

/-- Whatever is to be chosen, some sequence chooses it and goes on in any way asked for. -/
theorem choose_cons {n : Nat} (i : Fin (n + 1)) (later : Choices) :
    Chooser.choose (cons i later) n = (i, later) := by
  have hi : (i : Nat) % (n + 1) = i := Nat.mod_eq_of_lt i.isLt
  exact Prod.ext (Fin.ext hi) rfl

end Choices

/-! ### Tags of rules -/

namespace Tag

open Section (depthAfter depthAfter_cons depthAfterChar IsBody exists_of_map_eq_ok)

/-- Inside an action, a text that closes all brackets begins with the rest of the action. -/
theorem exists_takeAction {depth : Nat} {t : Text} (h : depthAfter true (depth + 1) t = some 0) :
    ∃ body after, takeAction depth t = some (body, after) ∧ IsBody true after := by
  have hmap : ∀ {t : Text} {n : Nat} (f : Text → Text),
      (∃ body after, takeAction n t = some (body, after) ∧ IsBody true after) →
      ∃ body after, (takeAction n t).map (fun parts => (f parts.1, parts.2))
        = some (body, after) ∧ IsBody true after := by
    rintro t n f ⟨body, after, htake, hafter⟩
    rw [htake]
    exact ⟨f body, after, rfl, hafter⟩
  fun_induction takeAction depth t
  case case1 => cases h
  case case2 => cases h
  case case3 depth c rest ih => exact hmap ('\\' :: c :: ·) (ih h)
  case case4 depth rest ih =>
    rw [depthAfter_cons (by decide)] at h
    exact hmap _ (ih h)
  case case5 rest =>
    rw [depthAfter_cons (by decide)] at h
    exact ⟨[], rest, rfl, h⟩
  case case6 depth rest ih =>
    rw [depthAfter_cons (by decide)] at h
    exact hmap _ (ih h)
  case case7 depth c rest hend hguard hopen hclose hclose' ih =>
    have hbackslash : c ≠ '\\' := by
      intro hc
      cases rest with
      | nil => exact hend hc rfl
      | cons next rest => exact hguard next rest hc rfl
    have hbracket : c ≠ ']' := by
      intro hc
      cases depth with
      | zero => exact hclose rfl hc
      | succ depth => exact hclose' depth rfl hc
    have hchar : depthAfterChar true (depth + 1) c = some (depth + 1) := by
      simp [depthAfterChar, hbracket, show c ≠ '[' from hopen]
    rw [depthAfter_cons hbackslash, hchar] at h
    exact hmap _ (ih h)

theorem exists_leadingActions {t : Text} (h : IsBody true t) :
    ∃ parts, leadingActions t = .ok parts := by
  have hopen : ∀ {rest}, IsBody true ('[' :: rest) →
      ∃ body after, takeAction 0 rest = some (body, after) ∧ IsBody true after := by
    intro rest hbody
    rw [IsBody, depthAfter_cons (by decide)] at hbody
    exact exists_takeAction hbody
  fun_induction leadingActions t
  case case1 rest hnone =>
    obtain ⟨body, after, htake, -⟩ := hopen h
    rw [hnone] at htake
    cases htake
  case case2 rest body after hsome hlt ih =>
    obtain ⟨body', after', htake, hafter⟩ := hopen h
    obtain ⟨rfl, rfl⟩ := Prod.mk.inj (Option.some.inj (hsome.symm.trans htake))
    obtain ⟨parts, hparts⟩ := ih hafter
    rw [hparts]
    exact ⟨_, rfl⟩
  case case3 t hplain => exact ⟨([], t), rfl⟩

/-- **The tags of a rule that can be read can be read as well.** -/
theorem exists_ofBody_of_ofRule {rule body : Text} {sections : List Section}
    (hread : Section.ofRule rule = .ok sections) (hbody : .tag body ∈ sections) :
    ∃ tag, ofBody body = .ok tag := by
  obtain ⟨parts, hparts⟩ :=
    exists_leadingActions ((Section.wellFormed_of_read hread).parts _ hbody)
  rw [ofBody, hparts]
  exact ⟨_, rfl⟩

/-- A tag has actions exactly if it begins with a bracket. -/
theorem actions_eq_nil_iff {body : Text} {tag : Tag} (hread : ofBody body = .ok tag) :
    tag.actions = [] ↔ body.head? ≠ some '[' := by
  constructor
  · rintro hactions hhead
    obtain ⟨rest, rfl⟩ := List.head?_eq_some_iff.mp hhead
    rw [ofBody, leadingActions] at hread
    split at hread
    next => cases hread
    next body after htake =>
      obtain ⟨parts, hparts, rfl⟩ := exists_of_map_eq_ok hread
      obtain ⟨inner, -, rfl⟩ := exists_of_map_eq_ok hparts
      revert hactions
      dsimp only
      split <;> exact List.cons_ne_nil _ _
  · intro hhead
    obtain ⟨tag', hread', hactions⟩ := exists_ofBody hhead
    obtain rfl : tag = tag' := Except.ok.inj (hread.symm.trans hread')
    exact hactions

end Tag

/-- The rules of a grammar without actions have no actions as sections, and no tags with leading
actions. -/
theorem Grammar.actionFree_iff {g : Grammar} : g.ActionFree ↔
    ∀ rule ∈ g.allRules, ∀ sections, Section.ofRule rule = .ok sections →
      (∀ body, .action body ∉ sections) ∧
        ∀ body, .tag body ∈ sections → ∀ tag, Tag.ofBody body = .ok tag → tag.actions = [] := by
  constructor
  · intro hfree rule hrule sections hread
    have hsections := hfree rule hrule sections hread
    refine ⟨fun body hbody => hsections _ hbody, fun body hbody tag htag => ?_⟩
    exact (Tag.actions_eq_nil_iff htag).mpr (hsections _ hbody)
  · intro h rule hrule sections hread s hs
    obtain ⟨hactions, htags⟩ := h rule hrule sections hread
    cases s with
    | text t => trivial
    | action body => exact hactions body hs
    | tag body =>
      obtain ⟨tag, htag⟩ := Tag.exists_ofBody_of_ofRule hread hs
      exact (Tag.actions_eq_nil_iff htag).mp (htags body hs tag htag)

/-! ### References -/

namespace Grammar

/-- Some rule of the symbol has a tag for the other symbol. -/
def Refers (g : Grammar) (symbol other : Text) : Prop :=
  ∃ rules, g.rules? symbol = some rules ∧
    ∃ rule ∈ rules, ∃ sections, Section.ofRule rule = .ok sections ∧
      ∃ body, .tag body ∈ sections ∧
        ∃ tag, Tag.ofBody body = .ok tag ∧ tag.symbol = other ∧ other ≠ []

/-- Paths of references from the start symbol, by their length and the symbol they lead to. -/
inductive Path (g : Grammar) (start : Text) : Nat → Text → Prop where
  /-- No reference leads to the start symbol itself. -/
  | start : Path g start 0 start
  /-- A path goes on with a reference of the symbol that it leads to. -/
  | refer {length : Nat} {symbol other : Text} (path : Path g start length symbol)
      (hrefers : g.Refers symbol other) : Path g start (length + 1) other

/-- All that a symbol leads to is in order. -/
structure IsSoundFrom (g : Grammar) (start : Text) : Prop where
  /-- Every symbol that the start symbol leads to has a rule. -/
  defined : ∀ length symbol, g.Path start length symbol →
    ∃ rule others, g.rules? symbol = some (rule :: others)
  /-- All of its rules can be read. -/
  readable : ∀ length symbol, g.Path start length symbol →
    ∀ rules, g.rules? symbol = some rules →
      ∀ rule ∈ rules, ∃ sections, Section.ofRule rule = .ok sections
  /-- No path is longer than the limit of nesting. -/
  shallow : ∀ length symbol, g.Path start length symbol → length ≤ maxNesting

end Grammar

namespace Expansion

/-! ### Steps that succeed -/

variable {γ α β : Type} {g : Grammar} {depth : Nat}

/-- Whatever is chosen, the step gives a result, and it pushes nothing. -/
def Total (x : Step γ α) : Prop :=
  ∀ chance, ∃ a chance', x.run ⟨[], chance⟩ = (.ok a, ⟨[], chance'⟩)

theorem total_pure (a : α) : Total (pure a : Step γ α) :=
  fun chance => ⟨a, chance, rfl⟩

theorem Total.map {x : Step γ α} (hx : Total x) (f : α → β) : Total (f <$> x) := by
  intro chance
  obtain ⟨a, chance', hrun⟩ := hx chance
  exact ⟨f a, chance', run_map_eq_ok.mpr ⟨a, hrun, rfl⟩⟩

theorem Total.bind {x : Step γ α} {f : α → Step γ β} (hx : Total x) (hf : ∀ a, Total (f a)) :
    Total (x >>= f) := by
  intro chance
  obtain ⟨a, between, hrun⟩ := hx chance
  obtain ⟨b, chance', hrest⟩ := hf a between
  exact ⟨b, chance', run_bind_eq_ok.mpr ⟨a, _, hrun, hrest⟩⟩

variable [Chooser γ]

variable (γ) in
/-- A tag without actions is the expansion of its symbol. -/
theorem expandTag_of_actionFree (g : Grammar) (depth : Nat) {body : Text}
    (h : body.head? ≠ some '[') :
    ∃ tag, Tag.ofBody body = .ok tag ∧
      (expandTag g depth body : Step γ Text) = if tag.symbol = [] then pure []
        else Modifier.applyAll tag.modifiers <$> expandSymbol g depth tag.symbol := by
  obtain ⟨tag, hread, hactions⟩ := Tag.exists_ofBody h
  refine ⟨tag, hread, ?_⟩
  rw [expandTag_eq hread, hactions, runActions, pure_bind]
  exact bind_pure _

theorem total_expandSections {sections : List Section} (hfree : ∀ s ∈ sections, s.IsActionFree)
    (htags : ∀ body, .tag body ∈ sections → Total (expandTag g depth body : Step γ Text)) :
    Total (expandSections g depth sections : Step γ Text) := by
  induction sections with
  | nil =>
    rw [expandSections]
    exact total_pure []
  | cons s sections ih =>
    obtain ⟨hs, hrest⟩ := List.forall_mem_cons.mp hfree
    have hothers := ih hrest fun body hbody => htags body (List.mem_cons_of_mem _ hbody)
    cases s with
    | text t =>
      rw [expandSections_text]
      exact hothers.map _
    | tag body =>
      rw [expandSections_tag]
      exact (htags body List.mem_cons_self).bind fun first => hothers.map _
    | action body => exact hs.elim

/-- **What a path leads to expands**, at the depth that is its length.  The induction is on the
number of levels of nesting that are left. -/
theorem total_expandSymbol (hfree : g.ActionFree) {start : Text} (hsound : g.IsSoundFrom start)
    (levels : Nat) : ∀ depth, maxNesting < depth + levels → ∀ symbol, g.Path start depth symbol →
      Total (expandSymbol g depth symbol : Step γ Text) := by
  induction levels with
  | zero =>
    intro depth hdepth symbol path
    have hshallow := hsound.shallow depth symbol path
    omega
  | succ levels ih =>
    intro depth hdepth symbol path chance
    obtain ⟨rule, others, hrules⟩ := hsound.defined depth symbol path
    have hrulesFor : rulesFor g [] symbol = rule :: others := by
      rw [rulesFor, List.lookup_nil, hrules]
      rfl
    rw [run_expandSymbol g (hsound.shallow depth symbol path) hrulesFor]
    have hchosen := List.get_mem (rule :: others) (Chooser.choose chance others.length).1
    obtain ⟨sections, hread⟩ := hsound.readable depth symbol path _ hrules _ hchosen
    have hsections := hfree _ (Grammar.mem_allRules hrules hchosen) sections hread
    rw [expandRule_eq hread]
    refine total_expandSections hsections (fun body hbody => ?_) _
    obtain ⟨tag, htag, hexpand⟩ :=
      expandTag_of_actionFree γ g (depth + 1) (hsections _ hbody)
    rw [hexpand]
    split
    next => exact total_pure []
    next hsymbol =>
      have hrefers : g.Refers symbol tag.symbol :=
        ⟨_, hrules, _, hchosen, sections, hread, body, hbody, tag, htag, rfl, hsymbol⟩
      exact (ih (depth + 1) (by omega) tag.symbol (path.refer hrefers)).map _

/-! ### Steps that leave all choices -/

/-- Whatever is chosen, the step gives a result. -/
def Succeeds (x : Step Choices α) : Prop :=
  ∀ choices, ∃ a s, x.run ⟨[], choices⟩ = (.ok a, s)

/-- Whatever the steps after it are to choose, the step can be made to succeed and leave these
choices. -/
def LeavesAll (x : Step Choices α) : Prop :=
  ∀ later, ∃ choices a, x.run ⟨[], choices⟩ = (.ok a, ⟨[], later⟩)

theorem leavesAll_pure (a : α) : LeavesAll (pure a : Step Choices α) :=
  fun later => ⟨later, a, rfl⟩

theorem LeavesAll.map {x : Step Choices α} (hx : LeavesAll x) (f : α → β) :
    LeavesAll (f <$> x) := by
  intro later
  obtain ⟨choices, a, hrun⟩ := hx later
  exact ⟨choices, f a, run_map_eq_ok.mpr ⟨a, hrun, rfl⟩⟩

/-- The second step may use what the first gives, but not choose by it. -/
theorem LeavesAll.bind_map {x : Step Choices α} {y : Step Choices β} {f : α → β → β}
    (hx : LeavesAll x) (hy : LeavesAll y) : LeavesAll (x >>= fun a => f a <$> y) := by
  intro later
  obtain ⟨between, b, hb⟩ := hy later
  obtain ⟨choices, a, ha⟩ := hx between
  have hrest : (f a <$> y).run ⟨[], between⟩ = (.ok (f a b), ⟨[], later⟩) :=
    run_map_eq_ok.mpr ⟨b, hb, rfl⟩
  exact ⟨choices, f a b, run_bind_eq_ok.mpr ⟨a, _, ha, hrest⟩⟩

theorem Succeeds.of_map {x : Step Choices α} {f : α → β} (h : Succeeds (f <$> x)) :
    Succeeds x := by
  intro choices
  obtain ⟨b, s, hrun⟩ := h choices
  obtain ⟨a, ha, -⟩ := run_map_eq_ok.mp hrun
  exact ⟨a, s, ha⟩

theorem Succeeds.of_bind {x : Step Choices α} {f : α → Step Choices β}
    (h : Succeeds (x >>= f)) : Succeeds x := by
  intro choices
  obtain ⟨b, s, hrun⟩ := h choices
  obtain ⟨a, between, ha, -⟩ := run_bind_eq_ok.mp hrun
  exact ⟨a, between, ha⟩

/-- If the first of two steps leaves all choices, the second succeeds for all of them. -/
theorem Succeeds.of_leavesAll {x : Step Choices α} {y : Step Choices β} {f : α → β → β}
    (h : Succeeds (x >>= fun a => f a <$> y)) (hx : LeavesAll x) : Succeeds y := by
  intro later
  obtain ⟨choices, a, ha⟩ := hx later
  obtain ⟨b, s, hrun⟩ := h choices
  obtain ⟨a', between, ha', hrest⟩ := run_bind_eq_ok.mp hrun
  obtain ⟨hresult, rfl⟩ := Prod.mk.inj (ha.symm.trans ha')
  obtain ⟨b', hb', -⟩ := run_map_eq_ok.mp hrest
  exact ⟨b', s, hb'⟩

/-- If sections succeed for all choices, each of their tags does, and together they leave all
choices. -/
theorem leavesAll_expandSections {sections : List Section}
    (hfree : ∀ s ∈ sections, s.IsActionFree)
    (htags : ∀ body, .tag body ∈ sections → Succeeds (expandTag g depth body) →
      LeavesAll (expandTag g depth body))
    (h : Succeeds (expandSections g depth sections)) :
    LeavesAll (expandSections g depth sections) ∧
      ∀ body, .tag body ∈ sections → Succeeds (expandTag g depth body) := by
  induction sections with
  | nil =>
    rw [expandSections]
    exact ⟨leavesAll_pure [], fun _ hbody => absurd hbody List.not_mem_nil⟩
  | cons s sections ih =>
    obtain ⟨hs, hrest⟩ := List.forall_mem_cons.mp hfree
    have htags' : ∀ body, .tag body ∈ sections → Succeeds (expandTag g depth body) →
        LeavesAll (expandTag g depth body) :=
      fun body hbody => htags body (List.mem_cons_of_mem _ hbody)
    cases s with
    | text t =>
      rw [expandSections_text] at h ⊢
      obtain ⟨hleaves, hsucceed⟩ := ih hrest htags' h.of_map
      refine ⟨hleaves.map _, fun body hbody => hsucceed body ?_⟩
      refine (List.mem_cons.mp hbody).resolve_left fun heq => ?_
      cases heq
    | tag first =>
      rw [expandSections_tag] at h ⊢
      have hfirst : Succeeds (expandTag g depth first) := h.of_bind
      have hleaves := htags first List.mem_cons_self hfirst
      obtain ⟨hothers, hsucceed⟩ := ih hrest htags' (h.of_leavesAll hleaves)
      refine ⟨hleaves.bind_map hothers, fun body hbody => ?_⟩
      rcases List.mem_cons.mp hbody with heq | hbody
      · rw [Section.tag.inj heq]
        exact hfirst
      · exact hsucceed body hbody
    | action body => exact hs.elim

theorem leavesAll_expandTag {body : Text} (hfree : body.head? ≠ some '[')
    (hsymbols : ∀ symbol, Succeeds (expandSymbol g depth symbol) →
      LeavesAll (expandSymbol g depth symbol))
    (h : Succeeds (expandTag g depth body)) : LeavesAll (expandTag g depth body) := by
  obtain ⟨tag, -, hexpand⟩ := expandTag_of_actionFree Choices g depth hfree
  rw [hexpand] at h ⊢
  split at h
  next hsymbol =>
    rw [if_pos hsymbol]
    exact leavesAll_pure []
  next hsymbol =>
    rw [if_neg hsymbol]
    exact (hsymbols tag.symbol h.of_map).map _

/-- A symbol that expands for all choices has rules.  All of them can be read and expand for all
choices, and if the first of them leaves all choices, so does the symbol. -/
theorem Succeeds.exists_rules {symbol : Text} (h : Succeeds (expandSymbol g depth symbol)) :
    depth ≤ maxNesting ∧ ∃ rule others, g.rules? symbol = some (rule :: others) ∧
      (∀ r ∈ rule :: others, Succeeds (expandRule g (depth + 1) r)) ∧
      (LeavesAll (expandRule g (depth + 1) rule) → LeavesAll (expandSymbol g depth symbol)) := by
  have hdepth : depth ≤ maxNesting := by
    refine Nat.le_of_not_lt fun hlimit => ?_
    obtain ⟨a, s, hrun⟩ := h ⟨fun _ => 0⟩
    rw [run_expandSymbol_limit hlimit] at hrun
    cases hrun
  have hrulesFor : rulesFor g [] symbol = (g.rules? symbol).getD [] := rfl
  cases hrules : rulesFor g [] symbol with
  | nil =>
    obtain ⟨a, s, hrun⟩ := h ⟨fun _ => 0⟩
    rw [run_expandSymbol_unknown hdepth hrules] at hrun
    cases hrun
  | cons rule others =>
    have hown : g.rules? symbol = some (rule :: others) := by
      rw [hrules] at hrulesFor
      cases hsome : g.rules? symbol with
      | none => rw [hsome] at hrulesFor; cases hrulesFor
      | some rules => rw [hsome] at hrulesFor; exact congrArg some hrulesFor.symm
    -- A sequence that begins with the index of a rule runs this rule on what follows.
    have hchoose : ∀ (i : Fin (others.length + 1)) later,
        (expandSymbol g depth symbol).run ⟨[], Choices.cons i later⟩
          = (expandRule g (depth + 1) ((rule :: others).get i)).run ⟨[], later⟩ := by
      intro i later
      rw [run_expandSymbol g hdepth hrules, Choices.choose_cons]
    refine ⟨hdepth, rule, others, hown, ?_, ?_⟩
    · intro r hr later
      obtain ⟨i, rfl⟩ := List.get_of_mem hr
      rw [← hchoose i later]
      exact h _
    · intro hleaves later
      obtain ⟨choices, a, hrun⟩ := hleaves later
      exact ⟨Choices.cons 0 choices, a, (hchoose 0 choices).trans hrun⟩

/-- A rule that expands for all choices can be read. -/
theorem Succeeds.exists_sections {rule : Text} (h : Succeeds (expandRule g depth rule)) :
    ∃ sections, Section.ofRule rule = .ok sections ∧
      Succeeds (expandSections g depth sections) := by
  cases hread : Section.ofRule rule with
  | ok sections =>
    rw [expandRule_eq hread] at h
    exact ⟨sections, rfl, h⟩
  | error fault =>
    obtain ⟨a, s, hrun⟩ := h ⟨fun _ => 0⟩
    rw [expandRule_error hread] at hrun
    cases hrun

/-- **A symbol that expands for all choices leaves all choices** to what comes after it.  The
induction is on the number of levels of nesting that are left. -/
theorem leavesAll_expandSymbol (hfree : g.ActionFree) (levels : Nat) :
    ∀ depth, maxNesting < depth + levels → ∀ symbol, Succeeds (expandSymbol g depth symbol) →
      LeavesAll (expandSymbol g depth symbol) := by
  induction levels with
  | zero =>
    intro depth hdepth symbol h
    have hlimit := h.exists_rules.1
    omega
  | succ levels ih =>
    intro depth hdepth symbol h
    obtain ⟨-, rule, others, hrules, hsucceed, hleaves⟩ := h.exists_rules
    obtain ⟨sections, hread, hsections⟩ := (hsucceed rule List.mem_cons_self).exists_sections
    have hsectionsFree :=
      hfree rule (Grammar.mem_allRules hrules List.mem_cons_self) sections hread
    refine hleaves ?_
    rw [expandRule_eq hread]
    refine (leavesAll_expandSections hsectionsFree (fun body hbody => ?_) hsections).1
    exact leavesAll_expandTag (hsectionsFree _ hbody) (ih (depth + 1) (by omega))

/-- If a symbol expands for all choices, what it refers to does so one level deeper. -/
theorem Succeeds.of_refers (hfree : g.ActionFree) {symbol other : Text}
    (h : Succeeds (expandSymbol g depth symbol)) (hrefers : g.Refers symbol other) :
    Succeeds (expandSymbol g (depth + 1) other) := by
  obtain ⟨rules, hrules, r, hr, sections, hread, body, hbody, tag, htag, rfl, hne⟩ := hrefers
  obtain ⟨-, rule, others, hown, hsucceed, -⟩ := h.exists_rules
  obtain rfl : rules = rule :: others := Option.some.inj (hrules.symm.trans hown)
  obtain ⟨sections', hread', hsections⟩ := (hsucceed r hr).exists_sections
  obtain rfl : sections = sections' := Except.ok.inj (hread.symm.trans hread')
  have hsectionsFree := hfree r (Grammar.mem_allRules hrules hr) sections hread
  have hleaves := leavesAll_expandSymbol hfree (maxNesting + 1) (depth + 1) (by omega)
  have htags := (leavesAll_expandSections hsectionsFree (fun body hbody =>
    leavesAll_expandTag (hsectionsFree _ hbody) hleaves) hsections).2
  obtain ⟨tag', htag', hexpand⟩ :=
    expandTag_of_actionFree Choices g (depth + 1) (hsectionsFree _ hbody)
  obtain rfl : tag = tag' := Except.ok.inj (htag.symm.trans htag')
  have hsymbol := htags body hbody
  rw [hexpand, if_neg hne] at hsymbol
  exact hsymbol.of_map

end Expansion

namespace Grammar

/-- **An expansion without actions always succeeds** exactly when all that the start symbol leads to
is defined and can be read and no path of references is too long.  Then it succeeds in whatever way
the choices are made. -/
theorem expands_iff {g : Grammar} (hfree : g.ActionFree) (start : Text) :
    ((∀ choices : Choices, ∃ text, (g.expand start choices).1 = .ok text) ↔
        g.IsSoundFrom start) ∧
      (g.IsSoundFrom start → ∀ (γ : Type) [Chooser γ] (chance : γ),
        ∃ text, (g.expand start chance).1 = .ok text) := by
  have hall : g.IsSoundFrom start → ∀ (γ : Type) [Chooser γ] (chance : γ),
      ∃ text, (g.expand start chance).1 = .ok text := by
    intro hsound γ _ chance
    have htotal : Expansion.Total (Expansion.expandSymbol g 0 start : Expansion.Step γ Text) :=
      Expansion.total_expandSymbol hfree hsound (maxNesting + 1) 0 (by omega) start .start
    obtain ⟨text, chance', hrun⟩ := htotal chance
    exact ⟨text, by rw [expand_fst, hrun]⟩
  refine ⟨⟨fun h => ?_, fun hsound => hall hsound Choices⟩, hall⟩
  have hpath : ∀ length symbol, g.Path start length symbol →
      Expansion.Succeeds (Expansion.expandSymbol g length symbol) := by
    intro length symbol path
    induction path with
    | start =>
      intro choices
      obtain ⟨text, htext⟩ := h choices
      exact ⟨text, _, Prod.ext htext rfl⟩
    | refer path hrefers ih => exact ih.of_refers hfree hrefers
  constructor
  case defined =>
    intro length symbol path
    obtain ⟨-, rule, others, hrules, -⟩ := (hpath length symbol path).exists_rules
    exact ⟨rule, others, hrules⟩
  case readable =>
    intro length symbol path rules hown r hr
    obtain ⟨-, rule, others, hrules, hsucceed, -⟩ := (hpath length symbol path).exists_rules
    obtain rfl : rules = rule :: others := Option.some.inj (hown.symm.trans hrules)
    obtain ⟨sections, hread, -⟩ := (hsucceed r hr).exists_sections
    exact ⟨sections, hread⟩
  case shallow => exact fun length symbol path => (hpath length symbol path).exists_rules.1

/-! ### A grammar that always expands -/

/-- A grammar whose start symbol refers to one other symbol. -/
def greeting : Grammar :=
  Grammar.ofRules [(startSymbol, ["Hi #name#!".toList]), ("name".toList, ["Ada".toList])]

theorem rules_greeting {symbol : Text} {rules : List Text}
    (h : greeting.rules? symbol = some rules) :
    symbol = startSymbol ∧ rules = ["Hi #name#!".toList] ∨
      symbol = "name".toList ∧ rules = ["Ada".toList] := by
  have hentry := Dictionary.mem_entries_of_get? h
  have hentries : greeting.dictionary.entries
      = [("name".toList, ["Ada".toList]), (startSymbol, ["Hi #name#!".toList])] := rfl
  rw [hentries] at hentry
  simp only [List.mem_cons, List.not_mem_nil, or_false, Prod.mk.injEq] at hentry
  exact hentry.symm

theorem ofRule_greeting :
    Section.ofRule "Hi #name#!".toList
      = .ok [.text "Hi ".toList, .tag "name".toList, .text "!".toList] := rfl

theorem ofRule_name : Section.ofRule "Ada".toList = .ok [.text "Ada".toList] := rfl

theorem ofBody_name : Tag.ofBody "name".toList = .ok ⟨[], "name".toList, []⟩ := by cbv

theorem actionFree_greeting : greeting.ActionFree := by
  have hrules : greeting.allRules = ["Ada".toList, "Hi #name#!".toList] := rfl
  intro rule hrule sections hread s hs
  rw [hrules] at hrule
  simp only [List.mem_cons, List.not_mem_nil, or_false] at hrule
  rcases hrule with rfl | rfl
  · rw [ofRule_name] at hread
    rw [← Except.ok.inj hread] at hs
    rw [List.mem_singleton.mp hs]
    trivial
  · rw [ofRule_greeting] at hread
    rw [← Except.ok.inj hread] at hs
    simp only [List.mem_cons, List.not_mem_nil, or_false] at hs
    rcases hs with rfl | rfl | rfl
    · trivial
    · exact nofun
    · trivial

theorem refers_greeting {symbol other : Text} (h : greeting.Refers symbol other) :
    symbol = startSymbol ∧ other = "name".toList := by
  obtain ⟨rules, hrules, rule, hrule, sections, hread, body, hbody, tag, htag, rfl, -⟩ := h
  rcases rules_greeting hrules with ⟨rfl, rfl⟩ | ⟨rfl, rfl⟩
  · rw [List.mem_singleton.mp hrule, ofRule_greeting] at hread
    rw [← Except.ok.inj hread] at hbody
    obtain rfl : body = "name".toList := by simpa using hbody
    rw [ofBody_name] at htag
    rw [← Except.ok.inj htag]
    exact ⟨rfl, rfl⟩
  · rw [List.mem_singleton.mp hrule, ofRule_name] at hread
    rw [← Except.ok.inj hread] at hbody
    cases List.mem_singleton.mp hbody

theorem path_greeting {length : Nat} {symbol : Text}
    (path : greeting.Path startSymbol length symbol) :
    length = 0 ∧ symbol = startSymbol ∨ length = 1 ∧ symbol = "name".toList := by
  induction path with
  | start => exact Or.inl ⟨rfl, rfl⟩
  | refer path hrefers ih =>
    obtain ⟨hsymbol, rfl⟩ := refers_greeting hrefers
    rcases ih with ⟨rfl, -⟩ | ⟨-, hname⟩
    · exact Or.inr ⟨rfl, rfl⟩
    · rw [hname] at hsymbol
      exact absurd hsymbol (by decide +kernel)

theorem isSoundFrom_greeting : greeting.IsSoundFrom startSymbol where
  defined length symbol path := by
    rcases path_greeting path with ⟨-, rfl⟩ | ⟨-, rfl⟩
    · exact ⟨_, _, rfl⟩
    · exact ⟨_, _, rfl⟩
  readable length symbol path rules hrules rule hrule := by
    rcases rules_greeting hrules with ⟨-, rfl⟩ | ⟨-, rfl⟩
    · exact ⟨_, List.mem_singleton.mp hrule ▸ ofRule_greeting⟩
    · exact ⟨_, List.mem_singleton.mp hrule ▸ ofRule_name⟩
  shallow length symbol path := by
    rcases path_greeting path with ⟨rfl, -⟩ | ⟨rfl, -⟩
    · exact Nat.zero_le _
    · exact Nat.succ_le_succ (Nat.zero_le _)

theorem expands_iff_greeting :
    greeting.ActionFree ∧ greeting.IsSoundFrom startSymbol ∧
      (∀ choices : Choices, ∃ text, (greeting.expand startSymbol choices).1 = .ok text) ∧
      ∀ seed, ∃ text, (greeting.expand startSymbol (Generator.ofSeed seed)).1 = .ok text := by
  obtain ⟨hiff, hall⟩ := expands_iff actionFree_greeting startSymbol
  refine ⟨actionFree_greeting, isSoundFrom_greeting, hiff.mpr isSoundFrom_greeting, ?_⟩
  exact fun seed => hall isSoundFrom_greeting Generator (Generator.ofSeed seed)

end Grammar

end GrammarBots

import GrammarBots.Proofs.Bot.Check
import GrammarBots.Proofs.Media.Guards
import GrammarBots.Media.Resolution

/-!
# What a report says about directives

The check looks for directives in the rules of a bot, and a post has those of the expanded text.
For a rule without tags and actions they agree (`BotReport.directiveWarnings_of_literal`): the rule
and its expansion have the same number of directives, the same ones of them name no media, and the
check warns about as many as are dropped when the post is rendered.

That the directives are the same is `forall₂_sameKind_scan`.  A directive is dropped exactly if it
names no media, whatever is fetched, detected and uploaded with (`count_isDropped_resolve`).
-/

namespace GrammarBots

/-- Whether a directive was dropped: it gave neither an attachment nor an error. -/
def isDropped : Except MediaError (Option Handle) → Bool
  | .ok none => true
  | .ok (some _) => false
  | .error _ => false

/-- The directive names no media. -/
def NamesNothing (raw : Text) : Prop := Resource.ofDirective? raw = none

instance : DecidablePred NamesNothing :=
  fun raw => inferInstanceAs (Decidable (Resource.ofDirective? raw = none))

theorem SameKind.namesNothing_iff {raw raw' : Text} (h : SameKind raw raw') :
    NamesNothing raw ↔ NamesNothing raw' := by
  rw [NamesNothing, NamesNothing, ← Option.map_eq_none_iff (f := (·.kind)), h,
    Option.map_eq_none_iff]

theorem countP_namesNothing_eq {directives directives' : List Directive}
    (h : List.Forall₂ (fun d d' => NamesNothing d.raw ↔ NamesNothing d'.raw)
      directives directives') :
    (directives.countP fun d => NamesNothing d.raw)
      = directives'.countP fun d => NamesNothing d.raw := by
  induction h with
  | nil => rfl
  | cons hiff _ ih => simp only [List.countP_cons, ih, hiff]

/-! ### What is dropped -/

section Resolve

variable {σ : Type} (services : MediaServices (StateM σ)) (timeout : Nat)

/-- A directive that names no media is dropped without any use of the services. -/
theorem resolve_of_namesNothing {m : Type → Type} [Monad m] (services : MediaServices m)
    {raw : Text} (h : NamesNothing raw) : resolve services timeout raw = pure (.ok none) := by
  have hdemand : Demand.ofDirective raw = .nothing := by rw [Demand.ofDirective, h]
  rw [resolve, hdemand]

theorem isDropped_map_some (answer : Except MediaError Handle) :
    isDropped (answer.map some) = false := by
  cases answer <;> rfl

/-- **A directive is dropped exactly if it names no media.** -/
theorem isDropped_resolve (raw : Text) (s : σ) :
    isDropped ((resolve services timeout raw).run s).1 = decide (NamesNothing raw) := by
  by_cases h : NamesNothing raw
  · rw [resolve_of_namesNothing timeout services h, decide_eq_true h]
    rfl
  rw [decide_eq_false h]
  obtain ⟨resource, hresource⟩ := Option.ne_none_iff_exists'.mp h
  rw [resolve, Demand.ofDirective, hresource]
  by_cases hurl : resource.url = []
  · simp only [if_pos hurl]
    rfl
  simp only [if_neg hurl]
  have hbind (after : Option (Except MediaError Bytes) →
      StateM σ (Except MediaError (Option Handle))) :
      (services.fetch resource.url >>= after).run s
        = (after ((services.fetch resource.url).run s).1).run
            ((services.fetch resource.url).run s).2 := rfl
  rw [hbind]
  split
  next => rfl
  next payload _ =>
    split
    next => rfl
    next mime _ => exact isDropped_map_some _

theorem count_isDropped_resolve (directives : List Directive) (s : σ) :
    ((directives.mapM fun d => resolve services timeout d.raw).run s).1.countP isDropped
      = directives.countP fun d => NamesNothing d.raw := by
  induction directives generalizing s with
  | nil => rfl
  | cons d directives ih =>
    rw [List.mapM_cons]
    show (((resolve services timeout d.raw).run s).1 :: _).countP isDropped = _
    rw [List.countP_cons, List.countP_cons, isDropped_resolve]
    exact congrArg (· + _) (ih _)

end Resolve

namespace BotReport

variable {bot : BotRecord} {bots : List BotRecord} {report : BotReport} {i : Nat}
  {g : Grammar} {symbol rule : Text} {rules : List Text}

/-! ### The warnings of a rule -/

theorem length_directiveWarnings (symbol rule : Text) :
    (directiveWarnings symbol rule).length
      = (Directive.scan rule).countP fun d => NamesNothing d.raw := by
  rw [directiveWarnings, List.length_map, List.countP_eq_length_filter]
  refine congrArg List.length (List.filter_congr fun d _ => ?_)
  rw [Bool.eq_iff_iff, Option.isNone_iff_eq_none, decide_eq_true_iff]
  rfl

theorem warnings_ofBotsAfter {seen : List String} (hbot : bots[i]? = some bot)
    (hreport : (ofBotsAfter seen bots)[i]? = some report) :
    report.warnings = (ofBot bot).warnings := by
  obtain ⟨repeated, rfl⟩ := eq_ofBotAmong_of_ofBotsAfter hbot hreport
  rfl

/-- The report of a bot has the warnings about each of its rules, side by side. -/
theorem isInfix_directiveWarnings (hbot : bots[i]? = some bot)
    (hreport : (ofBots bots)[i]? = some report) (hg : bot.grammar = .ok g)
    (hrules : g.rules? symbol = some rules) (hrule : rule ∈ rules) :
    directiveWarnings symbol rule <:+: report.warnings := by
  have hentry : directiveWarnings symbol rule <:+: rules.flatMap (directiveWarnings symbol) := by
    rw [List.flatMap_def]
    exact List.infix_of_mem_flatten (List.mem_map_of_mem hrule)
  have hgrammar : rules.flatMap (directiveWarnings symbol) <:+: grammarWarnings g := by
    rw [grammarWarnings, List.flatMap_def]
    exact List.infix_of_mem_flatten (List.mem_map.mpr
      ⟨(symbol, rules), Dictionary.mem_entries_of_get? hrules, rfl⟩)
  rw [warnings_ofBotsAfter hbot hreport, ofBot, hg]
  exact (hentry.trans hgrammar).trans (List.suffix_append _ _).isInfix

/-! ### Literal rules -/

/-- **The expansion of a rule without tags and actions** is one text, whatever chance chooses, and
its directives name media of the kinds that those of the rule name. -/
theorem exists_expandRule_of_text {sections : List Section}
    (hsections : Section.ofRule rule = .ok sections) (htext : ∀ s ∈ sections, s.isText = true) :
    ∃ t, (∀ (γ : Type) [Chooser γ] depth,
        (Expansion.expandRule g depth rule : Expansion.Step γ Text) = pure t) ∧
      List.Forall₂ SameKind ((Directive.scan rule).map (·.raw))
        ((Directive.scan t).map (·.raw)) := by
  obtain ⟨t, rfl, hguards⟩ := Section.exists_unguards_of_text hsections htext
  refine ⟨t, fun γ _ depth => ?_, forall₂_sameKind_scan hguards⟩
  rw [Expansion.expandRule_eq hsections, Expansion.expandSections_literal]

/-- **The check and the renderer agree on literal rules.**  A rule without tags and actions has as
many directives as its expansion.  Each of them names no media exactly if its counterpart does, and
then nothing is asked of the services for it.  The report of the bot warns about as many directives
of the rule as are dropped. -/
theorem directiveWarnings_of_literal {sections : List Section} (hbot : bots[i]? = some bot)
    (hreport : (ofBots bots)[i]? = some report) (hg : bot.grammar = .ok g)
    (hrules : g.rules? symbol = some rules) (hrule : rule ∈ rules)
    (hsections : Section.ofRule rule = .ok sections) (htext : ∀ s ∈ sections, s.isText = true) :
    directiveWarnings symbol rule <:+: report.warnings ∧
      ∃ t, (∀ (γ : Type) [Chooser γ] depth,
          (Expansion.expandRule g depth rule : Expansion.Step γ Text) = pure t) ∧
        (Directive.scan rule).length = (Directive.scan t).length ∧
        (∀ (j : Nat) d d', (Directive.scan rule)[j]? = some d → (Directive.scan t)[j]? = some d' →
          (NamesNothing d.raw ↔ NamesNothing d'.raw) ∧
          (NamesNothing d.raw → ∀ (m : Type → Type) [Monad m] (services : MediaServices m) timeout,
            resolve services timeout d'.raw = pure (.ok none))) ∧
        ∀ (σ : Type) (services : MediaServices (StateM σ)) timeout s,
          (((Directive.scan t).mapM fun d => resolve services timeout d.raw).run s).1.countP
            isDropped = (directiveWarnings symbol rule).length := by
  obtain ⟨t, hexpand, hsame⟩ := exists_expandRule_of_text (g := g) hsections htext
  have hnothing : List.Forall₂ (fun d d' => NamesNothing d.raw ↔ NamesNothing d'.raw)
      (Directive.scan rule) (Directive.scan t) :=
    (List.forall₂_map_left_iff.mp (List.forall₂_map_right_iff.mp hsame)).imp
      fun _ _ h => h.namesNothing_iff
  refine ⟨isInfix_directiveWarnings hbot hreport hg hrules hrule, t, hexpand, hnothing.length_eq,
    ?_, ?_⟩
  · intro j d d' hd hd'
    obtain ⟨hj, rfl⟩ := List.getElem?_eq_some_iff.mp hd
    obtain ⟨hj', rfl⟩ := List.getElem?_eq_some_iff.mp hd'
    have hiff := hnothing.get hj hj'
    exact ⟨hiff, fun h m _ services timeout => resolve_of_namesNothing timeout services (hiff.mp h)⟩
  · intro σ services timeout s
    rw [count_isDropped_resolve, length_directiveWarnings]
    exact (countP_namesNothing_eq hnothing).symm

/-- A rule with a guarded hash in a directive, and a guarded backslash before a brace. -/
def postcardRule : Text := "\x7bgif \\#1\x7d\x7bimg u\x7d \\\\\x7d".toList

/-- A bot with this rule. -/
def postcard : BotRecord :=
  scripted "\x7b\"origin\": [\"\x7bgif \\\\#1\x7d\x7bimg u\x7d \\\\\\\\\x7d\"]\x7d"

theorem directiveWarnings_of_literal_postcard :
    (directiveWarnings startSymbol postcardRule).length = 1 ∧
      directiveWarnings startSymbol postcardRule <:+: (ofBot postcard).warnings ∧
      ∃ g t, postcard.grammar = .ok g ∧ (∀ (γ : Type) [Chooser γ] depth,
          (Expansion.expandRule g depth postcardRule : Expansion.Step γ Text) = pure t) ∧
        ∀ (σ : Type) (services : MediaServices (StateM σ)) timeout s,
          (((Directive.scan t).mapM fun d => resolve services timeout d.raw).run s).1.countP
            isDropped = 1 := by
  have hg : postcard.grammar = .ok (Grammar.ofRules [(startSymbol, [postcardRule])]) := by
    show Grammar.ofScript "\x7b\"origin\": [\"\x7bgif \\\\#1\x7d\x7bimg u\x7d \\\\\\\\\x7d\"]\x7d" = _
    cbv
  have hsections : Section.ofRule postcardRule
      = .ok [.text "\x7bgif #1\x7d\x7bimg u\x7d \\\x7d".toList] := rfl
  have hone : (directiveWarnings startSymbol postcardRule).length = 1 := by
    rw [length_directiveWarnings]
    decide +kernel
  have hrules : (Grammar.ofRules [(startSymbol, [postcardRule])]).rules? startSymbol
      = some [postcardRule] := rfl
  have hbot : [postcard][0]? = some postcard := rfl
  have hreport : (ofBots [postcard])[0]? = some (ofBot postcard) := rfl
  obtain ⟨hwarnings, t, hexpand, -, -, hdropped⟩ := directiveWarnings_of_literal hbot hreport hg
    hrules List.mem_cons_self hsections (List.forall_mem_singleton.mpr rfl)
  refine ⟨hone, hwarnings, _, t, hg, hexpand, fun σ services timeout s => ?_⟩
  rw [hdropped σ services timeout s, hone]

end BotReport

end GrammarBots

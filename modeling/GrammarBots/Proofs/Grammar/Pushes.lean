import GrammarBots.Proofs.Grammar.Printing
import GrammarBots.Proofs.Grammar.Steps

/-!
# What a push leaves

An action `[x:R]` expands its rule once and pushes the text; a tag `#x#` after it reads that text as
a rule once more.  `Expansion.expandTag_of_push` says so, and that the tag gives the text itself and
does nothing else if the text is inert.  Inert texts are those that reading leaves as they are
(`Section.ofRule_eq_self_iff`): they have no hash, no bracket and no two backslashes in a row.  What
an escape in `R` was to keep literal is therefore lost: `Expansion.hash_read_again` is a rule that
pushes a hash and fails on reading it.
-/

namespace GrammarBots

namespace Section

/-! ### Inert text -/

/-- Nothing in the text means anything in a rule. -/
structure IsInert (t : Text) : Prop where
  /-- There is neither a hash nor a bracket. -/
  plain : ∀ c ∈ t, c ≠ '#' ∧ c ≠ '[' ∧ c ≠ ']'
  /-- No backslash guards another one. -/
  unguarded : ¬ ['\\', '\\'] <:+: t

/-- The reader collects a character that is neither a delimiter nor a backslash before a special
character. -/
theorem read_text_cons {c : Char} {rest : Text} (hc : c ≠ '#' ∧ c ≠ '[' ∧ c ≠ ']')
    (hguard : c = '\\' → ∀ next ∈ rest.head?, isSpecial next = false) (collected : Text) :
    read .text collected (c :: rest) = read .text (c :: collected) rest := by
  by_cases hbackslash : c = '\\'
  · subst hbackslash
    cases rest with
    | nil => rfl
    | cons next rest =>
      have hnext : isSpecial next = false := hguard rfl next rfl
      rw [read_text_plain hnext, read, if_neg (by rw [hnext]; exact Bool.false_ne_true)]
  · refine read_text_plain ?_ collected rest
    simp [isSpecial, hc, hbackslash]

theorem IsInert.of_cons {c : Char} {t : Text} (h : IsInert (c :: t)) : IsInert t where
  plain d hd := h.plain d (List.mem_cons_of_mem c hd)
  unguarded hpair := h.unguarded (hpair.trans (List.suffix_cons c t).isInfix)

theorem IsInert.guard {c : Char} {t : Text} (h : IsInert (c :: t)) (hc : c = '\\') :
    ∀ next ∈ t.head?, isSpecial next = false := by
  intro next hnext
  obtain ⟨rest, rfl⟩ := List.head?_eq_some_iff.mp hnext
  have hplain := h.plain next (by simp)
  have hbackslash : next ≠ '\\' := by
    rintro rfl
    exact h.unguarded ⟨[], rest, by rw [hc]; rfl⟩
  simp [isSpecial, hplain, hbackslash]

theorem read_of_isInert {t : Text} (h : IsInert t) (collected : Text) :
    read .text collected t = .ok (consText (t.reverse ++ collected) []) := by
  induction t generalizing collected with
  | nil => rfl
  | cons c t ih =>
    rw [read_text_cons (h.plain c List.mem_cons_self) h.guard, ih h.of_cons]
    simp

/-- A tag or action is read as more than one text. -/
theorem consText_ofBody_ne {inTag : Bool} {collected body v : Text} {inner : List Section} :
    consText collected (ofBody inTag body :: inner) ≠ consText v [] := by
  intro h
  have hmem : ofBody inTag body ∈ consText v [] := by
    rw [← h, consText]
    split <;> simp
  have htext : (ofBody inTag body).isText = true := by
    unfold consText at hmem
    split at hmem
    · cases hmem
    · rw [List.mem_singleton.mp hmem]
      rfl
  rw [isText_ofBody] at htext
  cases htext

theorem isInert_of_read {collected t v : Text} (h : read .text collected t = .ok (consText v []))
    (hlength : v.length = collected.length + t.length) : IsInert t := by
  induction t generalizing collected with
  | nil => exact ⟨List.forall_mem_nil _, by simp⟩
  | cons c t ih =>
    have hbody : ∀ inTag, (read (.inBody inTag 0) [] t).map (consText collected)
        ≠ .ok (consText v []) := by
      intro inTag hread
      obtain ⟨inner, hinner, heq⟩ := exists_of_map_eq_ok hread
      obtain ⟨body, after, rest, -, -, -, rfl⟩ := exists_body_of_read hinner
      exact consText_ofBody_ne heq
    have hhash : c ≠ '#' := by
      rintro rfl
      rw [read] at h
      exact hbody true h
    have hopen : c ≠ '[' := by
      rintro rfl
      rw [read] at h
      exact hbody false h
    have hclose : c ≠ ']' := by
      rintro rfl
      cases h
    have hguard : c = '\\' → ∀ next ∈ t.head?, isSpecial next = false := by
      rintro rfl next hnext
      obtain ⟨rest, rfl⟩ := List.head?_eq_some_iff.mp hnext
      by_contra hspecial
      rw [Bool.not_eq_false] at hspecial
      rw [read, if_pos hspecial] at h
      -- An escape that was resolved leaves too little to weigh as much as the text.
      have hweights := weights_le_of_read h
      rw [weights_consText] at hweights
      simp only [Mode.opened, weights, List.length_cons] at hweights hlength
      omega
    have hc : c ≠ '#' ∧ c ≠ '[' ∧ c ≠ ']' := ⟨hhash, hopen, hclose⟩
    rw [read_text_cons hc hguard] at h
    have hrest := ih h (by simp only [List.length_cons] at hlength ⊢; omega)
    refine ⟨List.forall_mem_cons.mpr ⟨hc, hrest.plain⟩, fun hpair => ?_⟩
    rcases List.infix_cons_iff.mp hpair with hhead | hpair
    · obtain ⟨rest, heq⟩ := hhead
      simp only [List.cons_append, List.nil_append, List.cons.injEq] at heq
      have hspecial := hguard heq.1.symm '\\' (by rw [← heq.2]; rfl)
      cases hspecial
    · exact hrest.unguarded hpair

/-- **Reading leaves a text as it is** if and only if the text is inert. -/
theorem ofRule_eq_self_iff {t : Text} :
    ofRule t = .ok (if t = [] then [] else [.text t]) ↔ IsInert t := by
  have hself : consText t.reverse [] = if t = [] then [] else [.text t] := by
    cases t with
    | nil => rfl
    | cons c t => simp [consText]
  rw [ofRule, ← hself]
  constructor
  · intro h
    exact isInert_of_read h (by simp)
  · intro h
    rw [read_of_isInert h, List.append_nil]

end Section

/-! ### Plain names -/

/-- The text is a plain name of a symbol: a tag or action that begins with it means that symbol. -/
structure Text.IsName (name : Text) : Prop where
  /-- There is a name. -/
  nonempty : name ≠ []
  /-- No white space stands at either end. -/
  trimmed : Text.trim name = name
  /-- Nothing ends the name. -/
  plain : ∀ c ∈ name, c ≠ ':' ∧ c ≠ '.' ∧ c ≠ '['

theorem Text.splitOnce?_append {sep : Char} {before : Text} (h : ∀ c ∈ before, c ≠ sep)
    (after : Text) : splitOnce? sep (before ++ sep :: after) = some (before, after) := by
  induction before with
  | nil => simp [splitOnce?]
  | cons c before ih =>
    obtain ⟨hc, hrest⟩ := List.forall_mem_cons.mp h
    rw [List.cons_append, splitOnce?, if_neg hc, ih hrest]
    rfl

/-- Text without dots is one part. -/
theorem Tag.splitDots_eq_singleton {t : Text} (h : ∀ c ∈ t, c ≠ '.') (depth : Nat)
    (collected : Text) : splitDots depth collected t = [collected.reverse ++ t] := by
  fun_induction splitDots depth collected t <;> simp_all

/-- The tag of a plain name has nothing but the name. -/
theorem Tag.ofBody_name {name : Text} (h : name.IsName) : ofBody name = .ok ⟨[], name, []⟩ := by
  obtain ⟨c, rest, hname⟩ := List.exists_cons_of_ne_nil h.nonempty
  have hactions : leadingActions name = .ok ([], name) := by
    rw [hname]
    unfold leadingActions
    split
    next heq =>
      obtain ⟨rfl, -⟩ := List.cons.inj heq
      exact absurd rfl (h.plain '[' (by simp [hname])).2.2
    next => rfl
  have hdots : splitDots 0 [] name = [name] :=
    splitDots_eq_singleton (fun c hc => (h.plain c hc).2.1) 0 []
  rw [ofBody, hactions]
  simp only [Except.map, hdots, h.trimmed]

/-- The action that begins with a plain name pushes onto it. -/
theorem Action.ofBody_name {name rules : Text} (h : name.IsName) (hpop : rules ≠ "POP".toList) :
    ofBody (name ++ ':' :: rules) = .ok (.push name (rulesOf rules)) := by
  rw [ofBody, Text.splitOnce?_append fun c hc => (h.plain c hc).1]
  simp only [h.trimmed, if_neg h.nonempty, if_neg hpop]

namespace Expansion

/-! ### Stacks -/

/-- The rules that are looked up are those on top of the stack. -/
theorem lookup_eq_head?_stack (pushed : List (Text × List Text)) (symbol : Text) :
    pushed.lookup symbol = (stack pushed symbol).head? := by
  induction pushed with
  | nil => rfl
  | cons entry pushed ih =>
    obtain ⟨target, rules⟩ := entry
    by_cases htarget : target = symbol
    · subst htarget
      simp [stack]
    · have hne : (symbol == target) = false := beq_false_of_ne (Ne.symm htarget)
      rw [List.lookup_cons, hne]
      simpa [stack, htarget] using ih

variable {γ : Type} [Chooser γ] {g : Grammar} {depth : Nat} {name t : Text}

/-- A tag without actions and modifiers is the expansion of its symbol. -/
theorem expandTag_name (h : name.IsName) :
    (expandTag g depth name : Step γ Text) = expandSymbol g depth name := by
  rw [expandTag_eq (Tag.ofBody_name h), runActions, pure_bind]
  simp only [if_neg h.nonempty]
  show Modifier.applyAll [] <$> expandSymbol g depth name >>= pure = _
  rw [bind_pure]
  exact id_map _

theorem expandRule_of_isInert (h : Section.IsInert t) :
    (expandRule g depth t : Step γ Text) = pure t := by
  rw [expandRule_eq (Section.ofRule_eq_self_iff.mpr h), expandSections_literal]

/-- The action `[name:rule]` pushes what the rule expands to. -/
theorem run_push_name {rule : Text} {s s' : State γ} (hname : name.IsName)
    (hsingle : Action.rulesOf rule = [rule]) (hpop : rule ≠ "POP".toList)
    (hexpand : (expandRule g (depth + 1) rule).run s = (.ok t, s')) :
    (runAction g depth (name ++ ':' :: rule)).run s
      = (.ok (some name), { s' with pushed := (name, [t]) :: s'.pushed }) := by
  have hbody : Action.ofBody (name ++ ':' :: rule) = .ok (.push name [rule]) := by
    rw [Action.ofBody_name hname hpop, hsingle]
  have hrules : (expandRules g (depth + 1) [rule]).run s = (.ok [t], s') := by
    rw [expandRules, expandRules]
    refine run_bind_eq_ok.mpr ⟨t, s', hexpand, ?_⟩
    rfl
  rw [runAction_push hbody, run_bind, hrules]
  rfl

/-- While one rule is on top of a stack, the tag reads this rule. -/
theorem run_tag_of_top {s : State γ} (hname : name.IsName) (hdepth : depth ≤ maxNesting)
    (htop : (stack s.pushed name).head? = some [t]) :
    (expandTag g depth name).run s
      = (expandRule g (depth + 1) t).run { s with chance := (Chooser.choose s.chance 0).2 } := by
  have hrules : rulesFor g s.pushed name = [t] := by
    rw [rulesFor, lookup_eq_head?_stack, htop]
  rw [expandTag_name hname, run_expandSymbol_of_single g hdepth hrules]

/-- **What a push leaves is read again**: the action `[name:rule]` pushes the text that the rule
expands to, and while this push is on top, the tag `#name#` is that text expanded as a rule.  If the
text is inert, the tag gives the text itself, and nothing but the state of chance changes. -/
theorem expandTag_of_push {rule : Text} {s s' : State γ} (hname : name.IsName)
    (hsingle : Action.rulesOf rule = [rule]) (hpop : rule ≠ "POP".toList)
    (hexpand : (expandRule g (depth + 1) rule).run s = (.ok t, s')) :
    (runAction g depth (name ++ ':' :: rule)).run s
        = (.ok (some name), { s' with pushed := (name, [t]) :: s'.pushed }) ∧
      (stack ((name, [t]) :: s'.pushed) name).head? = some [t] ∧
      ∀ (u : State γ) (level : Nat), level ≤ maxNesting →
        (stack u.pushed name).head? = some [t] →
          (expandTag g level name).run u = (expandRule g (level + 1) t).run
              { u with chance := (Chooser.choose u.chance 0).2 } ∧
          (Section.IsInert t → (expandTag g level name).run u
            = (.ok t, { u with chance := (Chooser.choose u.chance 0).2 })) := by
  refine ⟨run_push_name hname hsingle hpop hexpand, ?_, fun u level hlevel htop => ?_⟩
  · simp [stack]
  · have htag := run_tag_of_top (g := g) hname hlevel htop
    refine ⟨htag, fun hinert => ?_⟩
    rw [htag, expandRule_of_isInert hinert]
    rfl

/-! ### Two pushes -/

theorem isName_x : Text.IsName "x".toList := ⟨by decide, by decide +kernel, by simp⟩

theorem isName_y : Text.IsName "y".toList := ⟨by decide, by decide +kernel, by simp⟩

/-- A grammar with one rule, in which braces are escaped. -/
def braces : Grammar := Grammar.ofRules [("y".toList, ["\\\x7bb\\\x7d".toList])]

theorem isInert_braces : Section.IsInert "\\\x7bb\\\x7d".toList := ⟨by simp, by decide +kernel⟩

theorem run_braces (s : State Generator) (hpushed : s.pushed = []) :
    (expandRule braces 2 "#y#!".toList).run s
      = (.ok "\\\x7bb\\\x7d!".toList, { s with chance := (Chooser.choose s.chance 0).2 }) := by
  have hread : Section.ofRule "#y#!".toList = .ok [.tag "y".toList, .text "!".toList] := rfl
  have htop : rulesFor braces s.pushed "y".toList = ["\\\x7bb\\\x7d".toList] := by
    rw [hpushed]
    rfl
  have hsymbol : (expandSymbol braces 2 "y".toList).run s
      = (.ok "\\\x7bb\\\x7d".toList, { s with chance := (Chooser.choose s.chance 0).2 }) := by
    rw [run_expandSymbol_of_single braces (by decide) htop,
      expandRule_of_isInert isInert_braces]
    rfl
  rw [expandRule_eq hread, expandSections_tag, expandTag_name isName_y, run_bind, hsymbol,
    expandSections_text, expandSections]
  rfl

/-- Escaped braces are still escaped braces after a second reading. -/
theorem expandTag_of_push_braces :
    Text.IsName "x".toList ∧ Action.rulesOf "#y#!".toList = ["#y#!".toList] ∧
      Section.IsInert "\\\x7bb\\\x7d!".toList ∧
      ∀ u : State Generator, (stack u.pushed "x".toList).head? = some ["\\\x7bb\\\x7d!".toList] →
        (expandTag braces 1 "x".toList).run u
          = (.ok "\\\x7bb\\\x7d!".toList, { u with chance := (Chooser.choose u.chance 0).2 }) := by
  have hsingle : Action.rulesOf "#y#!".toList = ["#y#!".toList] := rfl
  have hinert : Section.IsInert "\\\x7bb\\\x7d!".toList := ⟨by simp, by decide +kernel⟩
  refine ⟨isName_x, hsingle, hinert, fun u htop => ?_⟩
  obtain ⟨-, -, htag⟩ := expandTag_of_push isName_x hsingle (by decide)
    (run_braces ⟨[], Generator.ofSeed 7⟩ rfl)
  exact (htag u 1 (by decide) htop).2 hinert

/-- A grammar that pushes a hash, escaped so as to be literal. -/
def hashing : Grammar := Grammar.ofRules [(startSymbol, ["[x:\\#a]#x#".toList])]

theorem run_hash (s : State γ) :
    (expandRule hashing 2 "\\#a".toList).run s = (.ok "#a".toList, s) := by
  have hescape : "\\#a".toList = Section.escape "#a".toList := rfl
  rw [hescape, expandRule_escape]
  rfl

theorem run_tag_hash {s : State γ} (htop : (stack s.pushed "x".toList).head? = some ["#a".toList]) :
    (expandTag hashing 1 "x".toList).run s
      = (.error (.malformedRule "#a".toList .unterminatedTag),
        { s with chance := (Chooser.choose s.chance 0).2 }) := by
  have hfault : Section.ofRule "#a".toList = .error .unterminatedTag := rfl
  rw [run_tag_of_top isName_x (by decide) htop, expandRule_error hfault]
  rfl

theorem expand_hashing (chance : γ) :
    (hashing.expand startSymbol chance).1
      = .error (.malformedRule "#a".toList .unterminatedTag) := by
  have hread : Section.ofRule "[x:\\#a]#x#".toList
      = .ok [.action ("x".toList ++ ':' :: "\\#a".toList), .tag "x".toList] := rfl
  have hrules : rulesFor hashing [] startSymbol = ["[x:\\#a]#x#".toList] := rfl
  rw [Grammar.expand_fst, run_expandSymbol_of_single hashing (Nat.zero_le _) hrules]
  rw [expandRule_eq hread, expandSections_action, run_bind,
    run_push_name isName_x rfl (by decide) (run_hash _), expandSections_tag, run_bind]
  simp only [Nat.zero_add]
  rw [run_tag_hash rfl]

/-- **A pushed hash is read again.**  The rule of the action expands to the text `#a`, but the tag
evaluated while this is on top of the stack does not give it: it is read as a tag that is not
closed, and the whole expansion fails, whatever chance chooses. -/
theorem hash_read_again :
    (∀ s : State Generator, (expandRule hashing 2 "\\#a".toList).run s = (.ok "#a".toList, s)) ∧
      (∀ s : State Generator, (stack s.pushed "x".toList).head? = some ["#a".toList] →
        ((expandTag hashing 1 "x".toList).run s).1
          = .error (.malformedRule "#a".toList .unterminatedTag)) ∧
      ∀ seed, (hashing.expand startSymbol (Generator.ofSeed seed)).1
        = .error (.malformedRule "#a".toList .unterminatedTag) :=
  ⟨run_hash, fun _ htop => congrArg Prod.fst (run_tag_hash htop), fun _ => expand_hashing _⟩

end Expansion

end GrammarBots

import GrammarBots.Proofs.Grammar.Reachability

/-!
# Tags and the rules they stand in

The body of a tag is delimited by the reader of rules and taken apart by a reader of its own.
`Tag.ofBody_of_mem_ofRule` says that the two agree: a tag of a rule that can be read can be read as
well, its body is its actions between brackets, then its symbol and its modifiers with dots between
them, and each of its actions is one that the reader of rules reads as that action.

Nothing of the body is lost whatever it is (`Tag.leadingActions_spec`, `Tag.join_splitDots`), and
an action is always taken up to where its brackets are closed (`Tag.depthAfter_of_takeAction`).
What needs the rule is only that there is a closing bracket for each action
(`Tag.exists_ofBody_of_ofRule`).
-/

namespace GrammarBots

/-- An action between its brackets is a rule of its own, which consists of this action. -/
theorem Section.ofRule_print_action {body : Text} (h : IsBody false body) :
    ofRule (print (.action body)) = .ok [.action body] := by
  have hread := read_print_action h [] []
  rwa [List.append_nil] at hread

namespace Tag

open Section (depthAfter depthAfter_cons depthAfterChar IsBody exists_of_map_eq_ok)

/-! ### Leading actions -/

/-- What is taken of an action closes the brackets that it opens, and no others. -/
theorem depthAfter_of_takeAction {depth : Nat} {t body after : Text}
    (h : takeAction depth t = some (body, after)) : depthAfter false depth body = some 0 := by
  fun_induction takeAction depth t generalizing body after
  case case1 => cases h
  case case2 => cases h
  case case3 depth c rest ih =>
    obtain ⟨⟨inner, after'⟩, hinner, heq⟩ := Option.map_eq_some_iff.mp h
    obtain ⟨rfl, rfl⟩ := Prod.mk.inj heq
    show depthAfter false depth inner = some 0
    exact ih hinner
  case case4 depth rest ih =>
    obtain ⟨⟨inner, after'⟩, hinner, heq⟩ := Option.map_eq_some_iff.mp h
    obtain ⟨rfl, rfl⟩ := Prod.mk.inj heq
    rw [depthAfter_cons (by decide)]
    exact ih hinner
  case case5 rest =>
    obtain ⟨rfl, rfl⟩ := Prod.mk.inj (Option.some.inj h)
    rfl
  case case6 depth rest ih =>
    obtain ⟨⟨inner, after'⟩, hinner, heq⟩ := Option.map_eq_some_iff.mp h
    obtain ⟨rfl, rfl⟩ := Prod.mk.inj heq
    rw [depthAfter_cons (by decide)]
    exact ih hinner
  case case7 depth c rest _ _ hopen _ _ ih =>
    have hbackslash : c ≠ '\\' := by
      rintro rfl
      cases rest <;> simp_all
    have hclose : c ≠ ']' := by cases depth <;> simp_all
    have hchar : depthAfterChar false depth c = some depth := by
      simp [depthAfterChar, hclose, show c ≠ '[' from hopen]
    obtain ⟨⟨inner, after'⟩, hinner, heq⟩ := Option.map_eq_some_iff.mp h
    obtain ⟨rfl, rfl⟩ := Prod.mk.inj heq
    rw [depthAfter_cons hbackslash, hchar]
    exact ih hinner

/-- **All leading actions are taken**, each of them as a whole: between brackets they make up the
text together with what is left, and what is left does not begin with a bracket. -/
theorem leadingActions_spec {t after : Text} {bodies : List Text}
    (h : leadingActions t = .ok (bodies, after)) :
    t = Section.printAll (bodies.map .action) ++ after ∧ after.head? ≠ some '[' ∧
      ∀ body ∈ bodies, IsBody false body := by
  fun_induction leadingActions t generalizing bodies after
  case case1 => cases h
  case case2 rest body rest' htake hlt ih =>
    obtain ⟨⟨inner, after'⟩, hinner, heq⟩ := exists_of_map_eq_ok h
    obtain ⟨rfl, rfl⟩ := Prod.mk.inj heq
    obtain ⟨htext, hhead, hbodies⟩ := ih hinner
    refine ⟨?_, hhead, List.forall_mem_cons.mpr ⟨depthAfter_of_takeAction htake, hbodies⟩⟩
    rw [eq_of_takeAction htake, htext]
    simp [Section.printAll, Section.print]
  case case3 t hplain =>
    obtain ⟨rfl, rfl⟩ := Prod.mk.inj (Except.ok.inj h)
    refine ⟨rfl, fun hhead => ?_, List.forall_mem_nil _⟩
    obtain ⟨rest, rfl⟩ := List.head?_eq_some_iff.mp hhead
    exact hplain rest rfl

/-! ### The symbol and its modifiers -/

theorem splitDots_ne_nil (depth : Nat) (collected t : Text) : splitDots depth collected t ≠ [] := by
  fun_induction splitDots depth collected t <;> simp_all

/-- The parts with dots between them are the text that was cut. -/
theorem join_splitDots (depth : Nat) (collected t : Text) :
    Text.join ['.'] (splitDots depth collected t) = collected.reverse ++ t := by
  fun_induction splitDots depth collected t
  case case4 collected rest ih =>
    rw [Text.join, ih]
    · simp
    · exact splitDots_ne_nil _ _ _
  all_goals simp_all [Text.join]

/-- **The tags of a rule that can be read are taken apart without loss.**  The body of a tag is its
actions between brackets and a rest that begins with none; the rest is its symbol, before white
space is trimmed off, and its modifiers, with dots between them.  Each of the actions between its
brackets is a rule that consists of this action. -/
theorem ofBody_of_mem_ofRule {rule body : Text} {sections : List Section}
    (hread : Section.ofRule rule = .ok sections) (hbody : .tag body ∈ sections) :
    ∃ tag symbol rest, ofBody body = .ok tag ∧
      body = Section.printAll (tag.actions.map .action) ++ rest ∧ rest.head? ≠ some '[' ∧
      (∀ action ∈ tag.actions,
        Section.ofRule (Section.print (.action action)) = .ok [.action action]) ∧
      tag.symbol = Text.trim symbol ∧ Text.join ['.'] (symbol :: tag.modifiers) = rest := by
  obtain ⟨tag, htag⟩ := exists_ofBody_of_ofRule hread hbody
  obtain ⟨⟨actions, rest⟩, hactions, heq⟩ := exists_of_map_eq_ok htag
  obtain ⟨symbol, modifiers, hdots⟩ :=
    List.exists_cons_of_ne_nil (splitDots_ne_nil 0 [] rest)
  dsimp only at heq
  rw [hdots] at heq
  subst heq
  obtain ⟨htext, hhead, hbodies⟩ := leadingActions_spec hactions
  refine ⟨_, symbol, rest, htag, htext, hhead,
    fun action haction => Section.ofRule_print_action (hbodies action haction), rfl, ?_⟩
  rw [← hdots, join_splitDots, List.reverse_nil, List.nil_append]

/-- A tag with a guarded bracket, a hash and a nested action in its actions, blanks around its
symbol and a dot in the parameter of its modifier. -/
theorem ofBody_of_mem_ofRule_nested :
    Section.ofRule "a#[x:\\]#y#][z:[w:POP]] s .r(b.c)#".toList
        = .ok [.text "a".toList, .tag "[x:\\]#y#][z:[w:POP]] s .r(b.c)".toList] ∧
      ∃ tag symbol rest, ofBody "[x:\\]#y#][z:[w:POP]] s .r(b.c)".toList = .ok tag ∧
        "[x:\\]#y#][z:[w:POP]] s .r(b.c)".toList
          = Section.printAll (tag.actions.map .action) ++ rest ∧ rest.head? ≠ some '[' ∧
        (∀ action ∈ tag.actions,
          Section.ofRule (Section.print (.action action)) = .ok [.action action]) ∧
        tag.symbol = Text.trim symbol ∧ Text.join ['.'] (symbol :: tag.modifiers) = rest := by
  have hread : Section.ofRule "a#[x:\\]#y#][z:[w:POP]] s .r(b.c)#".toList
      = .ok [.text "a".toList, .tag "[x:\\]#y#][z:[w:POP]] s .r(b.c)".toList] := rfl
  have hmem : Section.tag "[x:\\]#y#][z:[w:POP]] s .r(b.c)".toList
      ∈ [.text "a".toList, .tag "[x:\\]#y#][z:[w:POP]] s .r(b.c)".toList] := by simp
  exact ⟨hread, ofBody_of_mem_ofRule hread hmem⟩

end Tag

end GrammarBots

import GrammarBots.Proofs.Grammar.Reading
import Mathlib.Data.List.Chain

/-!
# Printing the sections of a rule

`Section.printAll` writes sections as a rule and `Section.ofRule` reads a rule as sections.
`Section.ofRule_printAll` says that well-formed sections are read back as they were, and that
whatever is read from a rule is well formed.  So a rule that can be read has one list of sections,
and printing the list keeps it.

Sections are well formed if texts are neither empty nor side by side and the bodies of tags and
actions end where their own delimiter stands.  What is printed is read section by section
(`read_printAll`); that what is read is well formed goes by induction on the rules that can be read
(`Reads.wellFormed`).
-/

namespace GrammarBots

namespace Section

/-! ### Well-formed sections -/

/-- The section can stand in a rule. -/
def IsWellFormed : Section → Prop
  | .text t => t ≠ []
  | .tag body => IsBody true body
  | .action body => IsBody false body

instance : DecidablePred IsWellFormed
  | .text t => inferInstanceAs (Decidable (t ≠ []))
  | .tag body => inferInstanceAs (Decidable (IsBody true body))
  | .action body => inferInstanceAs (Decidable (IsBody false body))

/-- The sections can make up a rule. -/
structure WellFormed (sections : List Section) : Prop where
  /-- Each section can stand in a rule. -/
  parts : ∀ s ∈ sections, s.IsWellFormed
  /-- Texts are not side by side. -/
  apart : sections.IsChain fun s next => ¬ (s.isText = true ∧ next.isText = true)

theorem wellFormed_nil : WellFormed [] := ⟨List.forall_mem_nil _, .nil⟩

/-- A section goes in front of others unless two texts meet. -/
theorem wellFormed_cons {s : Section} {sections : List Section} :
    WellFormed (s :: sections) ↔ s.IsWellFormed ∧ WellFormed sections ∧
      (s.isText = true → ∀ next ∈ sections.head?, next.isText = false) := by
  constructor
  · rintro ⟨hparts, hapart⟩
    obtain ⟨hs, hrest⟩ := List.forall_mem_cons.mp hparts
    refine ⟨hs, ⟨hrest, hapart.tail⟩, ?_⟩
    intro hstext next hnext
    cases sections with
    | nil => cases hnext
    | cons first sections =>
      obtain rfl : first = next := Option.some.inj hnext
      have hmeet := (List.isChain_cons_cons.mp hapart).1
      simpa [hstext] using hmeet
  · rintro ⟨hs, ⟨hparts, hapart⟩, hmeet⟩
    refine ⟨List.forall_mem_cons.mpr ⟨hs, hparts⟩, ?_⟩
    cases sections with
    | nil => exact .singleton s
    | cons first sections =>
      refine List.isChain_cons_cons.mpr ⟨?_, hapart⟩
      rintro ⟨hstext, hfirst⟩
      rw [hmeet hstext first rfl] at hfirst
      cases hfirst

/-! ### Reading what was printed -/

theorem read_printAll {sections : List Section} (h : WellFormed sections) (collected : Text)
    (hmeet : collected = [] ∨ ∀ next ∈ sections.head?, next.isText = false) :
    read .text collected (printAll sections) = .ok (consText collected sections) := by
  induction sections generalizing collected with
  | nil => rw [printAll, List.flatMap_nil, read]
  | cons s sections ih =>
    obtain ⟨hs, hrest, hapart⟩ := wellFormed_cons.mp h
    have hprint : printAll (s :: sections) = print s ++ printAll sections := List.flatMap_cons
    have hnil := ih hrest [] (Or.inl rfl)
    rw [hprint]
    cases s with
    | text t =>
      have hcollected : collected = [] := by
        rcases hmeet with hnil | hmeet
        · exact hnil
        · cases hmeet (.text t) rfl
      subst hcollected
      rw [print, read_escape, List.append_nil, ih hrest t.reverse (Or.inr (hapart rfl))]
      simp only [consText, List.reverse_reverse, List.isEmpty_reverse, List.isEmpty_iff]
      simp [show t ≠ [] from hs]
    | tag body =>
      rw [read_print_tag hs, hnil]
      rfl
    | action body =>
      rw [read_print_action hs, hnil]
      rfl

/-! ### What is read is well formed -/

theorem isWellFormed_ofBody {inTag : Bool} {body : Text} :
    (ofBody inTag body).IsWellFormed ↔ IsBody inTag body := by
  cases inTag <;> rfl

theorem wellFormed_prependText {sections : List Section} (h : WellFormed sections) (t : Text) :
    WellFormed (prependText t sections) := by
  unfold prependText
  split
  next u rest =>
    obtain ⟨hu, hrest, hapart⟩ := wellFormed_cons.mp h
    refine wellFormed_cons.mpr ⟨?_, hrest, hapart⟩
    exact fun hnil => hu (List.append_eq_nil_iff.mp hnil).2
  next hplain =>
    split
    next => exact h
    next ht =>
      refine wellFormed_cons.mpr ⟨ht, h, fun _ next hnext => ?_⟩
      cases next with
      | text u =>
        obtain ⟨rest, rfl⟩ := List.head?_eq_some_iff.mp hnext
        exact absurd rfl (hplain u rest)
      | tag body => rfl
      | action body => rfl

theorem Reads.wellFormed {t : Text} {sections : List Section} (h : Reads t sections) :
    WellFormed sections := by
  induction h with
  | nil => exact wellFormed_nil
  | backslash => exact wellFormed_prependText wellFormed_nil ['\\']
  | escape c h ih => exact wellFormed_prependText ih _
  | plain hc h ih => exact wellFormed_prependText ih _
  | body hbody h ih =>
    refine wellFormed_cons.mpr ⟨isWellFormed_ofBody.mpr hbody, ih, fun htext => ?_⟩
    rw [isText_ofBody] at htext
    cases htext

/-- **What is read is well formed.** -/
theorem wellFormed_of_read {collected t : Text} {sections : List Section}
    (h : read .text collected t = .ok sections) : WellFormed sections := by
  obtain ⟨inner, hreads⟩ := exists_reads_of_read h
  obtain rfl := Except.ok.inj (h.symm.trans (hreads.read collected))
  exact wellFormed_prependText hreads.wellFormed _

/-! ### Rules and their sections -/

/-- **Reading inverts printing**: well-formed sections are read back from the rule that they print,
and what is read from any rule is well formed, so that printing and reading it again keeps it. -/
theorem ofRule_printAll :
    (∀ sections, WellFormed sections → ofRule (printAll sections) = .ok sections) ∧
      ∀ rule sections, ofRule rule = .ok sections →
        WellFormed sections ∧ ofRule (printAll sections) = .ok sections := by
  have hprint : ∀ sections, WellFormed sections → ofRule (printAll sections) = .ok sections :=
    fun sections h => read_printAll h [] (Or.inl rfl)
  refine ⟨hprint, fun rule sections h => ?_⟩
  have hwell : WellFormed sections := wellFormed_of_read h
  exact ⟨hwell, hprint sections hwell⟩

/-- A rule with an escaped hash, a bracket in a tag that a backslash guards, and a tag in an action,
as sections and as text. -/
theorem ofRule_printAll_nested :
    WellFormed [.text "#a".toList, .tag "[x:\\]]y".toList, .action "z:#w#".toList] ∧
      ofRule (printAll [.text "#a".toList, .tag "[x:\\]]y".toList, .action "z:#w#".toList])
        = .ok [.text "#a".toList, .tag "[x:\\]]y".toList, .action "z:#w#".toList] ∧
      ofRule "\\#a#[x:\\]]y#[z:#w#]".toList
        = .ok [.text "#a".toList, .tag "[x:\\]]y".toList, .action "z:#w#".toList] ∧
      WellFormed [.text "#a".toList, .tag "[x:\\]]y".toList, .action "z:#w#".toList] := by
  have hread : ofRule "\\#a#[x:\\]]y#[z:#w#]".toList
      = .ok [.text "#a".toList, .tag "[x:\\]]y".toList, .action "z:#w#".toList] := rfl
  have hwell : WellFormed [.text "#a".toList, .tag "[x:\\]]y".toList, .action "z:#w#".toList] :=
    ⟨by decide +kernel, by decide +kernel⟩
  exact ⟨hwell, ofRule_printAll.1 _ hwell, hread, (ofRule_printAll.2 _ _ hread).1⟩

end Section

end GrammarBots

import Mathlib.Data.List.Perm.Subperm
import Mathlib.Data.Prod.Lex

/-!
# Shortlists

A shortlist holds the first few of some candidates, in the order of their ranks; of candidates of
one rank, the lesser one comes first.  `IsShortlist` says so without saying how the list is made.
There is one shortlist at most (`IsShortlist.unique`), so a list is known as soon as it is known to
be a shortlist.

There are two ways to make one.  Candidates that are listed in ascending order are sorted by their
ranks alone, with a sort that keeps them in place where the ranks are equal
(`pairwise_mergeSort_of_ascending`).  Or they are sorted by both, rank and value.  Either way the
candidates end up in the order of `RanksBefore`, and the first of them are the shortlist
(`isShortlist_take`).
-/

namespace GrammarBots

variable {α : Type} [LinearOrder α] {rank : α → Nat}

/-! ### The order -/

/-- Of two candidates, the one of lower rank comes first, and of two of one rank the lesser one. -/
def RanksBefore (rank : α → Nat) (a b : α) : Prop := rank a < rank b ∨ rank a = rank b ∧ a < b

/-- The order is that of the pairs of rank and value. -/
theorem ranksBefore_iff {a b : α} :
    RanksBefore rank a b ↔ toLex (rank a, a) < toLex (rank b, b) := by
  rw [Prod.Lex.toLex_lt_toLex]
  rfl

theorem RanksBefore.trans {a b c : α} (h : RanksBefore rank a b) (h' : RanksBefore rank b c) :
    RanksBefore rank a c := by
  rw [ranksBefore_iff] at *
  exact lt_trans h h'

theorem RanksBefore.asymm {a b : α} (h : RanksBefore rank a b) : ¬ RanksBefore rank b a := by
  rw [ranksBefore_iff] at h ⊢
  exact lt_asymm h

theorem RanksBefore.ne {a b : α} (h : RanksBefore rank a b) : a ≠ b := by
  rintro rfl
  exact h.asymm h

theorem ranksBefore_trichotomy (rank : α → Nat) (a b : α) :
    RanksBefore rank a b ∨ a = b ∨ RanksBefore rank b a := by
  rw [ranksBefore_iff, ranksBefore_iff]
  rcases lt_trichotomy (toLex (rank a, a)) (toLex (rank b, b)) with h | h | h
  · exact Or.inl h
  · exact Or.inr (Or.inl (Prod.mk.inj (toLex.injective h)).2)
  · exact Or.inr (Or.inr h)

theorem nodup_of_ranksBefore {l : List α} (h : l.Pairwise (RanksBefore rank)) : l.Nodup :=
  h.imp RanksBefore.ne

/-! ### Shortlists -/

/-- The list holds the first candidates in the order of their ranks, as many as the size allows. -/
structure IsShortlist (size : Nat) (candidate : α → Prop) (rank : α → Nat) (best : List α) :
    Prop where
  /-- The list is in order, so nothing is in it twice. -/
  ascending : best.Pairwise (RanksBefore rank)
  /-- Only candidates are in it. -/
  candidates : ∀ a ∈ best, candidate a
  /-- It is no longer than the size allows. -/
  length_le : best.length ≤ size
  /-- A candidate is left out only of a full list, and only if all that is in it comes before. -/
  others : ∀ a, candidate a → a ∉ best → best.length = size ∧ ∀ b ∈ best, RanksBefore rank b a

variable {size : Nat} {candidate : α → Prop} {best best' : List α}

/-- What is on one shortlist is on every other: else the other would be full of what comes before,
which would all have to be on the first one as well. -/
theorem IsShortlist.mem_of_mem (h : IsShortlist size candidate rank best)
    (h' : IsShortlist size candidate rank best') {a : α} (ha : a ∈ best) : a ∈ best' := by
  by_contra hmissing
  obtain ⟨hfull, hbefore⟩ := h'.others a (h.candidates a ha) hmissing
  have hsubset : best' ⊆ best := by
    intro b hb
    by_contra hb'
    have hab := (h.others b (h'.candidates b hb) hb').2 a ha
    exact hab.asymm (hbefore b hb)
  have hnodup : (a :: best').Nodup :=
    List.nodup_cons.mpr ⟨hmissing, nodup_of_ranksBefore h'.ascending⟩
  have hsub : (a :: best').Subperm best :=
    List.Nodup.subperm hnodup (List.cons_subset.mpr ⟨ha, hsubset⟩)
  have hlength := hsub.length_le
  have hsize := h.length_le
  rw [List.length_cons] at hlength
  omega

/-- **There is one shortlist at most.** -/
theorem IsShortlist.unique (h : IsShortlist size candidate rank best)
    (h' : IsShortlist size candidate rank best') : best = best' := by
  have hperm : best.Perm best' := by
    rw [List.perm_ext_iff_of_nodup (nodup_of_ranksBefore h.ascending)
      (nodup_of_ranksBefore h'.ascending)]
    intro a
    exact ⟨h.mem_of_mem h', h'.mem_of_mem h⟩
  refine List.Perm.eq_of_pairwise ?_ h.ascending h'.ascending hperm
  intro a b _ _ hab hba
  exact absurd hba hab.asymm

/-- **The first of all candidates in their order are the shortlist.** -/
theorem isShortlist_take {l : List α} (hascending : l.Pairwise (RanksBefore rank))
    (hcandidate : ∀ a, a ∈ l ↔ candidate a) (size : Nat) :
    IsShortlist size candidate rank (l.take size) where
  ascending := hascending.sublist (List.take_sublist size l)
  candidates a ha := (hcandidate a).mp (List.mem_of_mem_take ha)
  length_le := List.length_take_le size l
  others := by
    intro a ha hmissing
    have hl : a ∈ l.take size ++ l.drop size := by
      rw [List.take_append_drop]
      exact (hcandidate a).mpr ha
    have hdrop : a ∈ l.drop size := (List.mem_append.mp hl).resolve_left hmissing
    have hlong : size < l.length := by
      have hpositive := List.length_pos_of_mem hdrop
      rw [List.length_drop] at hpositive
      omega
    rw [← List.take_append_drop size l, List.pairwise_append] at hascending
    refine ⟨List.length_take_of_le hlong.le, ?_⟩
    intro b hb
    exact hascending.2.2 b hb a hdrop

/-! ### Sorting by ranks alone -/

omit [LinearOrder α] in
theorem trans_rank (rank : α → Nat) (a b c : α) (hab : decide (rank a ≤ rank b) = true)
    (hbc : decide (rank b ≤ rank c) = true) : decide (rank a ≤ rank c) = true := by
  simp only [decide_eq_true_eq] at *
  omega

omit [LinearOrder α] in
theorem total_rank (rank : α → Nat) (a b : α) :
    (decide (rank a ≤ rank b) || decide (rank b ≤ rank a)) = true := by
  simp only [Bool.or_eq_true, decide_eq_true_eq]
  omega

/-- **A stable sort by ranks alone** puts an ascending list into the order of ranks and values.  The
first of the list is put behind what has a lower rank and before all of its own rank, which are
greater than it is. -/
theorem pairwise_mergeSort_of_ascending (rank : α → Nat) {l : List α}
    (h : l.Pairwise (· < ·)) :
    (l.mergeSort fun a b => rank a ≤ rank b).Pairwise (RanksBefore rank) := by
  induction l with
  | nil => simp
  | cons a l ih =>
    obtain ⟨hleast, hl⟩ := List.pairwise_cons.mp h
    have ih := ih hl
    have hsorted := List.pairwise_mergeSort (trans_rank rank) (total_rank rank) (a :: l)
    obtain ⟨lower, others, hcons, hrest, hlower⟩ :=
      List.mergeSort_cons (trans_rank rank) (total_rank rank) a l
    rw [hcons] at hsorted ⊢
    rw [hrest, List.pairwise_append] at ih
    obtain ⟨hlowers, hothers, hbetween⟩ := ih
    have hmem : ∀ b ∈ others, b ∈ l := by
      intro b hb
      have hb' : b ∈ l.mergeSort fun a b => rank a ≤ rank b := by
        rw [hrest]
        exact List.mem_append_right _ hb
      exact List.mem_mergeSort.mp hb'
    have hfirst : ∀ b ∈ lower, RanksBefore rank b a := by
      intro b hb
      have := hlower b hb
      simp only [Bool.not_eq_true', decide_eq_false_iff_not] at this
      exact Or.inl (by omega)
    have hlast : ∀ b ∈ others, RanksBefore rank a b := by
      intro b hb
      have hle : rank a ≤ rank b := by
        have := (List.pairwise_cons.mp (List.pairwise_append.mp hsorted).2.1).1 b hb
        simpa using this
      rcases Nat.lt_or_eq_of_le hle with hlt | heq
      · exact Or.inl hlt
      · exact Or.inr ⟨heq, hleast b (hmem b hb)⟩
    rw [List.pairwise_append]
    refine ⟨hlowers, List.pairwise_cons.mpr ⟨hlast, hothers⟩, ?_⟩
    intro b hb c hc
    rcases List.mem_cons.mp hc with rfl | hc
    · exact hfirst b hb
    · exact hbetween b hb c hc

end GrammarBots

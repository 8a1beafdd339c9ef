import GrammarBots.Text.EditDistance
import Mathlib.Order.Bounds.Basic
import Mathlib.Order.MinMax
import Mathlib.Tactic.SplitIfs

/-!
# The edit distance is the fewest edits

`Edit s t` says that one character of `s` is inserted, deleted or substituted to give `t`, and
`Edits n s t` that `n` such edits, one after the other, turn `s` into `t`.
`isLeast_editDistance` says that `editDistance s t` is the least such `n`, and so that texts are at
distance zero exactly if they are equal (`editDistance_eq_zero_iff`).

The edits of a chain may undo each other and come in any order.  An `Alignment` is a chain in which
every character is looked at once, from the left to the right.  No chain is cheaper than the best
alignment (`exists_alignment_of_edits`), because one more edit makes an alignment dearer by one at
most.  Alignments can be put side by side, so they can be read from the right as well
(`Alignment.reverse`); that is how the rows of the computation grow.  Its invariant is `IsRow`: every
entry of a row is the least cost of an alignment of two prefixes.
-/

namespace GrammarBots.Text

/-! ### Edits and alignments -/

/-- One character of the first text is inserted, deleted or substituted, which gives the second. -/
inductive Edit : Text → Text → Prop where
  /-- A character is inserted at the front. -/
  | insert (c : Char) (t : Text) : Edit t (c :: t)
  /-- The first character is deleted. -/
  | delete (c : Char) (t : Text) : Edit (c :: t) t
  /-- Another character is put in the place of the first. -/
  | substitute (c d : Char) (t : Text) : Edit (c :: t) (d :: t)
  /-- The edit is made further on. -/
  | later (c : Char) {s t : Text} (h : Edit s t) : Edit (c :: s) (c :: t)

/-- So many edits, one after the other, turn the first text into the second. -/
inductive Edits : Nat → Text → Text → Prop where
  /-- Without edits, the text stays as it is. -/
  | none (t : Text) : Edits 0 t t
  /-- One more edit is made at the end. -/
  | snoc {n : Nat} {s t u : Text} (first : Edits n s t) (last : Edit t u) : Edits (n + 1) s u

/-- A way to turn the first text into the second that looks at every character once, with the
number of characters that it inserts, deletes or substitutes. -/
inductive Alignment : Nat → Text → Text → Prop where
  /-- Nothing is left. -/
  | nil : Alignment 0 [] []
  /-- A character is kept. -/
  | keep {n : Nat} {s t : Text} (c : Char) (h : Alignment n s t) : Alignment n (c :: s) (c :: t)
  /-- A character is deleted. -/
  | delete {n : Nat} {s t : Text} (c : Char) (h : Alignment n s t) : Alignment (n + 1) (c :: s) t
  /-- A character is inserted. -/
  | insert {n : Nat} {s t : Text} (d : Char) (h : Alignment n s t) : Alignment (n + 1) s (d :: t)
  /-- A character is substituted. -/
  | substitute {n : Nat} {s t : Text} (c d : Char) (h : Alignment n s t) :
      Alignment (n + 1) (c :: s) (d :: t)

variable {m n : Nat} {s t u : Text}

theorem Edits.later (c : Char) (h : Edits n s t) : Edits n (c :: s) (c :: t) := by
  induction h with
  | none t => exact .none _
  | snoc _ last ih => exact .snoc ih (.later c last)

theorem Edits.trans (h : Edits m s t) (h' : Edits n t u) : Edits (m + n) s u := by
  induction h' with
  | none t => exact h
  | snoc _ last ih => exact .snoc (ih h) last

/-- An alignment is made by as many edits as it costs. -/
theorem Alignment.edits (h : Alignment n s t) : Edits n s t := by
  induction h with
  | nil => exact .none []
  | keep c _ ih => exact ih.later c
  | delete c _ ih => exact (ih.later c).snoc (.delete c _)
  | insert d _ ih => exact ih.snoc (.insert d _)
  | substitute c d _ ih => exact (ih.later c).snoc (.substitute c d _)

theorem alignment_refl (t : Text) : Alignment 0 t t := by
  induction t with
  | nil => exact .nil
  | cons c t ih => exact .keep c ih

/-- **One more edit costs one at most.**  The edit is made at some place of the second text, and
there the alignment either has something to do anyway or keeps the character. -/
theorem Alignment.exists_edit (h : Alignment n s t) (last : Edit t u) :
    ∃ k ≤ n + 1, Alignment k s u := by
  induction h generalizing u with
  | nil =>
    cases last with
    | insert d => exact ⟨1, le_rfl, .insert d .nil⟩
  | @keep n s t c h ih =>
    cases last with
    | insert d => exact ⟨n + 1, le_rfl, .insert d (.keep c h)⟩
    | delete => exact ⟨n + 1, le_rfl, .delete c h⟩
    | substitute _ d => exact ⟨n + 1, le_rfl, .substitute c d h⟩
    | later _ last =>
      obtain ⟨k, hk, h'⟩ := ih last
      exact ⟨k, hk, .keep c h'⟩
  | delete c _ ih =>
    obtain ⟨k, hk, h'⟩ := ih last
    exact ⟨k + 1, by omega, .delete c h'⟩
  | @insert n s t c h ih =>
    cases last with
    | insert d => exact ⟨n + 2, by omega, .insert d (.insert c h)⟩
    | delete => exact ⟨n, by omega, h⟩
    | substitute _ d => exact ⟨n + 1, by omega, .insert d h⟩
    | later _ last =>
      obtain ⟨k, hk, h'⟩ := ih last
      exact ⟨k + 1, by omega, .insert c h'⟩
  | @substitute n s t b c h ih =>
    cases last with
    | insert d => exact ⟨n + 2, by omega, .insert d (.substitute b c h)⟩
    | delete => exact ⟨n + 1, by omega, .delete b h⟩
    | substitute _ d => exact ⟨n + 1, by omega, .substitute b d h⟩
    | later _ last =>
      obtain ⟨k, hk, h'⟩ := ih last
      exact ⟨k + 1, by omega, .substitute b c h'⟩

/-- No chain of edits is cheaper than the best alignment. -/
theorem exists_alignment_of_edits (h : Edits n s t) : ∃ k ≤ n, Alignment k s t := by
  induction h with
  | none t => exact ⟨0, le_rfl, alignment_refl t⟩
  | snoc _ last ih =>
    obtain ⟨k, hk, h⟩ := ih
    obtain ⟨k', hk', h'⟩ := h.exists_edit last
    exact ⟨k', by omega, h'⟩

/-! ### Alignments from the right -/

theorem Alignment.append {s' t' : Text} (h : Alignment m s t) (h' : Alignment n s' t') :
    Alignment (m + n) (s ++ s') (t ++ t') := by
  induction h with
  | nil =>
    rw [Nat.zero_add]
    exact h'
  | keep c _ ih => exact .keep c ih
  | delete c _ ih =>
    rw [Nat.add_right_comm]
    exact .delete c ih
  | insert d _ ih =>
    rw [Nat.add_right_comm]
    exact .insert d ih
  | substitute c d _ ih =>
    rw [Nat.add_right_comm]
    exact .substitute c d ih

theorem Alignment.reverse (h : Alignment n s t) : Alignment n s.reverse t.reverse := by
  induction h with
  | nil => exact .nil
  | keep c _ ih =>
    rw [List.reverse_cons, List.reverse_cons]
    exact ih.append (.keep c .nil)
  | delete c _ ih =>
    rw [List.reverse_cons]
    simpa using ih.append (.delete c .nil)
  | insert d _ ih =>
    rw [List.reverse_cons]
    simpa using ih.append (.insert d .nil)
  | substitute c d _ ih =>
    rw [List.reverse_cons, List.reverse_cons]
    exact ih.append (.substitute c d .nil)

/-- What an alignment does with the last characters of two texts. -/
theorem Alignment.snoc_cases {c d : Char} (h : Alignment n (s ++ [c]) (t ++ [d])) :
    (c = d ∧ Alignment n s t) ∨
      ∃ k, n = k + 1 ∧
        (Alignment k s (t ++ [d]) ∨ Alignment k (s ++ [c]) t ∨ Alignment k s t) := by
  have hreverse := h.reverse
  simp only [List.reverse_append, List.reverse_singleton, List.singleton_append] at hreverse
  -- Turned around, the last characters are the first, and what is left is turned around again.
  cases hreverse with
  | keep _ h' => exact Or.inl ⟨rfl, by simpa using h'.reverse⟩
  | delete _ h' => exact Or.inr ⟨_, rfl, Or.inl (by simpa using h'.reverse)⟩
  | insert _ h' => exact Or.inr ⟨_, rfl, Or.inr (Or.inl (by simpa using h'.reverse))⟩
  | substitute _ _ h' => exact Or.inr ⟨_, rfl, Or.inr (Or.inr (by simpa using h'.reverse))⟩

/-- The number is the cost of the cheapest alignment of the texts. -/
def IsCost (s t : Text) (n : Nat) : Prop := IsLeast {k | Alignment k s t} n

/-- The lengths of the texts differ by the cost at most. -/
theorem Alignment.length_le (h : Alignment n s t) :
    s.length ≤ t.length + n ∧ t.length ≤ s.length + n := by
  induction h <;> simp only [List.length_cons, List.length_nil] <;> omega

/-- A text is deleted character by character. -/
theorem isCost_nil_right (s : Text) : IsCost s [] s.length := by
  constructor
  · show Alignment s.length s []
    induction s with
    | nil => exact .nil
    | cons c s ih => exact .delete c ih
  · intro k hk
    have hlength := (Alignment.length_le hk).1
    simpa using hlength

/-- A text is inserted character by character. -/
theorem isCost_nil_left (t : Text) : IsCost [] t t.length := by
  constructor
  · show Alignment t.length [] t
    induction t with
    | nil => exact .nil
    | cons d t ih => exact .insert d ih
  · intro k hk
    have hlength := (Alignment.length_le hk).2
    simpa using hlength

/-- **The cost of two texts comes from the costs of those that are one character shorter.** -/
theorem isCost_snoc {left up diagonal : Nat} {c d : Char} (hleft : IsCost (s ++ [c]) t left)
    (hup : IsCost s (t ++ [d]) up) (hdiagonal : IsCost s t diagonal) :
    IsCost (s ++ [c]) (t ++ [d])
      (min (min (left + 1) (up + 1)) (diagonal + if c = d then 0 else 1)) := by
  have hinsert : Alignment (left + 1) (s ++ [c]) (t ++ [d]) := by
    simpa using hleft.1.append (.insert d .nil)
  have hdelete : Alignment (up + 1) (s ++ [c]) (t ++ [d]) := by
    simpa using Alignment.append hup.1 (.delete c .nil)
  have hboth : Alignment (diagonal + if c = d then 0 else 1) (s ++ [c]) (t ++ [d]) := by
    split_ifs with h
    · subst h
      exact hdiagonal.1.append (.keep c .nil)
    · exact hdiagonal.1.append (.substitute c d .nil)
  constructor
  · show Alignment _ _ _
    rcases min_choice (min (left + 1) (up + 1)) (diagonal + if c = d then 0 else 1) with h | h
    · rw [h]
      rcases min_choice (left + 1) (up + 1) with h | h
      · rw [h]; exact hinsert
      · rw [h]; exact hdelete
    · rw [h]; exact hboth
  · intro n hn
    rcases Alignment.snoc_cases hn with ⟨rfl, h⟩ | ⟨k, rfl, h | h | h⟩
    · have := hdiagonal.2 h
      simp only [if_true]
      omega
    · have := hup.2 h
      omega
    · have := hleft.2 h
      omega
    · have := hdiagonal.2 h
      split_ifs <;> omega

/-! ### Rows -/

/-- The numbers are the entries of the row of `s` from `done` on: the costs of `s` with the prefixes
of the text that `rest` continues. -/
def IsRow (s done : Text) : Text → List Nat → Prop
  | [], row => row = []
  | d :: rest, row => ∃ entry others, row = entry :: others ∧ IsCost s (done ++ [d]) entry ∧
      IsRow s (done ++ [d]) rest others

theorem isRow_distanceRowFrom {c : Char} {done rest : Text} {left diagonal : Nat} {above : List Nat}
    (hleft : IsCost (s ++ [c]) done left) (hdiagonal : IsCost s done diagonal)
    (habove : IsRow s done rest above) :
    IsRow (s ++ [c]) done rest (distanceRowFrom c left diagonal above rest) := by
  induction rest generalizing done left diagonal above with
  | nil => cases above <;> rfl
  | cons d rest ih =>
    obtain ⟨up, above, rfl, hup, habove⟩ := habove
    have hhere := isCost_snoc hleft hup hdiagonal
    exact ⟨_, _, rfl, hhere, ih hhere hup habove⟩

/-- The row before any character is read: the lengths of the prefixes. -/
theorem isRow_nil (done rest : Text) :
    IsRow [] done rest (List.range' (done.length + 1) rest.length) := by
  induction rest generalizing done with
  | nil => rfl
  | cons d rest ih =>
    have hlength : (done ++ [d]).length = done.length + 1 := by simp
    refine ⟨_, _, rfl, ?_, ?_⟩
    · rw [← hlength]
      exact isCost_nil_left _
    · rw [← hlength]
      exact ih _

theorem isCost_getLast? {done rest : Text} {corner : Nat} {row : List Nat}
    (hcorner : IsCost s done corner) (hrow : IsRow s done rest row) :
    IsCost s (done ++ rest) (((corner :: row).getLast?).getD 0) := by
  induction rest generalizing done corner row with
  | nil =>
    obtain rfl : row = [] := hrow
    simpa using hcorner
  | cons d rest ih =>
    obtain ⟨entry, others, rfl, hentry, hothers⟩ := hrow
    have := ih hentry hothers
    rw [List.append_assoc] at this
    rwa [List.getLast?_cons_cons]

/-- Reading the first text character by character keeps the invariant. -/
theorem exists_row_foldl (target : Text) (rest : Text) {corner : Nat} {row : List Nat}
    (hcorner : IsCost s [] corner) (hrow : IsRow s [] target row) :
    ∃ corner' row', rest.foldl (distanceRow target) (corner :: row) = corner' :: row' ∧
      IsCost (s ++ rest) [] corner' ∧ IsRow (s ++ rest) [] target row' := by
  induction rest generalizing s corner row with
  | nil => exact ⟨corner, row, rfl, by rwa [List.append_nil], by rwa [List.append_nil]⟩
  | cons c rest ih =>
    have hlength : corner = s.length := IsLeast.unique hcorner (isCost_nil_right s)
    have hcorner' : IsCost (s ++ [c]) [] (corner + 1) := by
      have := isCost_nil_right (s ++ [c])
      rwa [List.length_append, List.length_singleton, ← hlength] at this
    have hrow' := isRow_distanceRowFrom hcorner' hcorner hrow
    obtain ⟨corner', row', hfold, h⟩ := ih hcorner' hrow'
    rw [List.append_assoc] at h
    exact ⟨corner', row', hfold, h⟩

theorem isCost_editDistance (s t : Text) : IsCost s t (editDistance s t) := by
  have hcorner : IsCost [] [] 0 := isCost_nil_left []
  have hrange : List.range (t.length + 1) = 0 :: List.range' 1 t.length := by
    rw [List.range_eq_range', List.range'_succ]
  obtain ⟨corner, row, hfold, hcorner', hrow⟩ := exists_row_foldl t s hcorner (isRow_nil [] t)
  rw [editDistance, hrange]
  rw [List.length_nil, Nat.zero_add] at hfold
  rw [hfold]
  exact isCost_getLast? hcorner' hrow

/-! ### The distance -/

/-- **The edit distance is the fewest edits** that turn one text into the other. -/
theorem isLeast_editDistance (s t : Text) : IsLeast {n | Edits n s t} (editDistance s t) := by
  obtain ⟨halignment, hle⟩ := isCost_editDistance s t
  constructor
  · exact halignment.edits
  · intro n hn
    obtain ⟨k, hk, h⟩ := exists_alignment_of_edits hn
    exact le_trans (hle h) hk

theorem edits_zero_iff : Edits 0 s t ↔ s = t := by
  constructor
  · intro h
    cases h
    rfl
  · rintro rfl
    exact .none s

/-- Only equal texts are at distance zero. -/
theorem editDistance_eq_zero_iff : editDistance s t = 0 ↔ s = t := by
  have hleast := isLeast_editDistance s t
  constructor
  · intro h
    rw [h] at hleast
    exact edits_zero_iff.mp hleast.1
  · rintro rfl
    exact Nat.le_zero.mp (hleast.2 (Edits.none s))

end GrammarBots.Text

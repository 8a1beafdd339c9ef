import GrammarBots.Text.Basic
import Mathlib.Data.Nat.Count

/-!
# Texts filtered by position

`keepWhere p t` keeps the characters of `t` whose positions satisfy `p`.  A kept character at
position `j` stands at position `Nat.count p j` of the result (`getElem?_keepWhere`), so filtering
the result again is filtering the text once (`keepWhere_keepWhere`).  `isEscape_keepWhere` says when
a backslash and the character after it are still neighbours in the result, and when two characters
that were not become so.
-/

namespace GrammarBots.Text

variable (p q : Nat → Prop) [DecidablePred p] [DecidablePred q]

/-- The characters whose positions satisfy `p`, where the text begins at position `n`. -/
def keepFrom (n : Nat) (t : Text) : Text := ((t.zipIdx n).filter fun x => p x.2).map (·.1)

/-- The characters whose positions satisfy `p`. -/
def keepWhere (t : Text) : Text := keepFrom p 0 t

variable {p q}

theorem keepFrom_cons (n : Nat) (c : Char) (t : Text) :
    keepFrom p n (c :: t) = if p n then c :: keepFrom p (n + 1) t else keepFrom p (n + 1) t := by
  unfold keepFrom
  rw [List.zipIdx_cons, List.filter_cons]
  by_cases h : p n <;> simp [h]

theorem keepFrom_append (n : Nat) (s t : Text) :
    keepFrom p n (s ++ t) = keepFrom p n s ++ keepFrom p (n + s.length) t := by
  unfold keepFrom
  rw [List.zipIdx_append, List.filter_append, List.map_append, Nat.add_comm]

/-- Only the positions that the text has matter. -/
theorem keepFrom_congr {n : Nat} {t : Text} (h : ∀ j, n ≤ j → j < n + t.length → (p j ↔ q j)) :
    keepFrom p n t = keepFrom q n t := by
  unfold keepFrom
  refine congrArg (List.map _) (List.filter_congr fun x hx => ?_)
  obtain ⟨hle, hlt, _⟩ := List.mem_zipIdx hx
  simpa using h x.2 hle hlt

theorem keepFrom_eq_self {n : Nat} {t : Text} (h : ∀ j, n ≤ j → j < n + t.length → p j) :
    keepFrom p n t = t := by
  unfold keepFrom
  rw [List.filter_eq_self.mpr, List.zipIdx_map_fst]
  intro x hx
  obtain ⟨hle, hlt, _⟩ := List.mem_zipIdx hx
  exact decide_eq_true (h x.2 hle hlt)

theorem keepFrom_eq_nil {n : Nat} {t : Text} (h : ∀ j, n ≤ j → j < n + t.length → ¬ p j) :
    keepFrom p n t = [] := by
  unfold keepFrom
  rw [List.filter_eq_nil_iff.mpr, List.map_nil]
  intro x hx
  obtain ⟨hle, hlt, _⟩ := List.mem_zipIdx hx
  simpa using h x.2 hle hlt

theorem keepWhere_congr {t : Text} (h : ∀ j, j < t.length → (p j ↔ q j)) :
    keepWhere p t = keepWhere q t :=
  keepFrom_congr fun j _ hj => h j (by rwa [Nat.zero_add] at hj)

theorem keepFrom_succ (n : Nat) (t : Text) :
    keepFrom p (n + 1) t = keepFrom (fun j => p (j + 1)) n t := by
  induction t generalizing n with
  | nil => rfl
  | cons c t ih => rw [keepFrom_cons, keepFrom_cons, ih]

/-- The characters behind the first one stand one position farther on. -/
theorem keepWhere_cons (c : Char) (t : Text) :
    keepWhere p (c :: t)
      = if p 0 then c :: keepWhere (fun j => p (j + 1)) t
        else keepWhere (fun j => p (j + 1)) t := by
  rw [keepWhere, keepFrom_cons, keepFrom_succ]
  rfl

/-! ### Positions in the result -/

theorem count_add_length_keepFrom (n : Nat) (t : Text) :
    Nat.count p n + (keepFrom p n t).length = Nat.count p (n + t.length) := by
  induction t generalizing n with
  | nil => rfl
  | cons c t ih =>
    have hrest := ih (n + 1)
    rw [Nat.count_succ] at hrest
    rw [keepFrom_cons, List.length_cons, ← Nat.add_assoc, Nat.add_right_comm, ← hrest]
    split_ifs
    · rw [List.length_cons]
      omega
    · rfl

theorem length_keepWhere (t : Text) : (keepWhere p t).length = Nat.count p t.length := by
  have := count_add_length_keepFrom (p := p) 0 t
  rwa [Nat.count_zero, Nat.zero_add, Nat.zero_add] at this

/-- A kept character stands behind the kept characters before it. -/
theorem getElem?_keepWhere {t : Text} {j : Nat} (hp : p j) (hj : j < t.length) :
    (keepWhere p t)[Nat.count p j]? = t[j]? := by
  have hlen : (keepFrom p 0 (t.take j)).length = Nat.count p j := by
    have := length_keepWhere (p := p) (t.take j)
    rwa [List.length_take, Nat.min_eq_left hj.le] at this
  have hsplit : t = t.take j ++ t[j] :: t.drop (j + 1) := by
    rw [← List.drop_eq_getElem_cons hj, List.take_append_drop]
  conv_lhs => rw [hsplit]
  rw [keepWhere, keepFrom_append, List.getElem?_append_right hlen.le, hlen, Nat.sub_self,
    List.length_take, Nat.min_eq_left hj.le, Nat.zero_add, keepFrom_cons, if_pos hp,
    List.getElem?_cons_zero, List.getElem?_eq_getElem hj]

/-- Every count below the last is that of a kept position. -/
theorem exists_count_eq {n k : Nat} (hk : k < Nat.count p n) :
    ∃ j, j < n ∧ p j ∧ Nat.count p j = k := by
  induction n with
  | zero => exact absurd hk (Nat.not_lt_zero k)
  | succ n ih =>
    rw [Nat.count_succ] at hk
    by_cases hlt : k < Nat.count p n
    · obtain ⟨j, hj, hp, hcount⟩ := ih hlt
      exact ⟨j, Nat.lt_succ_of_lt hj, hp, hcount⟩
    · by_cases hp : p n
      · rw [if_pos hp] at hk
        exact ⟨n, Nat.lt_succ_self n, hp, by omega⟩
      · rw [if_neg hp] at hk
        omega

/-- Every character of the result is a kept one of the text. -/
theorem exists_of_getElem?_keepWhere {t : Text} {k : Nat} {c : Char}
    (h : (keepWhere p t)[k]? = some c) : ∃ j, p j ∧ Nat.count p j = k ∧ t[j]? = some c := by
  have hk : k < (keepWhere p t).length := (List.getElem?_eq_some_iff.mp h).1
  rw [length_keepWhere] at hk
  obtain ⟨j, hj, hp, rfl⟩ := exists_count_eq hk
  rw [getElem?_keepWhere hp hj] at h
  exact ⟨j, hp, rfl, h⟩

/-- **Filtering twice is filtering once**, if the second filter asks for the positions in the
result of the first. -/
theorem keepWhere_keepWhere (t : Text) :
    keepWhere q (keepWhere p t) = keepWhere (fun j => p j ∧ q (Nat.count p j)) t := by
  have key (n : Nat) (s : Text) : keepFrom q (Nat.count p n) (keepFrom p n s)
      = keepFrom (fun j => p j ∧ q (Nat.count p j)) n s := by
    induction s generalizing n with
    | nil => rfl
    | cons c s ih =>
      have hrest := ih (n + 1)
      rw [Nat.count_succ] at hrest
      rw [keepFrom_cons, keepFrom_cons]
      by_cases hp : p n
      · rw [if_pos hp] at hrest ⊢
        rw [keepFrom_cons, hrest]
        simp [hp]
      · rw [if_neg hp] at hrest ⊢
        rw [Nat.add_zero] at hrest
        rw [hrest]
        simp [hp]
  have := key 0 t
  rwa [Nat.count_zero] at this

/-! ### A backslash and the character after it -/

/-- A backslash stands at position `j` and the given character directly after it. -/
def IsEscape (t : Text) (c : Char) (j : Nat) : Prop := t[j]? = some '\\' ∧ t[j + 1]? = some c

instance (t : Text) (c : Char) (j : Nat) : Decidable (IsEscape t c j) :=
  inferInstanceAs (Decidable (_ ∧ _))

theorem IsEscape.lt_length {t : Text} {c : Char} {j : Nat} (h : IsEscape t c j) :
    j + 1 < t.length := (List.getElem?_eq_some_iff.mp h.2).1

theorem isEscape_cons_succ {t : Text} {b c : Char} {j : Nat} :
    IsEscape (b :: t) c (j + 1) ↔ IsEscape t c j := by
  unfold IsEscape
  rw [List.getElem?_cons_succ, List.getElem?_cons_succ]

/-- A kept backslash has `c` behind it in the result exactly if it had in the text, provided that
the character behind it is kept, or else is another one and followed by a kept one that is not
`c`. -/
theorem isEscape_keepWhere {t : Text} {c : Char}
    (hnext : ∀ j, p j → t[j]? = some '\\' →
      p (j + 1) ∨ t[j + 1]? ≠ some c ∧ p (j + 2) ∧ t[j + 2]? ≠ some c)
    {j : Nat} (hp : p j) (hj : j < t.length) :
    IsEscape (keepWhere p t) c (Nat.count p j) ↔ IsEscape t c j := by
  unfold IsEscape
  rw [getElem?_keepWhere hp hj]
  refine and_congr_right fun hbackslash => ?_
  have hcount : Nat.count p (j + 1) = Nat.count p j + 1 := by rw [Nat.count_succ, if_pos hp]
  -- The character that stands behind the backslash in the result, if there is one.
  have hbehind {k : Nat} (hk : p k) (hkcount : Nat.count p k = Nat.count p j + 1) :
      (keepWhere p t)[Nat.count p j + 1]? = t[k]? := by
    rw [← hkcount]
    rcases Nat.lt_or_ge k t.length with hlt | hge
    · exact getElem?_keepWhere hk hlt
    · rw [List.getElem?_eq_none hge, List.getElem?_eq_none]
      rw [length_keepWhere]
      exact Nat.count_monotone p hge
  by_cases hp₁ : p (j + 1)
  · rw [hbehind hp₁ hcount]
  · obtain ⟨hne₁, hp₂, hne₂⟩ := (hnext j hp hbackslash).resolve_left hp₁
    have hcount₂ : Nat.count p (j + 2) = Nat.count p j + 1 := by
      rw [Nat.count_succ, if_neg hp₁, hcount]
    rw [hbehind hp₂ hcount₂]
    exact iff_of_false hne₂ hne₁

/-- So the escapes of the result are those of the text whose backslash is kept. -/
theorem isEscape_keepWhere_iff {t : Text} {c : Char}
    (hnext : ∀ j, p j → t[j]? = some '\\' →
      p (j + 1) ∨ t[j + 1]? ≠ some c ∧ p (j + 2) ∧ t[j + 2]? ≠ some c) (k : Nat) :
    IsEscape (keepWhere p t) c k ↔ ∃ j, Nat.count p j = k ∧ p j ∧ IsEscape t c j := by
  constructor
  · intro h
    have hk : k < (keepWhere p t).length := Nat.lt_of_succ_lt h.lt_length
    rw [length_keepWhere] at hk
    obtain ⟨j, hj, hp, rfl⟩ := exists_count_eq hk
    exact ⟨j, rfl, hp, (isEscape_keepWhere hnext hp hj).mp h⟩
  · rintro ⟨j, rfl, hp, h⟩
    exact (isEscape_keepWhere hnext hp (Nat.lt_of_succ_lt h.lt_length)).mpr h

end GrammarBots.Text

import GrammarBots.Text.Basic
import Mathlib.Tactic.SplitIfs

/-!
# Slices by octets

A slice is given by the octets before it and up to its end.  There is none where one of the two
positions stands inside a character or beyond the text, or where the end comes before the beginning.
`slice?_eq_some_iff` and `dropOctets?_eq_some_iff` say this exactly: a slice is what a cut between
characters leaves.
-/

namespace GrammarBots.Text

/-- The text behind its first `n` octets, unless they end inside a character or beyond the text. -/
def dropOctets? : (n : Nat) → Text → Option Text
  | 0, t => some t
  | _ + 1, [] => none
  | n + 1, c :: t => if c.utf8Size ≤ n + 1 then dropOctets? (n + 1 - c.utf8Size) t else none

/-- The first `n` octets of a text, unless they end inside a character or beyond the text. -/
def takeOctets? : (n : Nat) → Text → Option Text
  | 0, _ => some []
  | _ + 1, [] => none
  | n + 1, c :: t =>
    if c.utf8Size ≤ n + 1 then (takeOctets? (n + 1 - c.utf8Size) t).map (c :: ·) else none

/-- The octets of a text from one position up to another. -/
def slice? (t : Text) (start stop : Nat) : Option Text :=
  if start ≤ stop then (dropOctets? start t).bind (takeOctets? (stop - start)) else none

/-- The characters of a text that stands behind `offset` octets, each with the octets before it. -/
def charIndices (offset : Nat) : Text → List (Nat × Char)
  | [] => []
  | c :: t => (offset, c) :: charIndices (offset + c.utf8Size) t

theorem dropOctets?_cons (c : Char) (t : Text) (n : Nat) :
    dropOctets? (c.utf8Size + n) (c :: t) = dropOctets? n t := by
  obtain ⟨k, hk⟩ : ∃ k, c.utf8Size + n = k + 1 :=
    Nat.exists_eq_add_one_of_ne_zero (Nat.ne_of_gt (Nat.lt_add_right n c.utf8Size_pos))
  rw [hk, dropOctets?, if_pos (by omega), ← hk, Nat.add_sub_cancel_left]

theorem takeOctets?_cons (c : Char) (t : Text) (n : Nat) :
    takeOctets? (c.utf8Size + n) (c :: t) = (takeOctets? n t).map (c :: ·) := by
  obtain ⟨k, hk⟩ : ∃ k, c.utf8Size + n = k + 1 :=
    Nat.exists_eq_add_one_of_ne_zero (Nat.ne_of_gt (Nat.lt_add_right n c.utf8Size_pos))
  rw [hk, takeOctets?, if_pos (by omega), ← hk, Nat.add_sub_cancel_left]

theorem dropOctets?_append (before after : Text) :
    dropOctets? (utf8Size before) (before ++ after) = some after := by
  induction before with
  | nil =>
    rw [utf8Size, List.nil_append, dropOctets?]
  | cons c before ih => rw [utf8Size, List.cons_append, dropOctets?_cons, ih]

theorem takeOctets?_append (front after : Text) :
    takeOctets? (utf8Size front) (front ++ after) = some front := by
  induction front with
  | nil => rw [utf8Size, List.nil_append, takeOctets?]
  | cons c front ih => rw [utf8Size, List.cons_append, takeOctets?_cons, ih, Option.map_some]

/-- What is left behind some octets is what a cut between characters leaves. -/
theorem dropOctets?_eq_some_iff {n : Nat} {t after : Text} :
    dropOctets? n t = some after ↔ ∃ before, t = before ++ after ∧ n = utf8Size before := by
  constructor
  · intro h
    fun_induction dropOctets? n t with
    | case1 t =>
      cases h
      exact ⟨[], rfl, rfl⟩
    | case2 => cases h
    | case3 n c t hle ih =>
      obtain ⟨before, rfl, hn⟩ := ih h
      refine ⟨c :: before, rfl, ?_⟩
      rw [utf8Size]
      omega
    | case4 => cases h
  · rintro ⟨before, rfl, rfl⟩
    exact dropOctets?_append before after

theorem takeOctets?_eq_some_iff {n : Nat} {t front : Text} :
    takeOctets? n t = some front ↔ ∃ after, t = front ++ after ∧ n = utf8Size front := by
  constructor
  · intro h
    fun_induction takeOctets? n t generalizing front with
    | case1 t =>
      cases h
      exact ⟨t, rfl, rfl⟩
    | case2 => cases h
    | case3 n c t hle ih =>
      obtain ⟨rest, hrest, rfl⟩ := Option.map_eq_some_iff.mp h
      obtain ⟨after, rfl, hn⟩ := ih hrest
      refine ⟨after, rfl, ?_⟩
      rw [utf8Size]
      omega
    | case4 => cases h
  · rintro ⟨after, rfl, rfl⟩
    exact takeOctets?_append front after

/-- **A slice is what two cuts between characters leave.** -/
theorem slice?_eq_some_iff {t part : Text} {start stop : Nat} :
    slice? t start stop = some part ↔ ∃ before after, t = before ++ part ++ after ∧
      start = utf8Size before ∧ stop = utf8Size (before ++ part) := by
  constructor
  · intro h
    rw [slice?] at h
    split_ifs at h with hle
    obtain ⟨rest, hrest, hpart⟩ := Option.bind_eq_some_iff.mp h
    obtain ⟨before, rfl, rfl⟩ := dropOctets?_eq_some_iff.mp hrest
    obtain ⟨after, rfl, hlength⟩ := takeOctets?_eq_some_iff.mp hpart
    refine ⟨before, after, (List.append_assoc _ _ _).symm, rfl, ?_⟩
    rw [utf8Size_append]
    omega
  · rintro ⟨before, after, rfl, rfl, rfl⟩
    rw [slice?, utf8Size_append, if_pos (Nat.le_add_right _ _), List.append_assoc,
      dropOctets?_append, Option.bind_some, Nat.add_sub_cancel_left, takeOctets?_append]

/-- A letter with an accent takes up two octets, and nothing begins after one of them. -/
example : slice? "né".toList 0 2 = none ∧ slice? "né".toList 1 3 = some ['é'] := by decide

/-- Behind at least one octet there is less text. -/
theorem length_lt_of_dropOctets? {n : Nat} {t after : Text}
    (h : dropOctets? (n + 1) t = some after) : after.length < t.length := by
  obtain ⟨before, rfl, hn⟩ := dropOctets?_eq_some_iff.mp h
  cases before with
  | nil => cases hn
  | cons c before =>
    rw [List.cons_append, List.length_cons, List.length_append]
    omega

theorem charIndices_append (offset : Nat) (s t : Text) :
    charIndices offset (s ++ t) = charIndices offset s ++ charIndices (offset + utf8Size s) t := by
  induction s generalizing offset with
  | nil => rfl
  | cons c s ih => rw [List.cons_append, charIndices, charIndices, ih, utf8Size, Nat.add_assoc,
      List.cons_append]

end GrammarBots.Text

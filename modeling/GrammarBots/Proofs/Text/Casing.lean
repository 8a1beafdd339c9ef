import GrammarBots.Text.Casing
import Mathlib.Data.List.Forall2

/-!
# Letter case in ASCII and beyond

Two texts may agree up to the case of the letters of ASCII, or they may have the same lower case.
The first implies the second, and what it asks for besides is that the texts have the same
characters beyond ASCII, each at its place (`eqIgnoringAsciiCase_iff`).  Texts that are in lower case
already beyond ASCII need not be compared there (`eqIgnoringAsciiCase_of_lower_eq`).

The lower case of a character may depend on those around it, since a capital sigma becomes a final
one at the end of a word.  But all that is asked of them is whether they have a case and whether
they are to be passed over, and for a letter of ASCII the answer is the same in either case
(`meetsCased_congr`).
-/

namespace GrammarBots.Text

variable {c d : Char} {s t before before' : Text} {n : Nat}

/-! ### Characters -/

/-- The code points of the letters of ASCII. -/
def IsAsciiLetter (n : Nat) : Prop := 65 ≤ n ∧ n ≤ 90 ∨ 97 ≤ n ∧ n ≤ 122

theorem toNat_toLower (c : Char) :
    c.toLower.toNat = if 65 ≤ c.toNat ∧ c.toNat ≤ 90 then c.toNat + 32 else c.toNat := by
  have hcapital : (c.val ≥ 'A'.val ∧ c.val ≤ 'Z'.val) ↔ 65 ≤ c.toNat ∧ c.toNat ≤ 90 := by
    simp only [ge_iff_le, UInt32.le_iff_toNat_le]
    exact Iff.rfl
  unfold Char.toLower
  split
  next h =>
    rw [if_pos (hcapital.mp h)]
    have hbound : c.val.toNat ≤ 90 := (hcapital.mp h).2
    have hshift : UInt32.toNat 32 = 32 := rfl
    show (c.val + 32).toNat = c.val.toNat + 32
    rw [UInt32.toNat_add]
    omega
  next h => rw [if_neg fun h' => h (hcapital.mpr h')]

/-- The characters differ at most in the case of a letter of ASCII. -/
def SameAsciiFold (c d : Char) : Prop := c.toLower = d.toLower

theorem SameAsciiFold.eq_or (h : SameAsciiFold c d) :
    c = d ∨ IsAsciiLetter c.toNat ∧ IsAsciiLetter d.toNat := by
  have hnat := congrArg Char.toNat h
  rw [toNat_toLower, toNat_toLower] at hnat
  rw [← Char.toNat_inj]
  unfold IsAsciiLetter
  split_ifs at hnat <;> omega

theorem IsAsciiLetter.lt (h : IsAsciiLetter n) : n < 0x80 := by
  unfold IsAsciiLetter at h
  omega

theorem charLower_of_lt (h : c.toNat < 0x80) : charLower c = [c.toLower] := if_pos h

theorem ne_sigma_of_lt (h : c.toNat < 0x80) : c ≠ 'Σ' := by
  rintro rfl
  exact absurd h (by decide)

/-! ### Classes -/

/-- No range of the class reaches into the letters of ASCII. -/
theorem caseIgnorable_avoids : ∀ range ∈ ClassTable.caseIgnorable.toList,
    range.2 < 65 ∨ (91 ≤ range.1 ∧ range.2 ≤ 96) ∨ 123 ≤ range.1 := by
  decide +kernel

theorem holds_caseIgnorable (h : IsAsciiLetter n) :
    ClassTable.holds ClassTable.caseIgnorable n = false := by
  unfold IsAsciiLetter at h
  rw [ClassTable.holds, ← Array.any_toList, List.any_eq_false]
  intro range hrange
  have havoids := caseIgnorable_avoids range hrange
  rw [Bool.and_eq_true, decide_eq_true_iff, decide_eq_true_iff]
  omega

theorem holds_cased (h : IsAsciiLetter n) : ClassTable.holds ClassTable.cased n = true := by
  rw [ClassTable.holds, ← Array.any_toList, List.any_eq_true]
  rcases h with h | h
  · refine ⟨(0x41, 0x5A), List.mem_cons_self, ?_⟩
    simpa using h
  · refine ⟨(0x61, 0x7A), List.mem_cons_of_mem _ List.mem_cons_self, ?_⟩
    simpa using h

theorem meetsCased_cons (c : Char) (t : Text) :
    meetsCased (c :: t) =
      if ClassTable.holds ClassTable.caseIgnorable c.toNat then meetsCased t
      else ClassTable.holds ClassTable.cased c.toNat := by
  unfold meetsCased
  rw [List.dropWhile_cons]
  split_ifs <;> rfl

/-- Whether there is a cased character does not depend on the case of letters of ASCII. -/
theorem meetsCased_congr (h : List.Forall₂ SameAsciiFold s t) : meetsCased s = meetsCased t := by
  induction h with
  | nil => rfl
  | cons hcd _ ih =>
    rw [meetsCased_cons, meetsCased_cons, ih]
    rcases hcd.eq_or with rfl | ⟨hc, hd⟩
    · rfl
    · rw [holds_caseIgnorable hc, holds_caseIgnorable hd, holds_cased hc, holds_cased hd]

/-! ### Texts -/

/-- The texts have the same characters beyond ASCII, at the same places. -/
def SameBeyondAscii (s t : Text) : Prop :=
  List.Forall₂ (fun c d => c = d ∨ c.toNat < 0x80 ∧ d.toNat < 0x80) s t

instance : Decidable (SameBeyondAscii s t) :=
  inferInstanceAs (Decidable (List.Forall₂ _ s t))

theorem eqIgnoringAsciiCase_iff_forall₂ :
    eqIgnoringAsciiCase s t = true ↔ List.Forall₂ SameAsciiFold s t := by
  unfold eqIgnoringAsciiCase
  rw [beq_iff_eq, ← List.forall₂_eq_eq_eq, List.forall₂_map_left_iff, List.forall₂_map_right_iff]
  rfl

/-- Texts that differ in the case of letters of ASCII only have the same lower case, wherever they
stand. -/
theorem lowerAfter_congr (hbefore : List.Forall₂ SameAsciiFold before before')
    (h : List.Forall₂ SameAsciiFold s t) : lowerAfter before s = lowerAfter before' t := by
  induction h generalizing before before' with
  | nil => rfl
  | cons hcd hrest ih =>
    rw [lowerAfter, lowerAfter, ih (List.Forall₂.cons hcd hbefore)]
    congr 1
    -- Only a sigma looks at its neighbours, and no letter of ASCII is a sigma.
    rcases hcd.eq_or with rfl | ⟨hc, hd⟩
    · rw [meetsCased_congr hbefore, meetsCased_congr hrest]
    · rw [if_neg (ne_sigma_of_lt hc.lt), if_neg (ne_sigma_of_lt hd.lt), charLower_of_lt hc.lt,
        charLower_of_lt hd.lt, hcd]

/-- Conversely, texts of one lower case differ in ASCII only, if they do not differ beyond it. -/
theorem forall₂_of_lowerAfter_eq (hsame : SameBeyondAscii s t)
    (h : lowerAfter before s = lowerAfter before' t) : List.Forall₂ SameAsciiFold s t := by
  induction hsame generalizing before before' with
  | nil => exact List.Forall₂.nil
  | @cons c d s t hcd _ ih =>
    rw [lowerAfter, lowerAfter] at h
    rcases hcd with rfl | ⟨hc, hd⟩
    · refine List.Forall₂.cons rfl ?_
      by_cases hsigma : c = 'Σ'
      · -- A final sigma may stand against another, but each is one character.
        rw [if_pos hsigma, if_pos hsigma] at h
        exact ih (List.append_inj h (by split_ifs <;> rfl)).2
      · rw [if_neg hsigma, if_neg hsigma] at h
        exact ih (List.append_cancel_left h)
    · rw [if_neg (ne_sigma_of_lt hc), if_neg (ne_sigma_of_lt hd), charLower_of_lt hc,
        charLower_of_lt hd] at h
      obtain ⟨hhead, htail⟩ := List.cons.inj h
      exact List.Forall₂.cons hhead (ih htail)

/-- **Agreeing up to the case of ASCII** is having the same lower case and the same characters
beyond ASCII. -/
theorem eqIgnoringAsciiCase_iff :
    eqIgnoringAsciiCase s t = true ↔ lower s = lower t ∧ SameBeyondAscii s t := by
  rw [eqIgnoringAsciiCase_iff_forall₂]
  constructor
  · intro h
    refine ⟨lowerAfter_congr List.Forall₂.nil h, h.imp ?_⟩
    intro c d hcd
    exact hcd.eq_or.imp_right fun hletters => ⟨hletters.1.lt, hletters.2.lt⟩
  · rintro ⟨hlower, hsame⟩
    exact forall₂_of_lowerAfter_eq hsame hlower

/-! ### Texts in lower case -/

/-- Beyond ASCII, the text is in lower case. -/
def IsLowerBeyondAscii (t : Text) : Prop := ∀ c ∈ t, 0x80 ≤ c.toNat → charLower c = [c]

instance : Decidable (IsLowerBeyondAscii t) :=
  List.decidableBAll (fun c : Char => 0x80 ≤ c.toNat → charLower c = [c]) t

theorem lowerAfter_of_isLower (before : Text) (ht : IsLowerBeyondAscii t) :
    lowerAfter before t = t.map Char.toLower := by
  induction t generalizing before with
  | nil => rfl
  | cons c t ih =>
    have hrest : IsLowerBeyondAscii t := fun d hd => ht d (List.mem_cons_of_mem c hd)
    have hc := ht c List.mem_cons_self
    rw [lowerAfter, ih (c :: before) hrest, List.map_cons]
    by_cases hascii : c.toNat < 0x80
    · rw [if_neg (ne_sigma_of_lt hascii), charLower_of_lt hascii]
      rfl
    · have hfixed : charLower c = [c] := hc (by omega)
      have hsigma : c ≠ 'Σ' := by
        rintro rfl
        exact absurd hfixed (by decide)
      have htoLower : c.toLower = c := by
        rw [← Char.toNat_inj, toNat_toLower, if_neg (by omega)]
      rw [if_neg hsigma, hfixed, htoLower]
      rfl

/-- **For texts in lower case beyond ASCII**, having the same lower case is enough. -/
theorem eqIgnoringAsciiCase_of_lower_eq (hs : IsLowerBeyondAscii s) (ht : IsLowerBeyondAscii t)
    (h : lower s = lower t) : eqIgnoringAsciiCase s t = true := by
  have hmap : s.map Char.toLower = t.map Char.toLower := by
    rw [← lowerAfter_of_isLower [] hs, ← lowerAfter_of_isLower [] ht]
    exact h
  unfold eqIgnoringAsciiCase
  rw [hmap]
  exact beq_self_eq_true _

end GrammarBots.Text

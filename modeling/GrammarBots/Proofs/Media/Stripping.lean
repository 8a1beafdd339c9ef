import GrammarBots.Proofs.Media.PostedText

/-!
# Taking directives out once is enough

Where a directive is taken out, characters meet that were not neighbours, and braces that were left
over on both sides come closer.  `scan_strip` says that they never enclose anything: the rest of a
text has no directives, so taking them out again changes nothing.

If braces of the rest enclosed something, so would the same braces of the text
(`Encloses.of_strip`): they are as unescaped as before, since no backslash stands before a
directive, and no line ends between them, since no line ends in a directive.  But a closing brace
outside the directives is never answered (`Matches.not_encloses_of_outside`).
-/

namespace GrammarBots

open Text Pairing

/-! ### Braces that are left over -/

namespace Pairing

variable {t : Text} {o c : Nat}

/-- A closing brace outside the matches is answered by no opening brace. -/
theorem Matches.not_encloses_of_outside {limit : Nat} {ms : List (Nat × Nat)}
    (h : Matches t limit ms) (hc : c < limit) (hout : ∀ m ∈ ms, ¬ (m.1 ≤ c ∧ c ≤ m.2)) :
    ¬ Encloses t o c := by
  induction h with
  | none hnone => exact hnone o c hc
  | @last limit o' c' ms hlast _ ih =>
    intro henc
    -- The last match reaches at least as far, so the brace stands before it.
    have hle : c ≤ c' := hlast.rightmost o c hc henc
    have hlt : c < o' := by
      by_contra hge
      exact hout (o', c') (List.mem_append_right ms (List.mem_singleton_self _))
        ⟨Nat.le_of_not_lt hge, hle⟩
    exact ih hlt (fun m hm => hout m (List.mem_append_left _ hm)) henc

/-- No line ends anywhere in a directive, its braces included. -/
theorem Encloses.not_lineTerminator (h : Encloses t o c) {k : Nat} (ho : o ≤ k) (hc : k ≤ c)
    {ch : Char} (hch : t[k]? = some ch) : isLineTerminator ch = false := by
  rcases Nat.eq_or_lt_of_le ho with rfl | hlt
  · have hbrace := h.opening.1
    rw [hch] at hbrace
    obtain rfl := Option.some.inj hbrace
    decide
  rcases Nat.eq_or_lt_of_le hc with rfl | hgt
  · have hbrace := h.closing.1
    rw [hch] at hbrace
    obtain rfl := Option.some.inj hbrace
    decide
  exact h.oneLine k hlt hgt ch hch

end Pairing

/-! ### From the rest back to the text -/

variable {t : Text}

/-- A backslash before a character outside the directives is outside them, too. -/
theorem IsOutside.of_succ {j : Nat} (h : IsOutside t (j + 1)) (hj : t[j]? = some '\\') :
    IsOutside t j :=
  fun d hd hcovers => h d hd ((covers_iff_covers_succ hd hj).mp hcovers)

/-- A brace that is unescaped in the rest is so in the text: a backslash before it would have stayed
before it. -/
theorem IsUnescaped.of_strip {brace : Char} {j : Nat} (hout : IsOutside t j)
    (hj : t[j]? = some brace)
    (h : IsUnescaped (Directive.strip t) brace (Nat.count (IsOutside t) j)) :
    IsUnescaped t brace j := by
  refine ⟨hj, ?_⟩
  rintro i rfl hbackslash
  have hi : IsOutside t i := hout.of_succ hbackslash
  have hlt : i < t.length := (List.getElem?_eq_some_iff.mp hbackslash).1
  refine h.2 (Nat.count (IsOutside t) i) ?_ ?_
  · rw [Nat.count_succ, if_pos hi]
  · rw [strip_eq_keepWhere, getElem?_keepWhere hi hlt, hbackslash]

/-- Braces that enclose something in the rest do so in the text, and the closing one belongs to no
directive. -/
theorem Encloses.of_strip {o c : Nat} (h : Encloses (Directive.strip t) o c) :
    ∃ o' c', IsOutside t c' ∧ Encloses t o' c' := by
  have hopening := h.opening.1
  have hclosing := h.closing.1
  rw [strip_eq_keepWhere] at hopening hclosing
  obtain ⟨o', hout, rfl, ho'⟩ := exists_of_getElem?_keepWhere hopening
  obtain ⟨c', hcout, rfl, hc'⟩ := exists_of_getElem?_keepWhere hclosing
  have hcount : Nat.count (IsOutside t) (o' + 1) = Nat.count (IsOutside t) o' + 1 := by
    rw [Nat.count_succ, if_pos hout]
  have hcontent := h.content
  refine ⟨o', c', hcout, IsUnescaped.of_strip hout ho' h.opening,
    IsUnescaped.of_strip hcout hc' h.closing, ?_, fun k hok hkc ch hch => ?_⟩
  · by_contra hlt
    have := Nat.count_monotone (IsOutside t) (show c' ≤ o' + 1 by omega)
    omega
  · by_cases hk : IsOutside t k
    · -- A character between the braces that stays is between them in the rest.
      have hlt : k < t.length := (List.getElem?_eq_some_iff.mp hch).1
      have hafter := Nat.count_monotone (IsOutside t) (show o' + 1 ≤ k by omega)
      have hbefore : Nat.count (IsOutside t) k < Nat.count (IsOutside t) c' :=
        Nat.count_strict_mono hk hkc
      refine h.oneLine (Nat.count (IsOutside t) k) (by omega) hbefore ch ?_
      rw [strip_eq_keepWhere, getElem?_keepWhere hk hlt, hch]
    · unfold IsOutside at hk
      push Not at hk
      obtain ⟨d, hd, hcovers⟩ := hk
      obtain ⟨o₁, c₁, henc, rfl⟩ := exists_encloses_of_mem_scan hd
      obtain ⟨ho₁, hc₁⟩ := (covers_directiveAt_iff henc k).mp hcovers
      exact henc.not_lineTerminator ho₁ hc₁ hch

/-! ### The rest -/

/-- No braces of the rest enclose anything. -/
theorem not_encloses_strip (t : Text) (o c : Nat) : ¬ Encloses (Directive.strip t) o c := by
  intro h
  obtain ⟨o', c', hout, henc⟩ := Encloses.of_strip h
  exact (matches_spans t).not_encloses_of_outside henc.lt_length
    ((isOutside_iff t c').mp hout) henc

/-- A text without directives is its own rest. -/
theorem strip_eq_self (h : Directive.scan t = []) : Directive.strip t = t := by
  rw [strip_eq_keepWhere]
  refine keepFrom_eq_self fun j _ _ d hd => ?_
  rw [h] at hd
  cases hd

/-- **One pass leaves no directive behind**, so that a second one changes nothing.  The texts that
have no directives are exactly those that a pass leaves as they are. -/
theorem scan_strip (t : Text) :
    Directive.scan (Directive.strip t) = [] ∧
    Directive.strip (Directive.strip t) = Directive.strip t ∧
    (Directive.strip t = t ↔ Directive.scan t = []) := by
  have hscan : Directive.scan (Directive.strip t) = [] := by
    refine List.eq_nil_iff_forall_not_mem.mpr fun d hd => ?_
    obtain ⟨o, c, henc, _⟩ := exists_encloses_of_mem_scan hd
    exact not_encloses_strip t o c henc
  refine ⟨hscan, strip_eq_self hscan, fun h => ?_, strip_eq_self⟩
  rwa [h] at hscan

/-- A brace is left over on each of two lines. -/
example : Directive.strip ['{', '{', 'b', '}', '\n', '}'] = ['{', '\n', '}'] := by decide

end GrammarBots

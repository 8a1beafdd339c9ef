import GrammarBots.Proofs.Media.Pairing
import GrammarBots.Proofs.Text.Positions

/-!
# The posted text, character by character

A text is posted in three passes: directives are taken out, then the backslashes before opening
braces, then those before closing braces.  `postedText_eq_keepWhere` says that the result is that of
one pass over the original, which drops a character exactly if it lies in a directive or is a
backslash with a brace after it.

Each pass keeps the characters at certain positions (`strip_eq_keepWhere`,
`unescapeBrace_eq_keepWhere`), and a pass after another can ask the original text instead of the
result it sees, since the escapes in the two are the same.  For directives this is so because the
braces at their ends are unescaped: no backslash stands before one, and none is its last character.
For the two kinds of braces it is so because the backslash that the first pass drops is followed by
an opening brace, which stays.
-/

namespace GrammarBots

open Text Pairing

/-! ### Taking out directives -/

/-- The character at position `j` belongs to the directive: its octets lie in the directive's. -/
def Covers (t : Text) (d : Directive) (j : Nat) : Prop :=
  d.start ≤ utf8Size (t.take j) ∧ utf8Size (t.take j) < d.stop

instance (t : Text) (d : Directive) (j : Nat) : Decidable (Covers t d j) :=
  inferInstanceAs (Decidable (_ ∧ _))

/-- The character at position `j` belongs to no directive of the text. -/
def IsOutside (t : Text) (j : Nat) : Prop := ∀ d ∈ Directive.scan t, ¬ Covers t d j

instance (t : Text) : DecidablePred (IsOutside t) := fun _ =>
  inferInstanceAs (Decidable (∀ d ∈ Directive.scan t, _))

/-- A longer beginning has more octets, if the text has characters to make it longer. -/
theorem utf8Size_take_lt_iff {t : Text} {m n : Nat} (hn : n ≤ t.length) :
    utf8Size (t.take m) < utf8Size (t.take n) ↔ m < n := by
  have hlt {m n : Nat} (hmn : m < n) (hn : n ≤ t.length) :
      utf8Size (t.take m) < utf8Size (t.take n) := by
    have hsucc : utf8Size (t.take (m + 1)) = utf8Size (t.take m) + t[m].utf8Size := by
      rw [List.take_succ_eq_append_getElem (by omega), utf8Size_append]
      rfl
    have := t[m].utf8Size_pos
    have : utf8Size (t.take (m + 1)) ≤ utf8Size (t.take n) := utf8Size_take_le t hmn
    omega
  constructor
  · intro h
    by_contra hge
    have := utf8Size_take_le t (Nat.le_of_not_lt hge)
    omega
  · exact fun h => hlt h hn

/-- In characters, a directive reaches from its opening brace to its closing brace. -/
theorem covers_directiveAt_iff {t : Text} {o c : Nat} (h : Encloses t o c) (j : Nat) :
    Covers t (directiveAt t (o, c)) j ↔ o ≤ j ∧ j ≤ c := by
  have hoc := h.content
  have hc := h.lt_length
  unfold Covers directiveAt
  rw [← Nat.not_lt, utf8Size_take_lt_iff (show o ≤ t.length by omega),
    utf8Size_take_lt_iff (show c + 1 ≤ t.length by omega)]
  omega

theorem isOutside_iff (t : Text) (j : Nat) :
    IsOutside t j ↔ ∀ m ∈ spans 0 (Piece.ofText t), ¬ (m.1 ≤ j ∧ j ≤ m.2) := by
  unfold IsOutside
  rw [scan_eq_map_spans, List.forall_mem_map]
  refine forall₂_congr fun m hm => ?_
  rw [covers_directiveAt_iff ((matches_spans t).encloses m hm)]

theorem le_of_mem_spans {i : Nat} {pieces : List Piece} :
    ∀ m ∈ spans i pieces, i ≤ m.1 := by
  induction pieces generalizing i with
  | nil => simp [spans]
  | cons p pieces ih =>
    cases p with
    | plain s => exact fun m hm => Nat.le_of_add_right_le (ih m hm)
    | directive raw =>
      intro m hm
      rcases List.mem_cons.mp hm with rfl | hm
      · exact le_rfl
      · exact Nat.le_of_add_right_le (ih m hm)

/-- The plain pieces are what stands outside the directives. -/
theorem plainText_eq_keepFrom (pieces : List Piece) (i : Nat)
    (hcontent : ∀ m ∈ spans i pieces, m.1 + 2 ≤ m.2) :
    Piece.plainText pieces
      = keepFrom (fun j => ∀ m ∈ spans i pieces, ¬ (m.1 ≤ j ∧ j ≤ m.2)) i
          (Piece.flatten pieces) := by
  induction pieces generalizing i with
  | nil => rfl
  | cons p pieces ih =>
    rw [Piece.flatten_cons, keepFrom_append]
    cases p with
    | plain s =>
      rw [Piece.plainText, ih (i + s.length) hcontent, Piece.chars,
        keepFrom_eq_self (n := i) (t := s)]
      · rfl
      · intro j _ hj m hm hmem
        have : i + s.length ≤ m.1 := le_of_mem_spans m hm
        omega
    | directive raw =>
      simp only [spans, List.forall_mem_cons] at hcontent ⊢
      rw [Piece.plainText, ih (i + raw.length) hcontent.2, Piece.chars,
        keepFrom_eq_nil (n := i), List.nil_append]
      · refine keepFrom_congr fun j hj _ => ?_
        have : ¬ (i ≤ j ∧ j ≤ i + raw.length - 1) := by omega
        simp only [this, not_false_eq_true, true_and]
      · intro j hij hj hout
        exact hout.1 ⟨hij, by omega⟩

theorem strip_eq_keepWhere (t : Text) : Directive.strip t = keepWhere (IsOutside t) t := by
  have h := plainText_eq_keepFrom (Piece.ofText t) 0
    fun m hm => ((matches_spans t).encloses m hm).content
  rw [Piece.flatten_ofText] at h
  rw [Directive.strip, h]
  exact keepFrom_congr fun j _ _ => (isOutside_iff t j).symm

/-- A backslash and the character after it lie in a directive together or not at all. -/
theorem covers_iff_covers_succ {t : Text} {d : Directive} (hd : d ∈ Directive.scan t) {j : Nat}
    (hj : t[j]? = some '\\') : Covers t d j ↔ Covers t d (j + 1) := by
  obtain ⟨o, c, henc, rfl⟩ := exists_encloses_of_mem_scan hd
  rw [covers_directiveAt_iff henc, covers_directiveAt_iff henc]
  have ho : j + 1 ≠ o := fun h => henc.opening.2 j h hj
  have hc : j ≠ c := by
    rintro rfl
    rw [henc.closing.1] at hj
    exact absurd hj (by decide)
  omega

theorem IsOutside.succ {t : Text} {j : Nat} (h : IsOutside t j) (hj : t[j]? = some '\\') :
    IsOutside t (j + 1) :=
  fun d hd hcovers => h d hd ((covers_iff_covers_succ hd hj).mpr hcovers)

/-! ### Restoring braces -/

/-- Restoring one kind of brace drops the backslashes that have it directly behind them. -/
theorem unescapeBrace_eq_keepWhere {brace : Char} (hbrace : brace ≠ '\\') (t : Text) :
    unescapeBrace brace t = keepWhere (fun j => ¬ IsEscape t brace j) t := by
  fun_induction unescapeBrace brace t with
  | case1 rest ih =>
    have hescape : IsEscape ('\\' :: brace :: rest) brace 0 := ⟨rfl, rfl⟩
    have hnext : ¬ IsEscape ('\\' :: brace :: rest) brace 1 := fun h =>
      hbrace (Option.some.inj h.1)
    rw [keepWhere_cons, if_neg (not_not_intro hescape), keepWhere_cons, if_pos hnext, ih]
    refine congrArg (brace :: ·) (keepWhere_congr fun j _ => ?_)
    rw [isEscape_cons_succ, isEscape_cons_succ]
  | case2 c rest hc ih =>
    have hescape : ¬ IsEscape ('\\' :: c :: rest) brace 0 := fun h => hc (Option.some.inj h.2)
    rw [keepWhere_cons, if_pos hescape, ih]
    refine congrArg ('\\' :: ·) (keepWhere_congr fun j _ => ?_)
    rw [isEscape_cons_succ]
  | case3 c rest hpair ih =>
    have hescape : ¬ IsEscape (c :: rest) brace 0 := by
      rintro ⟨hbackslash, hnext⟩
      obtain ⟨b, rest', rfl⟩ := List.exists_cons_of_ne_nil (l := rest) (by rintro rfl; cases hnext)
      exact hpair b rest' (Option.some.inj hbackslash) rfl
    rw [keepWhere_cons, if_pos hescape, ih]
    refine congrArg (c :: ·) (keepWhere_congr fun j _ => ?_)
    rw [isEscape_cons_succ]
  | case4 => rfl

/-- A backslash that is dropped before an opening brace leaves that brace behind it. -/
theorem not_isEscape_next {t : Text} {j : Nat} :
    ¬ IsEscape t '\x7b' (j + 1) ∨
      t[j + 1]? ≠ some '\x7d' ∧ ¬ IsEscape t '\x7b' (j + 2) ∧ t[j + 2]? ≠ some '\x7d' := by
  by_cases h : IsEscape t '\x7b' (j + 1)
  · obtain ⟨hbackslash, hbrace⟩ := h
    refine Or.inr ⟨?_, fun h => ?_, ?_⟩
    · rw [hbackslash]
      decide
    · exact absurd (hbrace.symm.trans h.1) (by decide)
    · rw [hbrace]
      decide
  · exact Or.inl h

/-- The two passes that restore braces are one pass over the text they begin with. -/
theorem unescapeBraces_eq_keepWhere (t : Text) :
    unescapeBraces t
      = keepWhere (fun j => ¬ IsEscape t '\x7b' j ∧ ¬ IsEscape t '\x7d' j) t := by
  rw [unescapeBraces, unescapeBrace_eq_keepWhere (by decide),
    unescapeBrace_eq_keepWhere (by decide), keepWhere_keepWhere]
  refine keepWhere_congr fun j hj => and_congr_right fun hp => not_congr ?_
  exact isEscape_keepWhere (fun j _ _ => not_isEscape_next) hp hj

/-! ### The posted text -/

/-- **A text is posted as one pass over it keeps it**: without the characters of its directives and
without the backslashes that have a brace behind them.  Directives cut no escape in two, and the
escapes in what is left of the text are its escapes outside directives; taking a directive out makes
no new one.  The escapes of closing braces that the second replacement finds are those of the text
that the first one was given. -/
theorem postedText_eq_keepWhere (t : Text) :
    postedText t = keepWhere (fun j => IsOutside t j ∧
      ¬ (t[j]? = some '\\' ∧ (t[j + 1]? = some '\x7b' ∨ t[j + 1]? = some '\x7d'))) t ∧
    (∀ c j, IsEscape t c j → ∀ d ∈ Directive.scan t, Covers t d j ↔ Covers t d (j + 1)) ∧
    (∀ c k, IsEscape (Directive.strip t) c k ↔
      ∃ j, Nat.count (IsOutside t) j = k ∧ IsOutside t j ∧ IsEscape t c j) ∧
    (∀ s k, IsEscape (unescapeBrace '\x7b' s) '\x7d' k ↔
      ∃ j, Nat.count (fun j => ¬ IsEscape s '\x7b' j) j = k ∧ IsEscape s '\x7d' j) := by
  have houtside {c : Char} (j : Nat) (h : IsOutside t j) (hj : t[j]? = some '\\') :
      IsOutside t (j + 1) ∨ t[j + 1]? ≠ some c ∧ IsOutside t (j + 2) ∧ t[j + 2]? ≠ some c :=
    Or.inl (h.succ hj)
  refine ⟨?_, fun c j h d hd => covers_iff_covers_succ hd h.1, fun c k => ?_, fun s k => ?_⟩
  · rw [postedText, unescapeBraces_eq_keepWhere, strip_eq_keepWhere, keepWhere_keepWhere]
    refine keepWhere_congr fun j hj => and_congr_right fun hout => ?_
    rw [isEscape_keepWhere houtside hout hj, isEscape_keepWhere houtside hout hj, ← not_or,
      IsEscape, IsEscape, ← and_or_left]
  · rw [strip_eq_keepWhere]
    exact isEscape_keepWhere_iff houtside k
  · rw [unescapeBrace_eq_keepWhere (by decide),
      isEscape_keepWhere_iff fun j _ _ => not_isEscape_next]
    refine exists_congr fun j => and_congr_right fun _ => and_iff_right_of_imp fun h hopen => ?_
    exact absurd (hopen.2.symm.trans h.2) (by decide)

end GrammarBots

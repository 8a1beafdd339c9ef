import GrammarBots.Proofs.Media.Authoring

/-!
# Texts of several lines

A directive stands on one line, so the lines of a text are read independently of each other.
`scan_append_line` says so for a text cut at any of its line ends: the directives are those of the
text before it and those of the text behind it, the latter as many octets farther on as there are
before them, and what is left of the text and what is posted are put together from the two halves
in the same way.

The reader comes to the line end from the right, and there it forgets whether a closing brace was
waiting (`Piece.cut_append_line`).  What it then cuts off farther to the left does not depend on
what it has cut off before (`Piece.exists_cut_eq`).
-/

namespace GrammarBots

/-! ### The reader at the end of a line -/

namespace Piece

theorem consPlain_append (t : Text) (pieces more : List Piece) :
    consPlain t (pieces ++ more) = consPlain t pieces ++ more := by
  unfold consPlain
  cases t with
  | nil => rfl
  | cons c t => rfl

/-- What the reader cuts off stands in front of the plain text and the pieces that it began with,
and does not depend on them. -/
theorem exists_cut_eq (candidate : Option Text) (rev : Text) :
    ∃ front last, ∀ pieces plain,
      cut pieces plain candidate rev = front ++ consPlain (last ++ plain) pieces := by
  induction rev generalizing candidate with
  | nil => exact ⟨[], candidate.getD [], fun pieces plain => rfl⟩
  | cons c before ih =>
    cases candidate with
    | none =>
      by_cases hclose : c = '\x7d' ∧ ¬ isEscaped before
      · obtain ⟨front, last, h⟩ := ih (some [c])
        refine ⟨front, last, fun pieces plain => ?_⟩
        rw [cut, if_pos hclose, h]
      · obtain ⟨front, last, h⟩ := ih none
        refine ⟨front, last ++ [c], fun pieces plain => ?_⟩
        rw [cut, if_neg hclose, h, List.append_assoc, List.singleton_append]
    | some content =>
      by_cases hline : isLineTerminator c
      · obtain ⟨front, last, h⟩ := ih none
        refine ⟨front, last ++ c :: content, fun pieces plain => ?_⟩
        rw [cut, if_pos hline, h, List.append_assoc]
      by_cases hopen : c = '\x7b' ∧ ¬ isEscaped before ∧ 2 ≤ content.length
      · obtain ⟨front, last, h⟩ := ih none
        refine ⟨front ++ consPlain last [.directive (c :: content)], [], fun pieces plain => ?_⟩
        rw [cut, if_neg hline, if_pos hopen, h, List.append_nil, List.nil_append, List.append_assoc,
          ← consPlain_append, List.singleton_append]
      · obtain ⟨front, last, h⟩ := ih (some (c :: content))
        refine ⟨front, last, fun pieces plain => ?_⟩
        rw [cut, if_neg hline, if_neg hopen, h]

variable {c : Char}

theorem isEscaped_append_line (hc : isLineTerminator c = true) (rev before : Text) :
    isEscaped (rev ++ c :: before) = isEscaped rev := by
  have hne : c ≠ '\\' := by
    rintro rfl
    exact absurd hc (by decide)
  cases rev with
  | nil => simpa [isEscaped] using hne
  | cons b rev => rfl

/-- At a line end the reader has cut off what it would have cut off at the front of a text, and
goes on as if no closing brace had been waiting. -/
theorem cut_append_line (hc : isLineTerminator c = true) (pieces : List Piece) (plain : Text)
    (candidate : Option Text) (rev before : Text) :
    ∃ pieces' plain', cut pieces plain candidate rev = consPlain plain' pieces' ∧
      cut pieces plain candidate (rev ++ c :: before) = cut pieces' (c :: plain') none before := by
  fun_induction cut pieces plain candidate rev with
  | case1 pieces plain candidate =>
    refine ⟨pieces, candidate.getD [] ++ plain, rfl, ?_⟩
    cases candidate with
    | none =>
      have hclose : c ≠ '\x7d' := by
        rintro rfl
        exact absurd hc (by decide)
      rw [List.nil_append, cut, if_neg fun h => hclose h.1]
      rfl
    | some content =>
      rw [List.nil_append, cut, if_pos hc]
      rfl
  | case2 pieces plain ch rev hclose ih =>
    obtain ⟨pieces', plain', hcut, hline⟩ := ih
    refine ⟨pieces', plain', hcut, ?_⟩
    rw [List.cons_append, cut, isEscaped_append_line hc, if_pos hclose, hline]
  | case3 pieces plain ch rev hclose ih =>
    obtain ⟨pieces', plain', hcut, hline⟩ := ih
    refine ⟨pieces', plain', hcut, ?_⟩
    rw [List.cons_append, cut, isEscaped_append_line hc, if_neg hclose, hline]
  | case4 pieces plain ch rev content hend ih =>
    obtain ⟨pieces', plain', hcut, hline⟩ := ih
    refine ⟨pieces', plain', hcut, ?_⟩
    rw [List.cons_append, cut, if_pos hend, hline]
  | case5 pieces plain ch rev content hend hopen ih =>
    obtain ⟨pieces', plain', hcut, hline⟩ := ih
    refine ⟨pieces', plain', hcut, ?_⟩
    rw [List.cons_append, cut, if_neg hend, isEscaped_append_line hc, if_pos hopen, hline]
  | case6 pieces plain ch rev content hend hopen ih =>
    obtain ⟨pieces', plain', hcut, hline⟩ := ih
    refine ⟨pieces', plain', hcut, ?_⟩
    rw [List.cons_append, cut, if_neg hend, isEscaped_append_line hc, if_neg hopen, hline]

/-- The pieces of a text are those of the two halves at a line end, but for the plain text around
it, which is one piece. -/
theorem exists_ofText_append_line (hc : isLineTerminator c = true) (a b : Text) :
    ∃ front last plain pieces, ofText a = front ++ consPlain last [] ∧
      ofText b = consPlain plain pieces ∧
      ofText (a ++ c :: b) = front ++ consPlain (last ++ c :: plain) pieces := by
  obtain ⟨front, last, hfront⟩ := exists_cut_eq none a.reverse
  obtain ⟨pieces, plain, hcut, hline⟩ := cut_append_line hc [] [] none b.reverse a.reverse
  refine ⟨front, last, plain, pieces, ?_, hcut, ?_⟩
  · rw [ofText, hfront, List.append_nil]
  · rw [ofText, List.reverse_append, List.reverse_cons, List.append_assoc, List.singleton_append,
      hline, hfront]

theorem plainText_append (pieces more : List Piece) :
    plainText (pieces ++ more) = plainText pieces ++ plainText more := by
  induction pieces with
  | nil => rfl
  | cons p pieces ih => cases p <;> simp [plainText, ih]

end Piece

/-! ### Directives farther on -/

namespace Directive

/-- The directive when so many octets stand in front of the text. -/
def shift (octets : Nat) (d : Directive) : Directive where
  raw := d.raw
  start := octets + d.start
  stop := octets + d.stop

theorem ofPieces_add (octets offset : Nat) (pieces : List Piece) :
    ofPieces (octets + offset) pieces = (ofPieces offset pieces).map (shift octets) := by
  induction pieces generalizing offset with
  | nil => rfl
  | cons p pieces ih =>
    cases p with
    | plain t => rw [ofPieces, Nat.add_assoc, ih, ofPieces]
    | directive raw =>
      rw [ofPieces, Nat.add_assoc, ih, ofPieces, List.map_cons]
      rfl

theorem ofPieces_append (offset : Nat) (pieces more : List Piece) :
    ofPieces offset (pieces ++ more)
      = ofPieces offset pieces ++ ofPieces (offset + Text.utf8Size (Piece.flatten pieces)) more := by
  induction pieces generalizing offset with
  | nil => rfl
  | cons p pieces ih =>
    cases p <;>
      simp [ofPieces, ih, Piece.flatten_cons, Piece.chars, Text.utf8Size_append, Nat.add_assoc]

end Directive

theorem unescapeBraces_append_line {c : Char} (hc : isLineTerminator c = true) (s t : Text) :
    unescapeBraces (s ++ c :: t) = unescapeBraces s ++ c :: unescapeBraces t := by
  have hne : c ≠ '\\' := by
    rintro rfl
    exact absurd hc (by decide)
  have hbrace : isBrace c = false := by
    rw [isBrace, Bool.or_eq_false_iff, beq_eq_false_iff_ne, beq_eq_false_iff_ne]
    constructor <;> rintro rfl <;> exact absurd hc (by decide)
  induction s with
  | nil =>
    rw [List.nil_append, unescapeBraces_cons, if_neg fun h => hne h.1]
    rfl
  | cons b s ih =>
    have hhead : (s ++ c :: t).head?.any isBrace = s.head?.any isBrace := by
      cases s with
      | nil => simpa using hbrace
      | cons d s => rfl
    rw [List.cons_append, unescapeBraces_cons, unescapeBraces_cons, hhead, ih]
    split_ifs <;> rfl

/-! ### Line by line -/

/-- **The lines of a text are independent.**  At every line end, the directives of a text are those
of the text before it, followed by those of the text behind it, which stand as many octets farther
on as the first half and the line end have; and both the text without directives and the text as it
is posted are those of the two halves with the line end between them. -/
theorem scan_append_line {c : Char} (hc : isLineTerminator c = true) (a b : Text) :
    Directive.scan (a ++ c :: b) = Directive.scan a
      ++ (Directive.scan b).map (Directive.shift (Text.utf8Size (a ++ [c]))) ∧
    Directive.strip (a ++ c :: b) = Directive.strip a ++ c :: Directive.strip b ∧
    postedText (a ++ c :: b) = postedText a ++ c :: postedText b := by
  obtain ⟨front, last, plain, pieces, ha, hb, hline⟩ := Piece.exists_ofText_append_line hc a b
  have hstrip : Directive.strip (a ++ c :: b) = Directive.strip a ++ c :: Directive.strip b := by
    rw [Directive.strip, Directive.strip, Directive.strip, ha, hb, hline, Piece.plainText_append,
      Piece.plainText_append, plainText_consPlain, plainText_consPlain, plainText_consPlain]
    simp [Piece.plainText]
  refine ⟨?_, hstrip, ?_⟩
  · -- The first half ends where its last plain piece does.
    have hflatten : Piece.flatten front ++ last = a := by
      have hlast : Piece.flatten (Piece.consPlain last []) = last :=
        (Piece.flatten_consPlain last []).trans (List.append_nil last)
      rw [← Piece.flatten_ofText a, ha, Piece.flatten, Piece.flatten, List.flatMap_append]
      exact congrArg (_ ++ ·) hlast.symm
    have hsize : Text.utf8Size a = Text.utf8Size (Piece.flatten front) + Text.utf8Size last := by
      rw [← hflatten, Text.utf8Size_append]
    rw [Directive.scan, Directive.scan, Directive.scan, ha, hb, hline, Directive.ofPieces_append,
      Directive.ofPieces_append, ofPieces_consPlain, ofPieces_consPlain, ofPieces_consPlain,
      ← Directive.ofPieces_add, Text.utf8Size_append, Text.utf8Size_append, hsize]
    simp [Directive.ofPieces, Text.utf8Size, Nat.add_assoc]
  · rw [postedText, hstrip, unescapeBraces_append_line hc, postedText, postedText]

/-- The closing brace that waits in the second line does not find the opening brace left over in
the first, and the line end between them has three octets. -/
theorem scan_append_line_separator :
    let a : Text := ['\x7b', 'a', '\x7d', '\x7b', 'x', '\\']
    let b : Text := ['\x7d', 'y', '\x7d', '\x7b', 'b', '\x7d']
    isLineTerminator '\u2028' = true ∧
    Directive.scan (a ++ '\u2028' :: b)
      = [⟨['\x7b', 'a', '\x7d'], 0, 3⟩, ⟨['\x7b', 'b', '\x7d'], 12, 15⟩] ∧
    postedText (a ++ '\u2028' :: b) = ['\x7b', 'x', '\\', '\u2028', '\x7d', 'y', '\x7d'] := by
  intro a b
  have hc : isLineTerminator '\u2028' = true := by decide
  obtain ⟨hscan, -, hposted⟩ := scan_append_line hc a b
  rw [hscan, hposted]
  decide

end GrammarBots

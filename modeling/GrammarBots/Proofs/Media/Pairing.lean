import GrammarBots.Media.Directive
import Mathlib.Data.String.Basic

/-!
# The pairing of braces

`Matches t limit ms` is the rule that says which braces of a text enclose directives, without any
way of finding them: the right-most closing brace before the limit that some opening brace answers,
with the nearest such opening brace, and then the same again with that opening brace as the limit.

`Directive.scan` reads a text once, backwards, and never returns to a closing brace that it gave up.
`scan_eq_matches` says that it finds exactly the matches of the rule.  What carries the proof is
`Known`: while no closing brace waits, all matches before the limit end before the position of the
reader; while one waits, it is the right-most that could match, and nothing from the reader up to it
opens it or ends the line.  When a line ends, that brace is given up, and so is every closing brace
that was read as its content: an opening brace that answered one of them would have answered the
waiting one as well.
-/

namespace GrammarBots

namespace Pairing

/-! ### The rule -/

/-- The brace stands at position `i`, and no backslash stands directly before it. -/
def IsUnescaped (t : Text) (brace : Char) (i : Nat) : Prop :=
  t[i]? = some brace ∧ ∀ j, j + 1 = i → t[j]? ≠ some '\\'

/-- The braces at `o` and `c` have something between them and stand on one line. -/
structure Encloses (t : Text) (o c : Nat) : Prop where
  /-- An opening brace. -/
  opening : IsUnescaped t '\x7b' o
  /-- A closing brace. -/
  closing : IsUnescaped t '\x7d' c
  /-- At least one character stands between them. -/
  content : o + 2 ≤ c
  /-- No line ends between them. -/
  oneLine : ∀ k, o < k → k < c → ∀ ch, t[k]? = some ch → isLineTerminator ch = false

/-- The right-most closing brace before `limit` that any opening brace answers, and the nearest
opening brace that answers it. -/
structure IsLast (t : Text) (limit o c : Nat) : Prop where
  /-- The closing brace stands before the limit. -/
  before : c < limit
  /-- The braces match. -/
  encloses : Encloses t o c
  /-- No closing brace farther to the right is answered. -/
  rightmost : ∀ o' c', c' < limit → Encloses t o' c' → c' ≤ c
  /-- No opening brace nearer to the closing brace answers it. -/
  nearest : ∀ o', Encloses t o' c → o' ≤ o

/-- The matches before a limit, from left to right.  They are taken from the right, and the opening
brace of one is the limit for the next. -/
inductive Matches (t : Text) : (limit : Nat) → List (Nat × Nat) → Prop where
  /-- No closing brace before the limit is answered. -/
  | none {limit : Nat} (h : ∀ o c, c < limit → ¬ Encloses t o c) : Matches t limit []
  /-- The last match comes after those that end before its opening brace. -/
  | last {limit o c : Nat} {ms : List (Nat × Nat)} (h : IsLast t limit o c)
      (hms : Matches t o ms) : Matches t limit (ms ++ [(o, c)])

/-- There is no choice in the last match. -/
theorem IsLast.unique {t : Text} {limit o c o' c' : Nat} (h : IsLast t limit o c)
    (h' : IsLast t limit o' c') : o = o' ∧ c = c' := by
  have hc : c = c' :=
    Nat.le_antisymm (h'.rightmost o c h.before h.encloses) (h.rightmost o' c' h'.before h'.encloses)
  subst hc
  exact ⟨Nat.le_antisymm (h'.nearest o h.encloses) (h.nearest o' h'.encloses), rfl⟩

/-- **The rule determines the matches.** -/
theorem Matches.unique {t : Text} {limit : Nat} {ms ms' : List (Nat × Nat)}
    (h : Matches t limit ms) (h' : Matches t limit ms') : ms = ms' := by
  induction h generalizing ms' with
  | none hnone =>
    cases h' with
    | none => rfl
    | last hlast => exact absurd hlast.encloses (hnone _ _ hlast.before)
  | last hlast _ ih =>
    cases h' with
    | none hnone => exact absurd hlast.encloses (hnone _ _ hlast.before)
    | last hlast' hms' =>
      obtain ⟨rfl, rfl⟩ := hlast.unique hlast'
      rw [ih hms']

/-- Every match is one of braces that enclose something. -/
theorem Matches.encloses {t : Text} {limit : Nat} {ms : List (Nat × Nat)}
    (h : Matches t limit ms) : ∀ m ∈ ms, Encloses t m.1 m.2 := by
  induction h with
  | none => simp
  | last hlast _ ih =>
    intro m hm
    rcases List.mem_append.mp hm with hm | hm
    · exact ih m hm
    · rw [List.mem_singleton.mp hm]
      exact hlast.encloses

theorem Matches.before {t : Text} {limit : Nat} {ms : List (Nat × Nat)}
    (h : Matches t limit ms) : ∀ m ∈ ms, m.2 < limit := by
  induction h with
  | none => simp
  | @last limit o c ms hlast hms ih =>
    intro m hm
    rcases List.mem_append.mp hm with hm | hm
    · have hmo := ih m hm
      have hoc := hlast.encloses.content
      have := hlast.before
      omega
    · rw [List.mem_singleton.mp hm]
      exact hlast.before

/-- The matches come one after the other and do not overlap. -/
theorem Matches.pairwise {t : Text} {limit : Nat} {ms : List (Nat × Nat)}
    (h : Matches t limit ms) : ms.Pairwise fun m m' => m.2 < m'.1 := by
  induction h with
  | none => exact List.Pairwise.nil
  | last hlast hms ih =>
    refine List.pairwise_append.mpr ⟨ih, List.pairwise_singleton _ _, fun m hm m' hm' => ?_⟩
    rw [List.mem_singleton.mp hm']
    exact hms.before m hm

/-! ### What the reader knows -/

/-- A closing brace at `c` waits for its opening brace; the reader has come to position `i`. -/
structure Waiting (t : Text) (i limit c : Nat) : Prop where
  /-- The brace has been read. -/
  read : i ≤ c
  /-- The brace stands before the limit. -/
  before : c < limit
  /-- The brace is a closing brace. -/
  closing : IsUnescaped t '\x7d' c
  /-- No closing brace farther to the right is answered. -/
  rightmost : ∀ o' c', c' < limit → Encloses t o' c' → c' ≤ c
  /-- No line ends between the reader and the brace. -/
  oneLine : ∀ k, i ≤ k → k < c → ∀ ch, t[k]? = some ch → isLineTerminator ch = false
  /-- No opening brace that was read answers. -/
  unanswered : ∀ k, i ≤ k → k + 2 ≤ c → ¬ IsUnescaped t '\x7b' k

/-- What the reader knows at position `i`, where `candidate` is the text read since the closing
brace that waits, if one does. -/
def Known (t : Text) (i limit : Nat) : (candidate : Option Text) → Prop
  | none => ∀ o c, c < limit → Encloses t o c → c < i
  | some content => ∃ c, c + 1 = i + content.length ∧ Waiting t i limit c

variable {t : Text} {i limit c : Nat}

/-- A character that is no closing brace is passed. -/
theorem Known.pass (h : Known t (i + 1) limit none) (hc : ¬ IsUnescaped t '\x7d' i) :
    Known t i limit none := by
  intro o c hlimit henc
  have hlt := h o c hlimit henc
  have hne : c ≠ i := by
    rintro rfl
    exact hc henc.closing
  omega

/-- A closing brace starts to wait. -/
theorem Known.wait (h : Known t (i + 1) limit none) (hi : i < limit)
    (hc : IsUnescaped t '\x7d' i) : Waiting t i limit i where
  read := le_rfl
  before := hi
  closing := hc
  rightmost o' c' hlimit henc := by
    have := h o' c' hlimit henc
    omega
  oneLine k hik hki := by omega
  unanswered k hik hki := by omega

/-- Where a line ends, the waiting brace is given up, and no match is lost. -/
theorem Waiting.giveUp (h : Waiting t (i + 1) limit c) {ch : Char} (hch : t[i]? = some ch)
    (hline : isLineTerminator ch = true) : Known t i limit none := by
  intro o c' hlimit henc
  by_contra hge
  have hc' := h.rightmost o c' hlimit henc
  rcases Nat.lt_trichotomy o i with hlt | heq | hgt
  · -- The line ends between the braces, or the closing brace itself would end it.
    rcases Nat.lt_or_eq_of_le (Nat.le_of_not_lt hge) with hic | hic
    · have := henc.oneLine i hlt hic ch hch
      simp_all
    · have hbrace := henc.closing.1
      rw [← hic, hch] at hbrace
      obtain rfl := Option.some.inj hbrace
      exact absurd hline (by decide)
  · have hbrace := henc.opening.1
    rw [heq, hch] at hbrace
    obtain rfl := Option.some.inj hbrace
    exact absurd hline (by decide)
  · -- An opening brace that was read answers `c'`, hence it would have answered `c`.
    have := henc.content
    exact h.unanswered o hgt (by omega) henc.opening

/-- An opening brace that leaves something in between answers the waiting brace. -/
theorem Waiting.answer (h : Waiting t (i + 1) limit c) (ho : IsUnescaped t '\x7b' i)
    (hcontent : i + 2 ≤ c) : IsLast t limit i c where
  before := h.before
  encloses := ⟨ho, h.closing, hcontent, fun k hik hkc => h.oneLine k hik hkc⟩
  rightmost := h.rightmost
  nearest o' henc := by
    by_contra hlt
    exact h.unanswered o' (by omega) henc.content henc.opening

/-- Any other character is content. -/
theorem Waiting.keep (h : Waiting t (i + 1) limit c) {ch : Char} (hch : t[i]? = some ch)
    (hline : isLineTerminator ch = false) (ho : ¬ (IsUnescaped t '\x7b' i ∧ i + 2 ≤ c)) :
    Waiting t i limit c where
  read := Nat.le_of_succ_le h.read
  before := h.before
  closing := h.closing
  rightmost := h.rightmost
  oneLine k hik hkc ch' hch' := by
    rcases Nat.lt_or_eq_of_le hik with hlt | rfl
    · exact h.oneLine k hlt hkc ch' hch'
    · rw [hch] at hch'
      obtain rfl := Option.some.inj hch'
      exact hline
  unanswered k hik hkc hk := by
    rcases Nat.lt_or_eq_of_le hik with hlt | rfl
    · exact h.unanswered k hlt hkc hk
    · exact ho ⟨hk, hkc⟩

/-- At the front of the text a waiting brace stays without answer. -/
theorem Waiting.not_encloses (h : Waiting t 0 limit c) {o c' : Nat} (hc' : c' < limit) :
    ¬ Encloses t o c' := by
  intro henc
  have hle := h.rightmost o c' hc' henc
  have := henc.content
  exact h.unanswered o (Nat.zero_le o) (by omega) henc.opening

/-! ### The reader -/

theorem getElem?_reader {before rest : Text} {ch : Char} (ht : t = before.reverse ++ ch :: rest) :
    t[before.length]? = some ch := by
  rw [ht, ← List.length_reverse, List.getElem?_append_right le_rfl, Nat.sub_self,
    List.getElem?_cons_zero]

/-- The reader looks at a brace that is not escaped exactly if the brace is unescaped in the
text. -/
theorem isUnescaped_iff {before rest : Text} {ch brace : Char}
    (ht : t = before.reverse ++ ch :: rest) :
    IsUnescaped t brace before.length ↔ ch = brace ∧ ¬ isEscaped before := by
  unfold IsUnescaped
  rw [getElem?_reader ht, Option.some.injEq]
  refine and_congr_right fun _ => ?_
  cases before with
  | nil => simp [isEscaped]
  | cons b before =>
    have hb : t[before.length]? = some b :=
      getElem?_reader (show t = before.reverse ++ b :: ch :: rest by simpa using ht)
    constructor
    · intro h hesc
      exact h before.length rfl (hb.trans (by simpa [isEscaped] using hesc))
    · intro h j hj hbackslash
      obtain rfl : j = before.length := Nat.succ.inj hj
      rw [hb] at hbackslash
      exact h (by simpa [isEscaped] using hbackslash)

/-- The positions of the braces of the directives among pieces that stand at position `i`. -/
def spans (i : Nat) : List Piece → List (Nat × Nat)
  | [] => []
  | .plain s :: pieces => spans (i + s.length) pieces
  | .directive raw :: pieces => (i, i + raw.length - 1) :: spans (i + raw.length) pieces

theorem spans_consPlain (i : Nat) (s : Text) (pieces : List Piece) :
    spans i (Piece.consPlain s pieces) = spans (i + s.length) pieces := by
  unfold Piece.consPlain
  cases s with
  | nil => rfl
  | cons ch s => rfl

/-- The reader, started with what it knows at the front of `rev`, finds the matches before the
limit and keeps what it has found behind it. -/
theorem spans_cut (pieces : List Piece) (plain : Text) (candidate : Option Text) (rev : Text) :
    ∀ limit, t = rev.reverse ++ (candidate.getD [] ++ (plain ++ Piece.flatten pieces)) →
      limit = rev.length + (candidate.getD []).length + plain.length →
      Known t rev.length limit candidate →
      ∃ ms, Matches t limit ms ∧
        spans 0 (Piece.cut pieces plain candidate rev) = ms ++ spans limit pieces := by
  fun_induction Piece.cut pieces plain candidate rev with
  | case1 pieces plain candidate =>
    intro limit _ hlimit hknown
    refine ⟨[], Matches.none fun o c hc henc => ?_, ?_⟩
    · cases candidate with
      | none => exact absurd (hknown o c hc henc) (Nat.not_lt_zero c)
      | some content =>
        obtain ⟨_, _, hwait⟩ := hknown
        exact hwait.not_encloses hc henc
    · rw [spans_consPlain, hlimit]
      simp
  | case2 pieces plain ch before hch ih =>
    intro limit ht hlimit hknown
    have hbrace : IsUnescaped t '\x7d' before.length :=
      (isUnescaped_iff (by simpa using ht)).mpr hch
    simp only [Option.getD_none, Option.getD_some, List.length_cons, List.length_nil] at hlimit ih
    exact ih limit (by simpa using ht) (by omega)
      ⟨before.length, rfl, hknown.wait (by omega) hbrace⟩
  | case3 pieces plain ch before hch ih =>
    intro limit ht hlimit hknown
    have hbrace : ¬ IsUnescaped t '\x7d' before.length := fun h =>
      hch ((isUnescaped_iff (by simpa using ht)).mp h)
    simp only [Option.getD_none, List.length_cons, List.length_nil] at hlimit ih
    exact ih limit (by simpa using ht) (by omega) (hknown.pass hbrace)
  | case4 pieces plain ch before content hline ih =>
    intro limit ht hlimit hknown
    obtain ⟨c, hc, hwait⟩ := hknown
    have hch : t[before.length]? = some ch := getElem?_reader (by simpa using ht)
    simp only [Option.getD_none, Option.getD_some, List.length_cons, List.length_nil,
      List.length_append] at hlimit ih
    exact ih limit (by simpa using ht) (by omega) (hwait.giveUp hch hline)
  | case5 pieces plain ch before content hline hopen ih =>
    intro limit ht hlimit hknown
    obtain ⟨c, hc, hwait⟩ := hknown
    obtain ⟨hch, hesc, hlen⟩ := hopen
    have hbrace : IsUnescaped t '\x7b' before.length :=
      (isUnescaped_iff (by simpa using ht)).mpr ⟨hch, hesc⟩
    simp only [List.length_cons] at hc
    have hlast := hwait.answer hbrace (by omega)
    simp only [Option.getD_none, Option.getD_some, List.length_cons, List.length_nil] at hlimit ih
    obtain ⟨ms, hms, hspans⟩ := ih before.length
      (by simpa [Piece.flatten_cons, Piece.flatten_consPlain, Piece.chars] using ht) rfl
      fun o c' hc' _ => hc'
    refine ⟨ms ++ [(before.length, c)], Matches.last hlast hms, ?_⟩
    rw [hspans, spans, spans_consPlain, List.append_assoc, List.length_cons,
      show before.length + (content.length + 1) - 1 = c by omega,
      show before.length + (content.length + 1) + plain.length = limit by omega]
    rfl
  | case6 pieces plain ch before content hline hopen ih =>
    intro limit ht hlimit hknown
    obtain ⟨c, hc, hwait⟩ := hknown
    have hch : t[before.length]? = some ch := getElem?_reader (by simpa using ht)
    simp only [List.length_cons] at hc
    have hnot : ¬ (IsUnescaped t '\x7b' before.length ∧ before.length + 2 ≤ c) := by
      rintro ⟨hbrace, hlen⟩
      obtain ⟨hbrace, hesc⟩ := (isUnescaped_iff (by simpa using ht)).mp hbrace
      exact hopen ⟨hbrace, hesc, by omega⟩
    simp only [Option.getD_some, List.length_cons] at hlimit ih
    exact ih limit (by simpa using ht) (by omega)
      ⟨c, by simp only [List.length_cons]; omega, hwait.keep hch (by simpa using hline) hnot⟩

/-- The directives of a text stand at the matches of its braces. -/
theorem matches_spans (t : Text) : Matches t t.length (spans 0 (Piece.ofText t)) := by
  obtain ⟨ms, hms, hspans⟩ := spans_cut (t := t) [] [] none t.reverse t.length
    (by simp [Piece.flatten]) (by simp) fun o c hc _ => by simpa using hc
  rw [Piece.ofText, hspans]
  simpa [spans] using hms

/-! ### Positions in octets -/

/-- The octets of a text from one position up to another, read as a text of their own. -/
def octets (t : Text) (start stop : Nat) : String := String.Pos.Raw.extract t.str ⟨start⟩ ⟨stop⟩

/-- No character of the text has octets on both sides of the position. -/
def IsBoundary (t : Text) (n : Nat) : Prop := String.Pos.Raw.IsValid t.str ⟨n⟩

/-- The directive that two matching braces enclose. -/
def directiveAt (t : Text) (m : Nat × Nat) : Directive where
  raw := (t.drop m.1).take (m.2 + 1 - m.1)
  start := Text.utf8Size (t.take m.1)
  stop := Text.utf8Size (t.take (m.2 + 1))

/-- The octets between directives as they are, from `cursor` on, and the directives rewritten. -/
def weave (t : Text) (rewrite : Text → Text) : (cursor : Nat) → List Directive → String
  | cursor, [] => octets t cursor (Text.utf8Size t)
  | cursor, d :: ds => octets t cursor d.start ++ (rewrite d.raw).str ++ weave t rewrite d.stop ds

theorem utf8Size_eq_utf8Len (t : Text) : Text.utf8Size t = String.utf8Len t := by
  induction t with
  | nil => rfl
  | cons ch t ih => rw [Text.utf8Size, ih, String.utf8Len_cons, Nat.add_comm]

theorem octets_append (before s after : Text) :
    octets (before ++ s ++ after) (Text.utf8Size before) (Text.utf8Size (before ++ s)) = s.str := by
  rw [Text.utf8Size_append]
  simp only [octets, utf8Size_eq_utf8Len, Text.str]
  exact String.extract_of_valid before s after

theorem isBoundary_take (t : Text) (n : Nat) : IsBoundary t (Text.utf8Size (t.take n)) := by
  refine String.Pos.Raw.isValid_ofList.mpr ⟨n, ?_⟩
  rw [String.utf8ByteSize_ofList, utf8Size_eq_utf8Len]

/-- A longer beginning has no fewer octets. -/
theorem utf8Size_take_le (t : Text) {m n : Nat} (h : m ≤ n) :
    Text.utf8Size (t.take m) ≤ Text.utf8Size (t.take n) := by
  have hsplit : t.take n = t.take m ++ (t.drop m).take (n - m) := by
    rw [← List.take_add, Nat.add_sub_cancel' h]
  rw [hsplit, Text.utf8Size_append]
  exact Nat.le_add_right _ _

theorem Encloses.lt_length {o c : Nat} (h : Encloses t o c) : c < t.length :=
  (List.getElem?_eq_some_iff.mp h.closing.1).1

/-- Before, directive and after make up the text. -/
theorem Encloses.append {o c : Nat} (h : Encloses t o c) :
    t.take o ++ (directiveAt t (o, c)).raw = t.take (c + 1) := by
  have := h.content
  rw [directiveAt, ← List.take_add, Nat.add_sub_cancel' (by omega)]

theorem Encloses.raw_ne_nil {o c : Nat} (h : Encloses t o c) :
    (directiveAt t (o, c)).raw ≠ [] := by
  have := h.content
  have := h.lt_length
  rw [← List.length_pos_iff, directiveAt, List.length_take, List.length_drop]
  omega

/-- The octets of a directive are those of the text in its place. -/
theorem Encloses.octets_eq {o c : Nat} (h : Encloses t o c) :
    (directiveAt t (o, c)).raw.str
      = octets t (directiveAt t (o, c)).start (directiveAt t (o, c)).stop := by
  have := octets_append (t.take o) (directiveAt t (o, c)).raw (t.drop (c + 1))
  rw [h.append, List.take_append_drop] at this
  exact this.symm

theorem Encloses.start_lt_stop {o c : Nat} (h : Encloses t o c) :
    (directiveAt t (o, c)).start < (directiveAt t (o, c)).stop := by
  have hstop : (directiveAt t (o, c)).stop
      = (directiveAt t (o, c)).start + Text.utf8Size (directiveAt t (o, c)).raw := by
    simp only [directiveAt] at *
    rw [← h.append, Text.utf8Size_append, directiveAt]
  have hpos : 0 < Text.utf8Size (directiveAt t (o, c)).raw := by
    rw [utf8Size_eq_utf8Len, Nat.pos_iff_ne_zero, Ne, String.utf8Len_eq_zero]
    exact h.raw_ne_nil
  omega

/-- Positions in octets follow positions in characters. -/
theorem ofPieces_eq_map_spans (pieces : List Piece) (before : Text)
    (ht : t = before ++ Piece.flatten pieces)
    (hcontent : ∀ m ∈ spans before.length pieces, m.1 + 2 ≤ m.2) :
    Directive.ofPieces (Text.utf8Size before) pieces
      = (spans before.length pieces).map (directiveAt t) := by
  induction pieces generalizing before with
  | nil => rfl
  | cons p pieces ih =>
    have hrest := ih (before ++ p.chars) (by rw [ht, Piece.flatten_cons, List.append_assoc])
    rw [Text.utf8Size_append, List.length_append] at hrest
    cases p with
    | plain s => exact hrest hcontent
    | directive raw =>
      simp only [spans, List.mem_cons, forall_eq_or_imp] at hcontent
      rw [Directive.ofPieces, spans, List.map_cons]
      refine List.cons_eq_cons.mpr ⟨?_, hrest hcontent.2⟩
      have hlen : before.length + raw.length - 1 + 1 = before.length + raw.length := by omega
      rw [directiveAt, hlen, Nat.add_sub_cancel_left, ht, Piece.flatten_cons, Piece.chars,
        List.take_length_add_append, List.take_left, List.drop_left, List.take_left,
        Text.utf8Size_append]

theorem scan_eq_map_spans (t : Text) :
    Directive.scan t = (spans 0 (Piece.ofText t)).map (directiveAt t) :=
  ofPieces_eq_map_spans (Piece.ofText t) [] (Piece.flatten_ofText t).symm
    fun m hm => ((matches_spans t).encloses m hm).content

/-- Each directive of a text stands between two braces that enclose something. -/
theorem exists_encloses_of_mem_scan {d : Directive} (hd : d ∈ Directive.scan t) :
    ∃ o c, Encloses t o c ∧ d = directiveAt t (o, c) := by
  rw [scan_eq_map_spans] at hd
  obtain ⟨⟨o, c⟩, hm, rfl⟩ := List.mem_map.mp hd
  exact ⟨o, c, (matches_spans t).encloses _ hm, rfl⟩

/-- What a piece shows when directives are rewritten. -/
def shown (rewrite : Text → Text) : Piece → Text
  | .plain s => s
  | .directive raw => rewrite raw

theorem flatMap_shown_id (pieces : List Piece) :
    pieces.flatMap (shown fun raw => raw) = Piece.flatten pieces := by
  refine congrArg (pieces.flatMap ·) (funext fun p => ?_)
  cases p <;> rfl

theorem flatMap_shown_nil (pieces : List Piece) :
    pieces.flatMap (shown fun _ => []) = Piece.plainText pieces := by
  induction pieces with
  | nil => rfl
  | cons p pieces ih =>
    rw [List.flatMap_cons, ih]
    cases p <;> rfl

/-- Weaving by octets gives what the pieces show.  `gap` is the plain text between the last
directive and the pieces. -/
theorem weave_ofPieces (rewrite : Text → Text) (pieces : List Piece) (before gap : Text)
    (ht : t = before ++ (gap ++ Piece.flatten pieces)) :
    weave t rewrite (Text.utf8Size before)
        (Directive.ofPieces (Text.utf8Size (before ++ gap)) pieces)
      = Text.str (gap ++ pieces.flatMap (shown rewrite)) := by
  induction pieces generalizing before gap with
  | nil =>
    obtain rfl : t = before ++ gap := by simpa [Piece.flatten] using ht
    have hoctets := octets_append before gap []
    rw [List.append_nil] at hoctets
    rw [Directive.ofPieces, weave, hoctets, List.flatMap_nil, List.append_nil]
  | cons p pieces ih =>
    cases p with
    | plain s =>
      have hrest := ih before (gap ++ s) (by
        simpa [Piece.flatten_cons, Piece.chars, List.append_assoc] using ht)
      rw [← List.append_assoc, Text.utf8Size_append (before ++ gap)] at hrest
      rw [Directive.ofPieces, hrest, List.flatMap_cons, shown, List.append_assoc]
    | directive raw =>
      have hrest := ih (before ++ gap ++ raw) [] (by
        simpa [Piece.flatten_cons, Piece.chars, List.append_assoc] using ht)
      rw [List.append_nil, Text.utf8Size_append (before ++ gap)] at hrest
      have hoctets := octets_append before gap (raw ++ Piece.flatten pieces)
      have ht' : t = before ++ gap ++ (raw ++ Piece.flatten pieces) := by
        simpa [Piece.flatten_cons, Piece.chars, List.append_assoc] using ht
      rw [← ht'] at hoctets
      rw [Directive.ofPieces, weave, hoctets, hrest, List.flatMap_cons, shown]
      simp [Text.str, String.ofList_append, String.append_assoc]

/-! ### The directives of a text -/

/-- **The directives of a text are the matches of its braces.**  Their positions in octets are
boundaries of characters, none is empty, and each ends before the next begins.  Each is the text in
its place, and the text between them with them gives back the text, and without them the text
without directives. -/
theorem scan_eq_matches (t : Text) :
    (∃ ms, (∀ ms', Matches t t.length ms' ↔ ms' = ms) ∧
      Directive.scan t = ms.map (directiveAt t)) ∧
    (∀ d ∈ Directive.scan t, IsBoundary t d.start ∧ IsBoundary t d.stop ∧ d.start < d.stop ∧
      d.raw.str = octets t d.start d.stop) ∧
    (Directive.scan t).Pairwise (fun d d' => d.stop ≤ d'.start) ∧
    weave t (fun raw => raw) 0 (Directive.scan t) = t.str ∧
    weave t (fun _ => []) 0 (Directive.scan t) = (Directive.strip t).str := by
  have hms := matches_spans t
  have hweave (rewrite : Text → Text) : weave t rewrite 0 (Directive.scan t)
      = Text.str ((Piece.ofText t).flatMap (shown rewrite)) :=
    weave_ofPieces rewrite (Piece.ofText t) [] [] (Piece.flatten_ofText t).symm
  refine ⟨⟨_, fun ms' => ⟨fun h => h.unique hms, fun h => h ▸ hms⟩, scan_eq_map_spans t⟩,
    ?_, ?_, ?_, ?_⟩
  · intro d hd
    obtain ⟨o, c, henc, rfl⟩ := exists_encloses_of_mem_scan hd
    exact ⟨isBoundary_take t o, isBoundary_take t (c + 1), henc.start_lt_stop, henc.octets_eq⟩
  · rw [scan_eq_map_spans]
    refine List.Pairwise.map (directiveAt t) (fun m m' h => ?_) hms.pairwise
    exact utf8Size_take_le t h
  · rw [hweave, flatMap_shown_id, Piece.flatten_ofText]
  · rw [hweave, flatMap_shown_nil, Directive.strip]

end Pairing

end GrammarBots

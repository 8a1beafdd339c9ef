import GrammarBots.Media.Resource
import GrammarBots.Proofs.Grammar.Literal
import GrammarBots.Proofs.Media.PostedText

/-!
# Writing texts with directives

An author who wants a post to read `t₀ t₁ … tₙ`, with a picture or film between any two of these
texts, writes the texts and the addresses with a backslash before every brace, the directives
between the texts, and the whole with the special characters of rules escaped.  `draft_written` says
that this works for all texts and addresses that can be written at all: the draft has the directives
in their places, each names what it was written for, and the text is what was meant.

The proof follows the reader from the right end of the written text to the left: escaped text is
passed as it is (`cut_escapeBraces`), and so is the content of a directive
(`cut_escapeBraces_content`), so that each directive is cut off where it was written (`cut_raw`).
-/

namespace GrammarBots

/-! ### Escaped braces -/

/-- Whether a character is a brace. -/
def isBrace (c : Char) : Bool := c == '\x7b' || c == '\x7d'

/-- The text with a backslash before every brace. -/
def escapeBraces (t : Text) : Text := t.flatMap fun c => if isBrace c then ['\\', c] else [c]

theorem escapeBraces_cons (c : Char) (t : Text) :
    escapeBraces (c :: t) = (if isBrace c then ['\\', c] else [c]) ++ escapeBraces t :=
  List.flatMap_cons

theorem escapeBraces_append (s t : Text) :
    escapeBraces (s ++ t) = escapeBraces s ++ escapeBraces t := List.flatMap_append

/-- Escaping leaves the last character where it is. -/
theorem getLast?_escapeBraces (t : Text) : (escapeBraces t).getLast? = t.getLast? := by
  cases t using List.reverseRecOn with
  | nil => rfl
  | append_singleton t c =>
    rw [escapeBraces_append, escapeBraces_cons]
    by_cases hc : isBrace c <;> simp [hc, escapeBraces]

/-- Restoring braces drops a backslash if a brace comes next, and goes on. -/
theorem unescapeBraces_cons (c : Char) (t : Text) :
    unescapeBraces (c :: t)
      = if c = '\\' ∧ t.head?.any isBrace then unescapeBraces t else c :: unescapeBraces t := by
  have hkeep : (¬ Text.IsEscape (c :: t) '\x7b' 0 ∧ ¬ Text.IsEscape (c :: t) '\x7d' 0) ↔
      ¬ (c = '\\' ∧ t.head?.any isBrace) := by
    rw [← not_or, Text.IsEscape, Text.IsEscape, ← and_or_left]
    cases t <;> simp [isBrace]
  rw [unescapeBraces_eq_keepWhere, unescapeBraces_eq_keepWhere, Text.keepWhere_cons,
    if_congr hkeep rfl rfl, ite_not]
  simp only [Text.isEscape_cons_succ]

/-- Restoring braces undoes escaping, unless the text ends in a backslash and a brace follows. -/
theorem unescapeBraces_escapeBraces_append {t rest : Text}
    (h : t.getLast? ≠ some '\\' ∨ rest.head?.any isBrace = false) :
    unescapeBraces (escapeBraces t ++ rest) = t ++ unescapeBraces rest := by
  induction t with
  | nil => rfl
  | cons c t ih =>
    have ih := ih (by
      cases t with
      | nil => simp
      | cons b t => simpa using h)
    rw [escapeBraces_cons]
    by_cases hc : isBrace c
    · have hne : c ≠ '\\' := by rintro rfl; exact absurd hc (by decide)
      rw [if_pos hc, List.append_assoc, List.cons_append, unescapeBraces_cons, if_pos ⟨rfl, hc⟩,
        List.singleton_append, unescapeBraces_cons, if_neg fun h => hne h.1, ih, List.cons_append]
    · rw [if_neg hc, List.append_assoc, List.singleton_append, unescapeBraces_cons, if_neg, ih,
        List.cons_append]
      rintro ⟨rfl, hnext⟩
      cases t with
      | nil =>
        rw [escapeBraces, List.flatMap_nil, List.nil_append] at hnext
        rcases h with h | h
        · exact h rfl
        · rw [h] at hnext
          cases hnext
      | cons b t =>
        -- A brace that comes next stands behind a backslash of its own.
        rw [escapeBraces_cons] at hnext
        by_cases hb : isBrace b
        · rw [if_pos hb] at hnext
          exact absurd (show isBrace '\\' = true from hnext) (by decide)
        · rw [if_neg hb] at hnext
          exact hb hnext

/-- **Escaping is undone exactly.** -/
theorem unescapeBraces_escapeBraces (t : Text) : unescapeBraces (escapeBraces t) = t := by
  have h : unescapeBraces (escapeBraces t ++ []) = t ++ unescapeBraces [] :=
    unescapeBraces_escapeBraces_append (Or.inr rfl)
  rwa [List.append_nil, show unescapeBraces [] = [] from rfl, List.append_nil] at h

/-! ### Written texts -/

/-- A directive and the text behind it. -/
structure Passage where
  /-- What the directive asks for. -/
  kind : MediaKind
  /-- Where it is. -/
  url : Text
  /-- The text up to the next directive, or to the end. -/
  after : Text

namespace Passage

/-- The directive as it is written. -/
def raw (p : Passage) : Text :=
  '\x7b' :: (p.kind.letters ++ [' '] ++ (escapeBraces p.url ++ ['\x7d']))

/-- The address can be written: it has no blanks at its ends, stays on one line and leaves the
closing brace unescaped. -/
structure IsWritable (p : Passage) : Prop where
  /-- The address begins with no blank. -/
  head : ∀ c, p.url.head? = some c → Text.isBlank c = false
  /-- The address ends with no blank. -/
  last : ∀ c, p.url.getLast? = some c → Text.isBlank c = false
  /-- No line ends in the address. -/
  oneLine : ∀ c ∈ p.url, isLineTerminator c = false
  /-- The address does not end in a backslash. -/
  unescaped : p.url.getLast? ≠ some '\\'

end Passage

/-- The written form of a text and the passages behind it. -/
def written (before : Text) (passages : List Passage) : Text :=
  escapeBraces before ++ passages.flatMap fun p => p.raw ++ escapeBraces p.after

theorem written_cons (before : Text) (p : Passage) (passages : List Passage) :
    written before (p :: passages) = escapeBraces before ++ p.raw ++ written p.after passages := by
  simp [written, List.append_assoc]

/-! ### The reader of directives -/

/-- Escaped text is passed as it is. -/
theorem cut_escapeBraces (t : Text) (pieces : List Piece) (plain before : Text) :
    Piece.cut pieces plain none ((escapeBraces t).reverse ++ before)
      = Piece.cut pieces (escapeBraces t ++ plain) none before := by
  induction t using List.reverseRecOn generalizing plain with
  | nil => rfl
  | append_singleton t c ih =>
    rw [escapeBraces_append, List.reverse_append, List.append_assoc, escapeBraces_cons,
      escapeBraces, List.flatMap_nil, List.append_nil]
    by_cases hc : isBrace c
    · rw [if_pos hc]
      have hescaped : isEscaped ('\\' :: ((escapeBraces t).reverse ++ before)) = true := rfl
      simp [Piece.cut, hescaped, ih]
    · rw [if_neg hc]
      have hne : c ≠ '\x7d' := by rintro rfl; exact hc rfl
      simp [Piece.cut, hne, ih]

/-- Characters that neither open a directive nor end a line are content. -/
theorem cut_content {s : Text} (hs : ∀ c ∈ s, c ≠ '\x7b' ∧ isLineTerminator c = false)
    (pieces : List Piece) (plain content before : Text) :
    Piece.cut pieces plain (some content) (s.reverse ++ before)
      = Piece.cut pieces plain (some (s ++ content)) before := by
  induction s using List.reverseRecOn generalizing content with
  | nil => rfl
  | append_singleton s c ih =>
    obtain ⟨hne, hline⟩ := hs c (by simp)
    have hs' : ∀ c ∈ s, c ≠ '\x7b' ∧ isLineTerminator c = false := fun c hc => hs c (by simp [hc])
    rw [List.reverse_append, List.reverse_singleton, List.singleton_append, List.cons_append]
    simp [Piece.cut, hne, hline, ih hs']

/-- Escaped text that stays on one line is content. -/
theorem cut_escapeBraces_content {t : Text} (ht : ∀ c ∈ t, isLineTerminator c = false)
    (pieces : List Piece) (plain content before : Text) :
    Piece.cut pieces plain (some content) ((escapeBraces t).reverse ++ before)
      = Piece.cut pieces plain (some (escapeBraces t ++ content)) before := by
  induction t using List.reverseRecOn generalizing content with
  | nil => rfl
  | append_singleton t c ih =>
    have hline := ht c (by simp)
    have ih := ih fun c hc => ht c (by simp [hc])
    rw [escapeBraces_append, List.reverse_append, List.append_assoc, escapeBraces_cons,
      escapeBraces, List.flatMap_nil, List.append_nil]
    by_cases hc : isBrace c
    · rw [if_pos hc]
      have hescaped : isEscaped ('\\' :: ((escapeBraces t).reverse ++ before)) = true := rfl
      have hbackslash : isLineTerminator '\\' = false := by decide
      simp [Piece.cut, hescaped, hline, hbackslash, ih]
    · rw [if_neg hc]
      have hne : c ≠ '\x7b' := by rintro rfl; exact hc rfl
      simp [Piece.cut, hne, hline, ih]

theorem Passage.raw_reverse (p : Passage) : p.raw.reverse = '\x7d' ::
    ((escapeBraces p.url).reverse ++ ((p.kind.letters ++ [' ']).reverse ++ ['\x7b'])) := by
  simp [Passage.raw]

/-- A directive is cut off where it was written, if no backslash stands before it. -/
theorem cut_raw {p : Passage} (hp : p.IsWritable) (pieces : List Piece) (plain : Text)
    {before : Text} (hbefore : isEscaped before = false) :
    Piece.cut pieces plain none (p.raw.reverse ++ before)
      = Piece.cut (.directive p.raw :: Piece.consPlain plain pieces) [] none before := by
  have hletters : ∀ c ∈ p.kind.letters ++ [' '], c ≠ '\x7b' ∧ isLineTerminator c = false := by
    cases p.kind <;> simp [MediaKind.letters, isLineTerminator]
  have hclose : isEscaped ((escapeBraces p.url).reverse ++
      ((p.kind.letters ++ [' ']).reverse ++ ('\x7b' :: before))) = false := by
    rw [isEscaped, List.head?_append, List.head?_reverse, getLast?_escapeBraces]
    cases hlast : p.url.getLast? with
    | none => simp
    | some c =>
      have := hp.unescaped
      rw [hlast] at this
      simpa using this
  rw [p.raw_reverse, List.cons_append, List.append_assoc, List.append_assoc, List.singleton_append,
    Piece.cut, if_pos ⟨rfl, Bool.eq_false_iff.mp hclose⟩, cut_escapeBraces_content hp.oneLine,
    cut_content hletters, Piece.cut, if_neg (by decide), if_pos]
  · rfl
  · refine ⟨rfl, Bool.eq_false_iff.mp hbefore, ?_⟩
    cases p.kind <;> simp [MediaKind.letters]

/-- The pieces behind the first text. -/
def piecesAfter : List Passage → List Piece
  | [] => []
  | p :: passages =>
    .directive p.raw :: Piece.consPlain (escapeBraces p.after) (piecesAfter passages)

/-- No text before a directive ends in a backslash. -/
def NoneGuards (before : Text) (passages : List Passage) : Prop :=
  ∀ t ∈ (before :: passages.map Passage.after).dropLast, t.getLast? ≠ some '\\'

/-- The reader comes to the first text with the directives behind it cut off. -/
theorem cut_written {passages : List Passage} (hwritable : ∀ p ∈ passages, p.IsWritable)
    {before rest : Text} (hguards : NoneGuards before passages) (hrest : isEscaped rest = false) :
    Piece.cut [] [] none ((written before passages).reverse ++ rest)
      = Piece.cut (piecesAfter passages) (escapeBraces before) none rest := by
  induction passages generalizing before rest with
  | nil =>
    rw [written, List.flatMap_nil, List.append_nil, cut_escapeBraces, List.append_nil, piecesAfter]
  | cons p passages ih =>
    rw [NoneGuards, List.map_cons, List.dropLast_cons_cons, List.forall_mem_cons] at hguards
    rw [List.forall_mem_cons] at hwritable
    have hraw (s : Text) : isEscaped (p.raw.reverse ++ s) = false := by
      rw [p.raw_reverse]
      rfl
    have hbefore : isEscaped ((escapeBraces before).reverse ++ rest) = false := by
      rw [isEscaped, List.head?_append, List.head?_reverse, getLast?_escapeBraces]
      cases hlast : before.getLast? with
      | none => simpa [isEscaped] using hrest
      | some c => simpa [hlast] using hguards.1
    rw [written_cons, List.reverse_append, List.reverse_append, List.append_assoc,
      List.append_assoc, ih hwritable.2 hguards.2 (hraw _), cut_raw hwritable.1 _ _ hbefore,
      cut_escapeBraces, List.append_nil, piecesAfter]

theorem ofText_written {passages : List Passage} (hwritable : ∀ p ∈ passages, p.IsWritable)
    {before : Text} (hguards : NoneGuards before passages) :
    Piece.ofText (written before passages)
      = Piece.consPlain (escapeBraces before) (piecesAfter passages) := by
  have h := cut_written hwritable hguards (show isEscaped [] = false from rfl)
  rw [List.append_nil] at h
  rw [Piece.ofText, h, Piece.cut]
  rfl

/-! ### What is read back -/

/-- The directives of the passages, in their places in the written text. -/
def writtenDirectives (before : Text) (passages : List Passage) : List Directive :=
  passages.mapIdx fun i p =>
    ⟨p.raw, Text.utf8Size (written before (passages.take i)),
      Text.utf8Size (written before (passages.take i) ++ p.raw)⟩

theorem ofPieces_consPlain (offset : Nat) (s : Text) (pieces : List Piece) :
    Directive.ofPieces offset (Piece.consPlain s pieces)
      = Directive.ofPieces (offset + Text.utf8Size s) pieces := by
  unfold Piece.consPlain
  cases s with
  | nil => rfl
  | cons c s => rfl

theorem ofPieces_piecesAfter (passages : List Passage) (front before : Text) :
    Directive.ofPieces (Text.utf8Size (front ++ escapeBraces before)) (piecesAfter passages)
      = passages.mapIdx fun i p =>
          ⟨p.raw, Text.utf8Size (front ++ written before (passages.take i)),
            Text.utf8Size (front ++ written before (passages.take i) ++ p.raw)⟩ := by
  induction passages generalizing front before with
  | nil => rfl
  | cons p passages ih =>
    rw [piecesAfter, Directive.ofPieces, ← Text.utf8Size_append, ofPieces_consPlain,
      ← Text.utf8Size_append, ih, List.mapIdx_cons]
    refine List.cons_eq_cons.mpr ⟨?_, ?_⟩
    · rw [List.take_zero, written, List.flatMap_nil, List.append_nil]
    · simp only [List.take_succ_cons, written_cons, List.append_assoc]

theorem plainText_consPlain (s : Text) (pieces : List Piece) :
    Piece.plainText (Piece.consPlain s pieces) = s ++ Piece.plainText pieces := by
  unfold Piece.consPlain
  cases s with
  | nil => rfl
  | cons c s => rfl

theorem plainText_piecesAfter (passages : List Passage) :
    Piece.plainText (piecesAfter passages) = escapeBraces (passages.flatMap Passage.after) := by
  induction passages with
  | nil => rfl
  | cons p passages ih =>
    rw [piecesAfter, Piece.plainText, plainText_consPlain, ih, List.flatMap_cons,
      escapeBraces_append]

/-- Text without backslashes is restored as it is. -/
theorem unescapeBraces_append {s : Text} (hs : '\\' ∉ s) (rest : Text) :
    unescapeBraces (s ++ rest) = s ++ unescapeBraces rest := by
  induction s with
  | nil => rfl
  | cons c s ih =>
    rw [List.mem_cons, not_or] at hs
    rw [List.cons_append, unescapeBraces_cons, if_neg fun h => hs.1 h.1.symm, ih hs.2,
      List.cons_append]

theorem trim_eq_self {t : Text} (hhead : ∀ c, t.head? = some c → Text.isBlank c = false)
    (hlast : ∀ c, t.getLast? = some c → Text.isBlank c = false) : Text.trim t = t := by
  have hdrop {s : Text} (hs : ∀ c, s.head? = some c → Text.isBlank c = false) :
      s.dropWhile Text.isBlank = s := by
    cases s with
    | nil => rfl
    | cons c s => exact List.dropWhile_cons_of_neg (by simp [hs c rfl])
  rw [Text.trim, Text.trimBoth, Text.dropTrailing, hdrop hhead, hdrop, List.reverse_reverse]
  rwa [List.head?_reverse]

/-- Trimming what a directive encloses removes at most the blank before a missing address. -/
theorem trim_letters_append {p : Passage} (hp : p.IsWritable) :
    Text.trim (p.kind.letters ++ ' ' :: p.url)
      = p.kind.letters ++ if p.url = [] then [] else ' ' :: p.url := by
  by_cases hurl : p.url = []
  · rw [hurl, if_pos rfl]
    cases p.kind <;> decide
  · rw [if_neg hurl, trim_eq_self]
    · cases p.kind <;> simp [MediaKind.letters] <;> decide
    · intro c hc
      refine hp.last c ?_
      rwa [List.getLast?_append_of_ne_nil _ (List.cons_ne_nil _ _), List.getLast?_cons,
        List.getLast?_eq_some_getLast hurl, Option.getD_some,
        ← List.getLast?_eq_some_getLast hurl] at hc

/-- **A written directive names what it was written for.** -/
theorem ofDirective?_raw {p : Passage} (hp : p.IsWritable) :
    Resource.ofDirective? p.raw = some ⟨p.kind, p.url⟩ := by
  have hunescaped : unescapeBraces p.raw
      = '\x7b' :: (p.kind.letters ++ ' ' :: p.url ++ ['\x7d']) := by
    have hfront : '\\' ∉ '\x7b' :: (p.kind.letters ++ [' ']) := by cases p.kind <;> decide
    have hurl : unescapeBraces (escapeBraces p.url ++ ['\x7d'])
        = p.url ++ unescapeBraces ['\x7d'] :=
      unescapeBraces_escapeBraces_append (Or.inl hp.unescaped)
    rw [Passage.raw, ← List.cons_append, unescapeBraces_append hfront, hurl]
    simp [unescapeBraces, unescapeBrace]
  have hcontent : Resource.content p.raw
      = p.kind.letters ++ if p.url = [] then [] else ' ' :: p.url := by
    rw [Resource.content, hunescaped, List.drop_one, List.tail_cons, List.dropLast_concat,
      trim_letters_append hp]
  have hkind : MediaKind.ofLetters? ((Resource.content p.raw).take 3) = some p.kind := by
    rw [hcontent]
    cases p.kind <;> rfl
  have hurl : (Resource.content p.raw).drop 4 = p.url := by
    rw [hcontent]
    by_cases h : p.url = []
    · rw [if_pos h, List.append_nil, h]
      cases p.kind <;> rfl
    · rw [if_neg h]
      cases p.kind <;> rfl
  rw [Resource.ofDirective?, hkind, hurl, Option.map_some, trim_eq_self hp.head hp.last]

/-- **What was written is read back.**  If the start symbol has one rule, the written text with the
special characters of rules escaped, then the draft has the directives in their places, each names
what it was written for, and its text is that of the author. -/
theorem draft_written {γ : Type} [Chooser γ] {g : Grammar} {before : Text}
    {passages : List Passage}
    (hrules : g.rules? startSymbol = some [Section.escape (written before passages)])
    (hwritable : ∀ p ∈ passages, p.IsWritable) (hguards : NoneGuards before passages)
    (chance : γ) :
    ∃ d, (g.draft chance).1 = .ok d ∧
      d.directives = writtenDirectives before passages ∧
      d.directives.map (fun d => Resource.ofDirective? d.raw)
        = passages.map (fun p => some ⟨p.kind, p.url⟩) ∧
      d.text = before ++ passages.flatMap Passage.after := by
  have hpieces := ofText_written hwritable hguards
  have hscan : Directive.scan (written before passages) = writtenDirectives before passages := by
    have h := ofPieces_piecesAfter passages [] before
    rw [Directive.scan, hpieces, ofPieces_consPlain, Nat.zero_add, writtenDirectives]
    simpa only [List.nil_append] using h
  have hstrip : Directive.strip (written before passages)
      = escapeBraces (before ++ passages.flatMap Passage.after) := by
    rw [Directive.strip, hpieces, plainText_consPlain, plainText_piecesAfter, escapeBraces_append]
  refine ⟨_, Grammar.draft_escape hrules chance, hscan, ?_, ?_⟩
  · rw [Draft.ofExpanded, hscan, writtenDirectives]
    refine List.ext_getElem (by simp) fun i _ _ => ?_
    rw [List.getElem_map, List.getElem_map, List.getElem_mapIdx]
    exact ofDirective?_raw (hwritable _ (List.getElem_mem _))
  · rw [Draft.ofExpanded, postedText, hstrip, unescapeBraces_escapeBraces]

/-- Braces and backslashes in texts and addresses, a missing address and directives side by side. -/
theorem draft_written_braces : ∃ d,
    ((Grammar.ofRules [(startSymbol, [Section.escape (written ['x', '\x7b']
      [⟨.image, ['h', '\\', '\x7b', 'é'], []⟩, ⟨.video, [], ['\x7d', '#', '\\']⟩])])]).draft
      (Generator.ofSeed 7)).1 = .ok d ∧
    d.directives.map (fun d => Resource.ofDirective? d.raw)
      = [some ⟨.image, ['h', '\\', '\x7b', 'é']⟩, some ⟨.video, []⟩] ∧
    d.text = ['x', '\x7b', '\x7d', '#', '\\'] := by
  obtain ⟨d, hd, _, hresources, htext⟩ := draft_written
    (g := Grammar.ofRules [(startSymbol, [Section.escape (written ['x', '\x7b']
      [⟨.image, ['h', '\\', '\x7b', 'é'], []⟩, ⟨.video, [], ['\x7d', '#', '\\']⟩])])])
    rfl
    (by
      rintro p hp
      rcases List.mem_cons.mp hp with rfl | hp
      · exact ⟨by rintro _ ⟨⟩; decide, by rintro _ ⟨⟩; decide, by simp [isLineTerminator],
          by decide⟩
      · rw [List.mem_singleton.mp hp]
        exact ⟨by rintro _ ⟨⟩, by rintro _ ⟨⟩, by simp, by decide⟩)
    (by unfold NoneGuards; decide) (Generator.ofSeed 7)
  exact ⟨d, hd, hresources, htext⟩

end GrammarBots

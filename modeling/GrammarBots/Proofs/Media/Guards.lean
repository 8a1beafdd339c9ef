import GrammarBots.Proofs.Grammar.Pushes
import GrammarBots.Proofs.Media.Authoring

/-!
# Directives in rules

A rule that is literal text expands to its characters without the backslashes that guard the special
characters of rules.  `Section.exists_unguards_of_text` says so, and `forall₂_sameKind_scan` that
the rule and its expansion have the same directives, one for one: each directive of the rule names
media of the kind that its counterpart names, or neither names any.

Braces and line ends are not special, so a backslash that goes does not stand before any of them;
and where a brace has a backslash before it in the rule, it has one in the expansion, the second of
a pair if not the same.  So the reader of directives, coming from the right, does the same in both
texts.  A directive names media by its first letters, and those stand before the first special
character of its content if there are any (`Resource.prefix_content_iff`).
-/

namespace GrammarBots

/-! ### The letters of a directive -/

namespace Resource

/-- What a content begins with, up to the first character that is special in rules. -/
def lead (content : Text) : Text := content.takeWhile fun c => !Section.isSpecial c

theorem prefix_append_iff {letters s rest : Text} (h : ∀ c ∈ rest.head?, c ∉ letters) :
    letters <+: s ++ rest ↔ letters <+: s := by
  induction s generalizing letters with
  | nil =>
    rw [List.nil_append, List.prefix_nil]
    constructor
    · rintro ⟨behind, rfl⟩
      cases letters with
      | nil => rfl
      | cons c letters => exact absurd List.mem_cons_self (h c rfl)
    · rintro rfl
      exact List.nil_prefix
  | cons b s ih =>
    cases letters with
    | nil => exact iff_of_true List.nil_prefix List.nil_prefix
    | cons c letters =>
      rw [List.cons_append, List.cons_prefix_cons, List.cons_prefix_cons,
        ih fun d hd hmem => h d hd (List.mem_cons_of_mem c hmem)]

variable {letters : Text}

theorem prefix_trim_iff (hletters : ∀ c ∈ letters, Text.isBlank c = false) (t : Text) :
    letters <+: Text.trim t ↔ letters <+: t.dropWhile Text.isBlank := by
  have hsplit (s : Text) : s = Text.dropTrailing Text.isBlank s
      ++ (s.reverse.takeWhile Text.isBlank).reverse := by
    rw [Text.dropTrailing, ← List.reverse_append, List.takeWhile_append_dropWhile,
      List.reverse_reverse]
  rw [Text.trim, Text.trimBoth]
  conv_rhs => rw [hsplit (t.dropWhile Text.isBlank)]
  refine (prefix_append_iff fun c hc hmem => ?_).symm
  have hblank : Text.isBlank c = true :=
    List.all_eq_true.mp List.all_takeWhile c (List.mem_reverse.mp (List.mem_of_mem_head? hc))
  rw [hletters c hmem] at hblank
  cases hblank

theorem prefix_dropWhile_append_iff {s rest : Text}
    (h : ∀ c ∈ rest.head?, Text.isBlank c = false ∧ c ∉ letters) :
    letters <+: (s ++ rest).dropWhile Text.isBlank ↔ letters <+: s.dropWhile Text.isBlank := by
  rw [List.dropWhile_append]
  split_ifs with hempty
  · have hrest : rest.dropWhile Text.isBlank = rest := by
      cases rest with
      | nil => rfl
      | cons c rest => exact List.dropWhile_cons_of_neg (by simp [(h c rfl).1])
    rw [hrest, List.isEmpty_iff.mp hempty]
    exact prefix_append_iff (s := []) fun c hc => (h c hc).2
  · exact prefix_append_iff fun c hc => (h c hc).2

/-- With its braces restored, a text that begins with a special character begins with one or with a
brace. -/
theorem exists_unescapeBraces_eq_cons {s : Text}
    (hs : ∀ c ∈ s.head?, Section.isSpecial c = true) :
    ∃ c rest, unescapeBraces (s ++ ['\x7d']) = c :: rest ∧
      (Section.isSpecial c = true ∨ isBrace c = true) := by
  cases s with
  | nil => exact ⟨'\x7d', [], rfl, Or.inr rfl⟩
  | cons c s =>
    rw [List.cons_append, unescapeBraces_cons]
    by_cases hguard : c = '\\' ∧ (s ++ ['\x7d']).head?.any isBrace = true
    · rw [if_pos hguard]
      obtain ⟨b, behind, hbehind⟩ : ∃ b behind, s ++ ['\x7d'] = b :: behind :=
        List.exists_cons_of_ne_nil (by simp)
      rw [hbehind] at hguard ⊢
      have hbrace : isBrace b = true := hguard.2
      have hne : b ≠ '\\' := by
        rintro rfl
        cases hbrace
      rw [unescapeBraces_cons, if_neg fun h => hne h.1]
      exact ⟨b, _, rfl, Or.inr hbrace⟩
    · rw [if_neg hguard]
      exact ⟨c, _, rfl, Or.inl (hs c rfl)⟩

/-- Letters that are neither blank nor special nor braces begin the content of a directive exactly
if they begin its lead. -/
theorem prefix_content_iff (hletters : ∀ c ∈ letters,
      Text.isBlank c = false ∧ Section.isSpecial c = false ∧ isBrace c = false) (s : Text) :
    letters <+: content ('\x7b' :: (s ++ ['\x7d']))
      ↔ letters <+: (lead s).dropWhile Text.isBlank := by
  have hlead : '\\' ∉ lead s := fun h =>
    absurd (List.all_eq_true.mp List.all_takeWhile _ h) (by decide)
  have hspecial : ∀ c ∈ (s.dropWhile fun c => !Section.isSpecial c).head?,
      Section.isSpecial c = true := by
    intro c hc
    have hnot := List.head?_dropWhile_not (fun c => !Section.isSpecial c) s
    rw [Option.mem_def.mp hc] at hnot
    simpa using hnot
  obtain ⟨c, rest, hrest, hc⟩ := exists_unescapeBraces_eq_cons hspecial
  have hrestored : unescapeBraces ('\x7b' :: (s ++ ['\x7d'])) = '\x7b' :: (lead s ++ c :: rest) := by
    rw [unescapeBraces_cons, if_neg fun h => absurd h.1 (by decide), ← hrest,
      ← unescapeBraces_append hlead, lead, ← List.append_assoc, List.takeWhile_append_dropWhile]
  have hblank : Text.isBlank c = false := by
    simp only [Section.isSpecial, isBrace, Bool.or_eq_true, beq_iff_eq] at hc
    rcases hc with (((rfl | rfl) | rfl) | rfl) | rfl | rfl <;> decide
  have hnot : c ∉ letters := by
    intro hmem
    obtain ⟨-, hspecial, hbrace⟩ := hletters c hmem
    rw [hspecial, hbrace] at hc
    rcases hc with hc | hc <;> cases hc
  rw [content, hrestored, List.drop_one, List.tail_cons, List.dropLast_append_cons,
    prefix_trim_iff fun c hc => (hletters c hc).1]
  refine prefix_dropWhile_append_iff fun d hd => ?_
  obtain rfl : c = d := by
    cases rest with
    | nil => cases hd
    | cons b rest => exact Option.some.inj hd
  exact ⟨hblank, hnot⟩

/-- Directives whose contents have the same lead name media of the same kind, or both name none. -/
theorem kind_eq_of_lead_eq {s s' : Text} (h : lead s = lead s') :
    (ofDirective? ('\x7b' :: (s ++ ['\x7d']))).map (·.kind)
      = (ofDirective? ('\x7b' :: (s' ++ ['\x7d']))).map (·.kind) := by
  have hkind (raw : Text) : (ofDirective? raw).map (·.kind)
      = MediaKind.ofLetters? ((content raw).take 3) := by
    rw [ofDirective?, Option.map_map]
    exact Option.map_id'
  have hplain (kind : MediaKind) : ∀ c ∈ kind.letters,
      Text.isBlank c = false ∧ Section.isSpecial c = false ∧ isBrace c = false := by
    intro c hc
    have hall : kind.letters.all (fun c => !Text.isBlank c && !Section.isSpecial c && !isBrace c) := by
      cases kind <;> decide
    simpa [and_assoc] using List.all_eq_true.mp hall c hc
  have hletters (kind : MediaKind) (s : Text) :
      (content ('\x7b' :: (s ++ ['\x7d']))).take 3 = kind.letters
        ↔ kind.letters <+: (lead s).dropWhile Text.isBlank := by
    rw [← prefix_content_iff (hplain kind), List.prefix_iff_eq_take, eq_comm]
    cases kind <;> rfl
  rw [hkind, hkind, MediaKind.ofLetters?, MediaKind.ofLetters?]
  simp only [hletters, h]

end Resource

/-! ### Texts without guards -/

namespace Section

/-- The second text is the first without some of the backslashes that stand before a special
character of rules.  Both are given last character first. -/
inductive Unguards : Text → Text → Prop where
  /-- Empty texts. -/
  | nil : Unguards [] []
  /-- A character that both texts have. -/
  | keep {rule t : Text} (c : Char) (h : Unguards rule t) : Unguards (c :: rule) (c :: t)
  /-- A special character, in the first text with a backslash before it. -/
  | drop {rule t : Text} {c : Char} (hc : isSpecial c = true) (h : Unguards rule t) :
    Unguards (c :: '\\' :: rule) (c :: t)

theorem Unguards.isEscaped_eq {rule t : Text} (h : Unguards rule t) :
    isEscaped rule = isEscaped t := by
  cases h <;> rfl

end Section

/-- Two directives name media of the same kind, or both name none. -/
def SameKind (raw raw' : Text) : Prop :=
  (Resource.ofDirective? raw).map (·.kind) = (Resource.ofDirective? raw').map (·.kind)

/-- What two readers have read since a closing brace began to wait. -/
inductive SameCandidate : Option Text → Option Text → Prop where
  /-- No closing brace waits. -/
  | none : SameCandidate none none
  /-- A closing brace waits, and the contents so far have the same lead and are both empty or
  both not. -/
  | some {s s' : Text} (hlead : Resource.lead s = Resource.lead s') (hnil : s = [] ↔ s' = []) :
    SameCandidate (some (s ++ ['\x7d'])) (some (s' ++ ['\x7d']))

theorem two_le_length_iff {s s' : Text} (hnil : s = [] ↔ s' = []) :
    2 ≤ (s ++ ['\x7d']).length ↔ 2 ≤ (s' ++ ['\x7d']).length := by
  rw [← List.length_eq_zero_iff, ← List.length_eq_zero_iff] at hnil
  rw [List.length_append, List.length_append, List.length_singleton]
  omega

/-- A character that both contents have. -/
theorem sameCandidate_keep {s s' : Text} (hlead : Resource.lead s = Resource.lead s')
    (c : Char) :
    SameCandidate (some (c :: s ++ ['\x7d'])) (some (c :: s' ++ ['\x7d'])) := by
  have hlead' : Resource.lead (c :: s) = Resource.lead (c :: s') := by
    simp only [Resource.lead, List.takeWhile_cons] at hlead ⊢
    rw [hlead]
  exact .some hlead' (by simp)

/-- A special character, in the first content with a backslash before it. -/
theorem sameCandidate_drop {s s' : Text} {c : Char} (hc : Section.isSpecial c = true) :
    SameCandidate (some ('\\' :: c :: s ++ ['\x7d'])) (some (c :: s' ++ ['\x7d'])) := by
  have hlead : Resource.lead ('\\' :: c :: s) = Resource.lead (c :: s') := by
    simp only [Resource.lead, List.takeWhile_cons, hc]
    rfl
  exact .some hlead (by simp)

namespace Piece

/-- The directives among pieces. -/
def raws : List Piece → List Text
  | [] => []
  | .plain _ :: rest => raws rest
  | .directive raw :: rest => raw :: raws rest

theorem raws_consPlain (t : Text) (pieces : List Piece) :
    raws (consPlain t pieces) = raws pieces := by
  unfold consPlain
  cases t with
  | nil => rfl
  | cons c t => rfl

theorem map_raw_ofPieces (offset : Nat) (pieces : List Piece) :
    (Directive.ofPieces offset pieces).map (·.raw) = raws pieces := by
  induction pieces generalizing offset with
  | nil => rfl
  | cons p pieces ih =>
    cases p with
    | plain t => exact ih _
    | directive raw => exact congrArg (raw :: ·) (ih _)

/-- The reader finds the same directives in a text without some of its guards. -/
theorem forall₂_sameKind_cut {rule t : Text} (h : Section.Unguards rule t)
    {candidate candidate' : Option Text} (hcandidate : SameCandidate candidate candidate')
    (plain plain' : Text) {pieces pieces' : List Piece}
    (hpieces : List.Forall₂ SameKind (raws pieces) (raws pieces')) :
    List.Forall₂ SameKind (raws (cut pieces plain candidate rule))
      (raws (cut pieces' plain' candidate' t)) := by
  induction h generalizing candidate candidate' plain plain' pieces pieces' with
  | nil =>
    rw [cut, cut, raws_consPlain, raws_consPlain]
    exact hpieces
  | @keep rule t c h ih =>
    cases hcandidate with
    | none =>
      rw [cut, cut, h.isEscaped_eq]
      by_cases hclose : c = '\x7d' ∧ ¬ isEscaped t
      · rw [if_pos hclose, if_pos hclose, hclose.1]
        have hnothing : SameCandidate (some ([] ++ ['\x7d'])) (some ([] ++ ['\x7d'])) :=
          .some rfl Iff.rfl
        exact ih hnothing _ _ hpieces
      · rw [if_neg hclose, if_neg hclose]
        exact ih .none _ _ hpieces
    | @some s s' hlead hnil =>
      have hopen_iff : (c = '\x7b' ∧ ¬ isEscaped t ∧ 2 ≤ (s ++ ['\x7d']).length)
          ↔ c = '\x7b' ∧ ¬ isEscaped t ∧ 2 ≤ (s' ++ ['\x7d']).length := by
        rw [two_le_length_iff hnil]
      rw [cut, cut, h.isEscaped_eq]
      by_cases hline : isLineTerminator c
      · rw [if_pos hline, if_pos hline]
        exact ih .none _ _ hpieces
      rw [if_neg hline, if_neg hline]
      by_cases hopen : c = '\x7b' ∧ ¬ isEscaped t ∧ 2 ≤ (s' ++ ['\x7d']).length
      · rw [if_pos (hopen_iff.mpr hopen), if_pos hopen, hopen.1]
        refine ih .none _ _ (.cons (Resource.kind_eq_of_lead_eq hlead) ?_)
        rw [raws_consPlain, raws_consPlain]
        exact hpieces
      · rw [if_neg (mt hopen_iff.mp hopen), if_neg hopen]
        exact ih (sameCandidate_keep hlead c) _ _ hpieces
  | @drop rule t c hc h ih =>
    -- Neither the character nor its guard is a brace or ends a line.
    have hplain : c ≠ '\x7d' ∧ c ≠ '\x7b' ∧ isLineTerminator c = false := by
      simp only [Section.isSpecial, Bool.or_eq_true, beq_iff_eq] at hc
      rcases hc with ((rfl | rfl) | rfl) | rfl <;> decide
    have hguard : isLineTerminator '\\' = false := by decide
    cases hcandidate with
    | none =>
      rw [cut, if_neg fun h => hplain.1 h.1, cut, if_neg fun h => absurd h.1 (by decide), cut,
        if_neg fun h => hplain.1 h.1]
      exact ih .none _ _ hpieces
    | @some s s' hlead hnil =>
      have hrule := cut_content (s := ['\\', c])
        (List.forall_mem_cons.mpr ⟨⟨by decide, hguard⟩, List.forall_mem_singleton.mpr hplain.2⟩)
        pieces plain (s ++ ['\x7d']) rule
      have ht := cut_content (s := [c]) (List.forall_mem_singleton.mpr hplain.2)
        pieces' plain' (s' ++ ['\x7d']) t
      exact hrule ▸ ht ▸ ih (sameCandidate_drop hc) _ _ hpieces

end Piece

/-- **A text without some of its guards has the same directives.** -/
theorem forall₂_sameKind_scan {rule t : Text}
    (h : Section.Unguards rule.reverse t.reverse) :
    List.Forall₂ SameKind ((Directive.scan rule).map (·.raw)) ((Directive.scan t).map (·.raw)) := by
  rw [Directive.scan, Directive.scan, Piece.map_raw_ofPieces, Piece.map_raw_ofPieces]
  exact Piece.forall₂_sameKind_cut h .none [] [] .nil

/-! ### Literal rules -/

namespace Section

/-- Texts without tags and actions are not read from a body. -/
theorem map_consText_read_ne {collected : Text} {sections : List Section}
    (htext : ∀ s ∈ sections, s.isText = true) (inTag : Bool) (after : Text) :
    (read (.inBody inTag 0) [] after).map (consText collected) ≠ .ok sections := by
  intro hread
  obtain ⟨inner, hinner, rfl⟩ := exists_of_map_eq_ok hread
  obtain ⟨body, behind, sections, -, -, -, rfl⟩ := exists_body_of_read hinner
  have hmem : ofBody inTag body ∈ consText collected (ofBody inTag body :: sections) := by
    unfold consText
    split <;> simp
  have hnot := htext _ hmem
  rw [isText_ofBody] at hnot
  cases hnot

/-- What is read from a text without tags and actions is the text without some of its guards.  The
induction is on the length of the text, since a guard is read with the character behind it. -/
theorem exists_unguards_of_read {front collected rest : Text} {sections : List Section}
    (h : read .text collected rest = .ok sections) (htext : ∀ s ∈ sections, s.isText = true)
    (hfront : Unguards front collected) :
    ∃ t, sections = consText t [] ∧ Unguards (rest.reverse ++ front) t := by
  induction hlen : rest.length using Nat.strong_induction_on
    generalizing rest front collected with
  | _ n ih =>
  subst hlen
  cases rest with
  | nil => exact ⟨collected, (Except.ok.inj h).symm, hfront⟩
  | cons c rest =>
    by_cases hbackslash : c = '\\'
    · subst hbackslash
      cases rest with
      | nil => exact ⟨'\\' :: collected, (Except.ok.inj h).symm, .keep '\\' hfront⟩
      | cons next rest =>
        have hreverse : ('\\' :: next :: rest).reverse ++ front
            = rest.reverse ++ next :: '\\' :: front := by simp
        have hshorter : rest.length < ('\\' :: next :: rest).length := by
          simp only [List.length_cons]
          omega
        rw [read] at h
        rw [hreverse]
        split_ifs at h with hspecial
        · exact ih _ hshorter h (.drop hspecial hfront) rfl
        · exact ih _ hshorter h (.keep next (.keep '\\' hfront)) rfl
    by_cases hopen : c = '['
    · subst hopen
      rw [read] at h
      exact absurd h (map_consText_read_ne htext false rest)
    by_cases hclose : c = ']'
    · subst hclose
      cases h
    by_cases hhash : c = '#'
    · subst hhash
      rw [read] at h
      exact absurd h (map_consText_read_ne htext true rest)
    have hreverse : (c :: rest).reverse ++ front = rest.reverse ++ c :: front := by simp
    rw [read] at h
    · rw [hreverse]
      exact ih _ (Nat.lt_succ_self _) h (.keep c hfront) rfl
    all_goals simp_all

/-- **A rule without tags and actions** is one text, the rule without some of its guards, or it is
empty. -/
theorem exists_unguards_of_text {rule : Text} {sections : List Section}
    (h : ofRule rule = .ok sections) (htext : ∀ s ∈ sections, s.isText = true) :
    ∃ t, sections = (if t = [] then [] else [.text t]) ∧ Unguards rule.reverse t.reverse := by
  obtain ⟨t, hsections, ht⟩ := exists_unguards_of_read h htext .nil
  refine ⟨t.reverse, ?_, ?_⟩
  · rw [hsections, consText]
    cases t <;> simp
  · rwa [List.reverse_reverse, ← List.append_nil rule.reverse]

end Section

end GrammarBots

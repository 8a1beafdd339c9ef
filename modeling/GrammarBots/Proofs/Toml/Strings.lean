import GrammarBots.Toml.Scalar
import GrammarBots.Toml.Writer
import Mathlib.Tactic.SplitIfs

/-!
# Strings are read back as they were written

`Toml.scalar?_quote` says that every string, in whatever form it was written, is read back, and that
reading stops right behind it.

The two forms on one line are read back character by character.  In the two forms of several lines
up to two quotes may stand side by side, so what is read is not the next character but the quotes
since the last other character together with the rest of the string: `basicLines?_escapeLines` and
`literalLines?_append` carry their number along, and `extraQuotes` returns those at the very end.
-/

namespace GrammarBots.Toml

/-! ### Characters -/

/-- A control character is one of the first 128. -/
theorem toNat_lt_of_isControl {c : Char} (h : isControl c = true) : c.toNat < 128 := by
  simp only [isControl, Bool.or_eq_true, Bool.and_eq_true, decide_eq_true_eq, beq_iff_eq] at h
  omega

/-- What no string may hold are the control characters, and the line break. -/
theorem isForbidden_of_not_isControl {c : Char} (h : isControl c = false) (hc : c ≠ '\n') :
    isForbidden c = false := by
  simp only [isControl, isForbidden] at h ⊢
  simpa [hc] using h

/-- The number of a control character is read back from its two hexadecimal digits. -/
theorem numberedChar?_hexDigits {n : Nat} (h : n < 128) :
    numberedChar? ['0', '0', upperHexDigit (n / 16), upperHexDigit n] = some (Char.ofNat n) := by
  revert n
  decide +kernel

/-- A character stands as it is, or behind a backslash in a form that is read back. -/
theorem escapeChar_cases (c : Char) :
    (escapeChar c = [c] ∧ c ≠ '\\' ∧ c ≠ '\r' ∧ isControl c = false) ∨
      ∃ d word, escapeChar c = '\\' :: d :: word ∧ isBlank d = false ∧ d ≠ '\n' ∧ d ≠ '\r' ∧
        ∀ t, escape? (d :: word ++ t) = some (c, t) := by
  unfold escapeChar
  split_ifs with hb ht hf hr hs hcontrol
  · exact Or.inr ⟨_, _, rfl, by decide, by decide, by decide, fun t => by rw [hb]; rfl⟩
  · exact Or.inr ⟨_, _, rfl, by decide, by decide, by decide, fun t => by rw [ht]; rfl⟩
  · exact Or.inr ⟨_, _, rfl, by decide, by decide, by decide, fun t => by rw [hf]; rfl⟩
  · exact Or.inr ⟨_, _, rfl, by decide, by decide, by decide, fun t => by rw [hr]; rfl⟩
  · exact Or.inr ⟨_, _, rfl, by decide, by decide, by decide, fun t => by rw [hs]; rfl⟩
  · refine Or.inr ⟨_, _, rfl, by decide, by decide, by decide, fun t => ?_⟩
    have hread := numberedChar?_hexDigits (toNat_lt_of_isControl hcontrol)
    rw [Char.ofNat_toNat] at hread
    simp [escape?, hread]
  · exact Or.inl ⟨rfl, hs, hr, by simpa using hcontrol⟩

/-! ### On one line -/

theorem basicString?_cons {c : Char} (hquote : c ≠ '"') (hslash : c ≠ '\\')
    (hc : isForbidden c = false) (t : Text) :
    basicString? (c :: t) = (basicString? t).map fun (s, r) => (c :: s, r) := by
  rw [basicString?.eq_def]
  split
  · simp_all
  · simp_all
  · simp_all
  · simp_all

theorem basicString?_escape {t after : Text} {c : Char} (h : escape? t = some (c, after)) :
    basicString? ('\\' :: t) = (basicString? after).map fun (s, r) => (c :: s, r) := by
  rw [basicString?]
  split <;> simp_all

/-- A written character is read as itself. -/
theorem basicString?_escapeLine_singleton (c : Char) (t : Text) :
    basicString? (escapeLine [c] ++ t) = (basicString? t).map fun (s, r) => (c :: s, r) := by
  rw [escapeLine, List.flatMap_singleton]
  split_ifs with hquote hbreak
  · subst hquote
    exact basicString?_escape rfl
  · subst hbreak
    exact basicString?_escape rfl
  · rcases escapeChar_cases c with ⟨hsame, hslash, -, hcontrol⟩ | ⟨d, word, hword, -, -, -, hread⟩
    · rw [hsame]
      exact basicString?_cons hquote hslash (isForbidden_of_not_isControl hcontrol hbreak) t
    · rw [hword]
      exact basicString?_escape (hread t)

/-- **A basic string** is read back up to its closing quote. -/
theorem basicString?_escapeLine (s rest : Text) :
    basicString? (escapeLine s ++ '"' :: rest) = some (s, rest) := by
  induction s with
  | nil => rw [escapeLine, List.flatMap_nil, List.nil_append, basicString?]
  | cons c s ih =>
    have hsplit : escapeLine (c :: s) = escapeLine [c] ++ escapeLine s := by
      rw [escapeLine, List.flatMap_cons, escapeLine, List.flatMap_singleton, escapeLine]
    rw [hsplit, List.append_assoc, basicString?_escapeLine_singleton, ih, Option.map_some]

/-- **A literal string** is read back up to its closing apostrophe. -/
theorem literalString?_append {s : Text} (hcontrol : s.any isControl = false) (hbreak : '\n' ∉ s)
    (hquote : '\x27' ∉ s) (rest : Text) :
    literalString? (s ++ '\x27' :: rest) = some (s, rest) := by
  induction s with
  | nil => rfl
  | cons c s ih =>
    obtain ⟨hc, hs⟩ := Bool.or_eq_false_iff.mp (List.any_cons.symm.trans hcontrol)
    rw [List.mem_cons, not_or] at hbreak hquote
    have hforbidden := isForbidden_of_not_isControl hc (Ne.symm hbreak.1)
    rw [List.cons_append, literalString?, if_neg (by simp [hforbidden]), ih hs hbreak.2 hquote.2,
      Option.map_some]
    exact fun h => hquote.1 h.symm

/-! ### On several lines -/

/-- Of the quotes behind a string of several lines, those that are its own belong to it. -/
theorem extraQuotes_replicate {quote : Char} (hquote : quote ≠ '\n') {n : Nat} (hn : n ≤ 2)
    (rest : Text) :
    extraQuotes quote (List.replicate n quote ++ '\n' :: rest)
      = (List.replicate n quote, '\n' :: rest) := by
  have hbreak : ('\n' == quote) = false := beq_false_of_ne (Ne.symm hquote)
  obtain rfl | rfl | rfl : n = 0 ∨ n = 1 ∨ n = 2 := by omega
  all_goals
    cases rest <;> simp [extraQuotes, List.replicate, hbreak]

/-- At most two quotes before another character are part of a string that only three quotes end. -/
theorem read_quotes {quote : Char} {read : Text → Option (Text × Text)}
    (hread : ∀ t, (∀ r, t ≠ quote :: quote :: r) →
      read (quote :: t) = (read t).map fun (s, r) => (quote :: s, r))
    {n : Nat} (hn : n ≤ 2) {d : Char} (hd : d ≠ quote) (t : Text) :
    read (List.replicate n quote ++ d :: t)
      = (read (d :: t)).map fun (s, r) => (List.replicate n quote ++ s, r) := by
  induction n with
  | zero => simp
  | succ n ih =>
    rw [List.replicate_succ, List.cons_append, hread, ih (by omega), Option.map_map]
    · rfl
    · intro r h
      obtain rfl | rfl : n = 0 ∨ n = 1 := by omega
      · exact hd (List.cons.inj h).1
      · exact hd (List.cons.inj (List.cons.inj h).2).1

theorem basicLines?_cons {c : Char} (hslash : c ≠ '\\') (hreturn : c ≠ '\r')
    (hcontrol : isControl c = false) {t : Text} (ht : c = '"' → ∀ r, t ≠ '"' :: '"' :: r) :
    basicLines? (c :: t) = (basicLines? t).map fun (s, r) => (c :: s, r) := by
  rw [basicLines?.eq_def]
  split
  · simp_all
  · simp_all
  · simp_all
  · simp_all
  · simp_all
  · simp_all [isForbidden_of_not_isControl]

theorem basicLines?_escape {d c : Char} {t after : Text} (hblank : isBlank d = false)
    (hbreak : d ≠ '\n') (hreturn : d ≠ '\r') (h : escape? (d :: t) = some (c, after)) :
    basicLines? ('\\' :: d :: t) = (basicLines? after).map fun (s, r) => (c :: s, r) := by
  have hcontinuation : afterContinuation? (d :: t) = none := by
    rw [afterContinuation?, List.dropWhile_cons, hblank]
    refine if_neg ?_
    unfold startsLine
    split <;> simp_all
  rw [basicLines?]
  split
  · simp_all
  · split <;> simp_all

theorem basicLines?_quotes {n : Nat} (hn : n ≤ 2) {d : Char} (hd : d ≠ '"') (t : Text) :
    basicLines? (List.replicate n '"' ++ d :: t)
      = (basicLines? (d :: t)).map fun (s, r) => (List.replicate n '"' ++ s, r) :=
  read_quotes (fun _ h => basicLines?_cons (by decide) (by decide) (by decide) fun _ => h) hn hd t

/-- A written character other than the quote is read as itself. -/
theorem basicLines?_append {c : Char} {word : Text} (hquote : c ≠ '"')
    (hword : word = if c = '\n' then ['\n'] else escapeChar c) (t : Text) :
    (∃ d tail, word = d :: tail ∧ d ≠ '"') ∧
      basicLines? (word ++ t) = (basicLines? t).map fun (s, r) => (c :: s, r) := by
  subst hword
  split_ifs with hbreak
  · subst hbreak
    exact ⟨⟨_, _, rfl, by decide⟩, basicLines?_cons (by decide) (by decide) (by decide) nofun⟩
  · rcases escapeChar_cases c with ⟨hsame, hslash, hreturn, hcontrol⟩ |
      ⟨d, word, hword, hblank, hbreak, hreturn, hread⟩
    · rw [hsame]
      exact ⟨⟨_, _, rfl, hquote⟩,
        basicLines?_cons hslash hreturn hcontrol fun h => absurd h hquote⟩
    · rw [hword]
      exact ⟨⟨_, _, rfl, by decide⟩, basicLines?_escape hblank hbreak hreturn (hread t)⟩

/-- **A basic string of several lines** is read back up to its closing quotes; `n` quotes were
written just before. -/
theorem basicLines?_escapeLines (s : Text) {n : Nat} (hn : n ≤ 2) (rest : Text) :
    basicLines? (List.replicate n '"' ++ (escapeLines n s ++ ("\"\"\"".toList ++ '\n' :: rest)))
      = some (List.replicate n '"' ++ s, '\n' :: rest) := by
  induction s generalizing n with
  | nil =>
    have hclose : List.replicate n '"' ++ (escapeLines n [] ++ ("\"\"\"".toList ++ '\n' :: rest))
        = '"' :: '"' :: '"' :: (List.replicate n '"' ++ '\n' :: rest) := by
      obtain rfl | rfl | rfl : n = 0 ∨ n = 1 ∨ n = 2 := by omega
      all_goals rfl
    rw [hclose, basicLines?, extraQuotes_replicate (by decide) hn, List.append_nil]
  | cons c s ih =>
    have hnext := ih (Nat.zero_le 2)
    rw [List.replicate_zero, List.nil_append, List.nil_append] at hnext
    by_cases hquote : c = '"'
    · rw [escapeLines, if_pos hquote]
      subst hquote
      split_ifs with htwo
      · -- the third quote of a run stands behind a backslash
        rw [List.cons_append, basicLines?_quotes hn (by decide), List.cons_append,
          basicLines?_escape (by decide) (by decide) (by decide) rfl, hnext]
        rfl
      · have hmore := ih (n := n + 1) (by omega)
        rw [List.replicate_succ', List.append_assoc, List.append_assoc] at hmore
        exact hmore
    · rw [escapeLines, if_neg hquote]
      obtain ⟨⟨d, tail, hword, hd⟩, hread⟩ := basicLines?_append hquote rfl
        (escapeLines 0 s ++ ("\"\"\"".toList ++ '\n' :: rest))
      rw [hnext, hword] at hread
      rw [hword, List.append_assoc, List.cons_append, basicLines?_quotes hn hd, ← List.cons_append,
        hread]
      rfl

theorem le_longestRun (c : Char) (run : Nat) (t : Text) : run ≤ longestRun c run t := by
  induction t generalizing run with
  | nil => exact Nat.le_refl run
  | cons d t ih =>
    rw [longestRun]
    split_ifs
    · exact Nat.le_of_succ_le (ih (run + 1))
    · exact Nat.le_max_left _ _

theorem literalLines?_cons {c : Char} (hreturn : c ≠ '\r')
    (hcontrol : isControl c = false) {t : Text} (ht : c = '\x27' → ∀ r, t ≠ '\x27' :: '\x27' :: r) :
    literalLines? (c :: t) = (literalLines? t).map fun (s, r) => (c :: s, r) := by
  have hforbidden : (isForbidden c && c != '\n') = false := by
    by_cases hbreak : c = '\n'
    · simp [hbreak]
    · rw [isForbidden_of_not_isControl hcontrol hbreak, Bool.false_and]
  rw [literalLines?.eq_def]
  split
  · simp_all
  · simp_all
  · simp_all
  · next h =>
    obtain ⟨rfl, rfl⟩ := List.cons.inj h
    rw [if_neg (Bool.not_eq_true _ ▸ hforbidden)]

theorem literalLines?_quotes {n : Nat} (hn : n ≤ 2) {d : Char} (hd : d ≠ '\x27') (t : Text) :
    literalLines? (List.replicate n '\x27' ++ d :: t)
      = (literalLines? (d :: t)).map fun (s, r) => (List.replicate n '\x27' ++ s, r) :=
  read_quotes (fun _ h => literalLines?_cons (by decide) (by decide) fun _ => h) hn hd t

/-- **A literal string of several lines** is read back up to its closing apostrophes, if no run in
it is longer than two; `n` apostrophes stand just before. -/
theorem literalLines?_append {s : Text} (hcontrol : s.any isControl = false) {n : Nat}
    (hrun : longestRun '\x27' n s ≤ 2) (rest : Text) :
    literalLines? (List.replicate n '\x27' ++ (s ++ '\x27' :: '\x27' :: '\x27' :: '\n' :: rest))
      = some (List.replicate n '\x27' ++ s, '\n' :: rest) := by
  have hn : n ≤ 2 := Nat.le_trans (le_longestRun _ n s) hrun
  induction s generalizing n with
  | nil =>
    have hclose : List.replicate n '\x27' ++ ([] ++ '\x27' :: '\x27' :: '\x27' :: '\n' :: rest)
        = '\x27' :: '\x27' :: '\x27' :: (List.replicate n '\x27' ++ '\n' :: rest) := by
      obtain rfl | rfl | rfl : n = 0 ∨ n = 1 ∨ n = 2 := by omega
      all_goals rfl
    rw [hclose, literalLines?, extraQuotes_replicate (by decide) hn, List.append_nil]
  | cons c s ih =>
    obtain ⟨hc, hs⟩ := Bool.or_eq_false_iff.mp (List.any_cons.symm.trans hcontrol)
    rw [longestRun] at hrun
    split_ifs at hrun with hquote
    · subst hquote
      have hnext := ih hs hrun (Nat.le_trans (le_longestRun _ _ s) hrun)
      rw [List.replicate_succ', List.append_assoc, List.append_assoc] at hnext
      exact hnext
    · have hreturn : c ≠ '\r' := by
        rintro rfl
        exact absurd hc (by decide)
      have hnext := ih hs (Nat.le_trans (Nat.le_max_right _ _) hrun) (Nat.zero_le 2)
      rw [List.replicate_zero, List.nil_append, List.nil_append] at hnext
      rw [List.cons_append, literalLines?_quotes hn hquote,
        literalLines?_cons hreturn hc fun h => absurd h hquote, hnext]
      rfl

/-! ### Every form -/

theorem notMem_of_longestRun {c : Char} {run : Nat} {s : Text} (h : longestRun c run s = 0) :
    c ∉ s := by
  induction s generalizing run with
  | nil => exact List.not_mem_nil
  | cons d s ih =>
    rw [longestRun] at h
    split_ifs at h with hd
    · have hle := le_longestRun c (run + 1) s
      omega
    · have hrest : longestRun c 0 s = 0 := by omega
      rw [List.mem_cons, not_or]
      exact ⟨Ne.symm hd, ih hrest⟩

/-- The forms without escapes are only given to strings that can do without. -/
theorem StringForm.of_cases (s : Text) :
    StringForm.of s = .basic ∨
      (StringForm.of s = .literal ∧ s.any isControl = false ∧ '\n' ∉ s ∧ '\x27' ∉ s ∧ s ≠ []) ∨
      StringForm.of s = .basicLines ∨
      (StringForm.of s = .literalLines ∧ s.any isControl = false ∧ longestRun '\x27' 0 s ≤ 2) := by
  simp only [StringForm.of]
  split_ifs with hplain hbasic hliteral hlines hliteralLines hbreak
  · exact Or.inl rfl
  · exact Or.inl rfl
  · simp only [Bool.and_eq_true, Bool.not_eq_true', beq_iff_eq] at hliteral
    obtain ⟨⟨hcontrol, hbreak⟩, hrun⟩ := hliteral
    refine Or.inr (Or.inl ⟨rfl, hcontrol, by simpa using hbreak, notMem_of_longestRun hrun, ?_⟩)
    rintro rfl
    exact hplain rfl
  · exact Or.inr (Or.inr (Or.inl rfl))
  · simp only [Bool.and_eq_true, Bool.not_eq_true', decide_eq_true_eq] at hliteralLines
    exact Or.inr (Or.inr (Or.inr ⟨rfl, hliteralLines⟩))
  · exact Or.inr (Or.inr (Or.inl rfl))
  · exact Or.inl rfl

theorem scalar?_basic {t : Text} (h : ∀ r, t ≠ '"' :: '"' :: r) :
    scalar? ('"' :: t) = (basicString? t).map fun (s, r) => (.string s, r) := by
  unfold scalar?
  split <;> simp_all

theorem scalar?_literal {t : Text} (h : ∀ r, t ≠ '\x27' :: '\x27' :: r) :
    scalar? ('\x27' :: t) = (literalString? t).map fun (s, r) => (.string s, r) := by
  unfold scalar?
  split <;> simp_all

/-- A string on one line does not begin like one of several lines. -/
theorem escapeLine_append_ne (s rest r : Text) :
    escapeLine s ++ '"' :: '\n' :: rest ≠ '"' :: '"' :: r := by
  cases s with
  | nil =>
    intro h
    exact absurd (List.cons.inj (List.cons.inj h).2).1 (by decide)
  | cons c s =>
    rw [escapeLine, List.flatMap_cons, List.append_assoc]
    split_ifs with hquote hbreak
    · exact fun h => absurd (List.cons.inj h).1 (by decide)
    · exact fun h => absurd (List.cons.inj h).1 (by decide)
    · rcases escapeChar_cases c with ⟨hword, -⟩ | ⟨d, word, hword, -⟩
      · rw [hword]
        exact fun h => hquote (List.cons.inj h).1
      · rw [hword]
        exact fun h => absurd (List.cons.inj h).1 (by decide)

/-- The line break before a string of several lines is dropped, and nothing else is. -/
theorem dropLineBreak_append {s body : Text}
    (h : '\n' ∉ s → ∀ c r, body = c :: r → c ≠ '\n' ∧ c ≠ '\r') :
    dropLineBreak ((if s.contains '\n' then ['\n'] else []) ++ body) = body := by
  split_ifs with hbreak
  · rfl
  · have hbody := h (by simpa using hbreak)
    rw [List.nil_append]
    unfold dropLineBreak
    split <;> simp_all

theorem escapeLines_head {s r r' : Text} {c : Char} (hs : '\n' ∉ s)
    (h : escapeLines 0 s ++ ("\"\"\"".toList ++ r) = c :: r') : c ≠ '\n' ∧ c ≠ '\r' := by
  have hof {d : Char} {r r' : Text} (hd : d ≠ '\n' ∧ d ≠ '\r') (h : d :: r = c :: r') :
      c ≠ '\n' ∧ c ≠ '\r' := (List.cons.inj h).1 ▸ hd
  cases s with
  | nil => exact hof (by decide) h
  | cons d s =>
    rw [List.mem_cons, not_or] at hs
    rw [escapeLines, if_neg (by decide : ¬ 0 = 2), if_neg (Ne.symm hs.1)] at h
    split_ifs at h with hquote
    · exact hof (by decide) h
    · rcases escapeChar_cases d with ⟨hword, -, hreturn, -⟩ | ⟨e, word, hword, -⟩
      · rw [hword] at h
        exact hof ⟨Ne.symm hs.1, hreturn⟩ h
      · rw [hword] at h
        exact hof (by decide) h

theorem append_head {s r r' : Text} {c : Char} (hs : '\n' ∉ s) (hcontrol : s.any isControl = false)
    (h : s ++ '\x27' :: r = c :: r') : c ≠ '\n' ∧ c ≠ '\r' := by
  cases s with
  | nil =>
    rw [← (List.cons.inj h).1]
    decide
  | cons d s =>
    obtain rfl := (List.cons.inj h).1
    refine ⟨fun hd => hs (hd ▸ List.mem_cons_self), fun hd => ?_⟩
    subst hd
    exact absurd hcontrol (by simp [isControl])

/-- **Every string** is read back as it was written. -/
theorem scalar?_quote (s rest : Text) :
    scalar? (quote s ++ '\n' :: rest) = some (.string s, '\n' :: rest) := by
  rcases StringForm.of_cases s with hform | ⟨hform, hcontrol, hbreak, hquote, hs⟩ | hform |
    ⟨hform, hcontrol, hrun⟩
  · -- between quotes
    have hwritten : quote s ++ '\n' :: rest = '"' :: (escapeLine s ++ '"' :: '\n' :: rest) := by
      simp [quote, hform]
    rw [hwritten, scalar?_basic (escapeLine_append_ne s rest), basicString?_escapeLine,
      Option.map_some]
  · -- between apostrophes
    have hwritten : quote s ++ '\n' :: rest = '\x27' :: (s ++ '\x27' :: '\n' :: rest) := by
      simp [quote, hform]
    have hfirst (r : Text) : s ++ '\x27' :: '\n' :: rest ≠ '\x27' :: '\x27' :: r := by
      obtain ⟨c, s, rfl⟩ := List.exists_cons_of_ne_nil hs
      rintro h
      exact hquote ((List.cons.inj h).1 ▸ List.mem_cons_self)
    rw [hwritten, scalar?_literal hfirst, literalString?_append hcontrol hbreak hquote,
      Option.map_some]
  · -- between triple quotes
    have hwritten : quote s ++ '\n' :: rest
        = '"' :: '"' :: '"' :: ((if s.contains '\n' then ['\n'] else []) ++
          (escapeLines 0 s ++ ("\"\"\"".toList ++ '\n' :: rest))) := by
      simp [quote, hform]
    have hread := basicLines?_escapeLines s (Nat.zero_le 2) rest
    rw [List.replicate_zero, List.nil_append, List.nil_append] at hread
    rw [hwritten, scalar?, dropLineBreak_append fun hs c r h => escapeLines_head hs h, hread,
      Option.map_some]
  · -- between triple apostrophes
    have hwritten : quote s ++ '\n' :: rest
        = '\x27' :: '\x27' :: '\x27' :: ((if s.contains '\n' then ['\n'] else []) ++
          (s ++ '\x27' :: '\x27' :: '\x27' :: '\n' :: rest)) := by
      simp [quote, hform]
    have hread := literalLines?_append hcontrol hrun rest
    rw [List.replicate_zero, List.nil_append, List.nil_append] at hread
    rw [hwritten, scalar?, dropLineBreak_append fun hs c r h => append_head hs hcontrol h, hread,
      Option.map_some]

/-- A written string begins with a quote or an apostrophe. -/
theorem quote_eq_cons (s : Text) : ∃ c t, quote s = c :: t ∧ (c = '"' ∨ c = '\x27') := by
  cases hform : StringForm.of s <;> simp [quote, hform]

end GrammarBots.Toml

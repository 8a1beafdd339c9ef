import GrammarBots.Proofs.Toml.Strings
import GrammarBots.Proofs.Toml.Words
import GrammarBots.Toml.Reader

/-!
# Documents are read back statement by statement

A document is read line by line, and what a line does depends on the header before it.  Where the
keys behind a header go is an `IsPlace`: it says what the root becomes if the table of the header
changes.  Each statement is an equation between the rest of the document with the statement in front
and the rest without it: `readStatements_linesOf` for lines of fields, `readStatements_element` and
`readStatements_table` for the two kinds of headers, all of which may stand behind line breaks.

A `Field` is a key with a value, and the value as it is written; `Field.IsRead` says that its line
is read back, whatever comes behind it.
-/

namespace GrammarBots.Toml

/-! ### Keys -/

/-- A key that is written as it is. -/
structure IsBare (key : Text) : Prop where
  /-- There is a character in it. -/
  ne_nil : key ≠ []
  /-- All its characters are those of bare keys. -/
  keyChars : ∀ c ∈ key, isKeyChar c = true

variable {key : Text}

/-- A bare key begins with none of the characters that mean something else in front of a key. -/
theorem IsBare.head_ne (h : IsBare key) {c : Char} {t rest : Text} (hc : isKeyChar c = false) :
    key ++ rest ≠ c :: t := by
  obtain ⟨d, key, rfl⟩ := List.exists_cons_of_ne_nil h.ne_nil
  rintro heq
  exact absurd (h.keyChars d List.mem_cons_self) (by rw [(List.cons.inj heq).1, hc]; decide)

/-- The text begins with something that is no gap. -/
def HasStart (t : Text) : Prop :=
  ∃ c rest, t = c :: rest ∧ isBlank c = false ∧ c ≠ '\n' ∧ c ≠ '\r' ∧ c ≠ '#'

theorem hasStart_bracket (t : Text) : HasStart ('[' :: t) := ⟨'[', t, rfl, by decide⟩

theorem IsBare.hasStart (h : IsBare key) (rest : Text) : HasStart (key ++ rest) := by
  have hne {c : Char} {t : Text} (heq : key ++ rest = c :: t) (d : Char)
      (hd : isKeyChar d = false) : c ≠ d := by
    rintro rfl
    exact h.head_ne hd heq
  obtain ⟨c, t, heq⟩ := List.exists_cons_of_ne_nil (List.append_ne_nil_of_left_ne_nil h.ne_nil rest)
  refine ⟨c, t, heq, ?_, hne heq _ (by decide), hne heq _ (by decide), hne heq _ (by decide)⟩
  simp [isBlank, hne heq ' ' (by decide), hne heq '\t' (by decide)]

theorem shorter?_of_lt {α : Type} {a : α} {t rest : Text} (h : rest.length < t.length) :
    shorter? t (some (a, rest)) = some (a, ⟨rest, h⟩) := dif_pos h

theorem skipBlank_cons {c : Char} (h : isBlank c = false) (t : Text) :
    skipBlank (c :: t) = c :: t := List.dropWhile_cons_of_neg (by rw [h]; decide)

theorem IsBare.skipBlank_eq (h : IsBare key) (rest : Text) :
    skipBlank (key ++ rest) = key ++ rest := by
  obtain ⟨c, t, heq, hblank, -⟩ := h.hasStart rest
  rw [heq, skipBlank_cons hblank]

theorem IsBare.simpleKey?_append (h : IsBare key) {c : Char} (hc : isKeyChar c = false)
    (rest : Text) : simpleKey? (key ++ c :: rest) = some (key, c :: rest) := by
  have htake : (key ++ c :: rest).takeWhile isKeyChar = key := by
    rw [List.takeWhile_append_of_pos h.keyChars, List.takeWhile_cons_of_neg (by rw [hc]; decide),
      List.append_nil]
  unfold simpleKey?
  split
  · next heq => exact absurd heq (h.head_ne (by decide))
  · next heq => exact absurd heq (h.head_ne (by decide))
  · rw [htake]
    split
    · exact absurd rfl h.ne_nil
    · rw [List.drop_left]

/-- A bare key is read up to the end of its characters. -/
theorem IsBare.keys?_append (h : IsBare key) {c : Char} (hc : isKeyChar c = false)
    (rest : Text) : keys? (key ++ c :: rest) = match skipBlank (c :: rest) with
      | '.' :: more => (keys? more).map fun ((path, last), r) => ((key :: path, last), r)
      | r => some (([], key), r) := by
  have hlt : (c :: rest).length < (key ++ c :: rest).length := by
    rw [List.length_append]
    exact Nat.lt_add_of_pos_left (List.length_pos_iff.mpr h.ne_nil)
  rw [keys?, h.skipBlank_eq, h.simpleKey?_append hc, shorter?_of_lt hlt]
  dsimp only
  split <;> simp_all

theorem dottedKey?_of_keys? {t r : Text} {path : List Text} (h : keys? t = some ((path, key), r))
    (hpath : path.length < maxDepth) : dottedKey? t = some ((path, key), r) := by
  rw [dottedKey?, h]
  exact Option.filter_some_pos (decide_eq_true hpath)

/-- A bare key that no dot follows is the last one. -/
theorem IsBare.keys?_last (h : IsBare key) {c d : Char} {t rest : Text} (hc : isKeyChar c = false)
    (hskip : skipBlank (c :: t) = d :: rest) (hd : d ≠ '.') :
    keys? (key ++ c :: t) = some (([], key), d :: rest) := by
  rw [h.keys?_append hc, hskip]
  split
  · next heq => exact absurd (List.cons.inj heq).1 hd
  · rfl

/-- A bare key behind another one, with a dot between them. -/
theorem IsBare.keys?_dot {outer : Text} (h : IsBare outer) {more r : Text} {path : List Text}
    (hmore : keys? more = some ((path, key), r)) :
    keys? (outer ++ '.' :: more) = some ((outer :: path, key), r) := by
  rw [h.keys?_append (by decide), skipBlank_cons (by decide)]
  change Option.map _ (keys? more) = _
  rw [hmore]
  rfl

/-! ### Places -/

/-- Where the keys behind a header go: `place entries` is the root table in which the table of the
header has these entries. -/
structure IsPlace (header : List Text) (place : Entries → Entries) : Prop where
  /-- A change of the table of the header is a change of its entries. -/
  enter_eq : ∀ {change : TableForm → Entries → Option (TableForm × Entries)}
    {entries entries' : Entries}, change .headed entries = some (.headed, entries') →
      enter false change header .headed (place entries) = some (.headed, place entries')

/-- Before the first header, keys go to the root. -/
theorem isPlace_root : IsPlace [] id := ⟨fun h => h⟩

theorem setEntry_append {entries : Entries} (h : entries.lookup key = none) (v w : Value) :
    setEntry key w (entries ++ [(key, v)]) = entries ++ [(key, w)] := by
  induction entries with
  | nil => rw [List.nil_append, setEntry, if_pos rfl, List.nil_append]
  | cons entry entries ih =>
    obtain ⟨k, u⟩ := entry
    rw [List.lookup_cons] at h
    split at h
    · cases h
    · next hne =>
      have hk : ¬ k = key := fun hk => by simp [hk] at hne
      rw [List.cons_append, setEntry, if_neg hk, ih h, List.cons_append]

theorem lookup_append_self {entries : Entries} (h : entries.lookup key = none) (v : Value) :
    (entries ++ [(key, v)]).lookup key = some v := by
  rw [List.lookup_append, h, Option.none_or, List.lookup_cons_self]

variable {path : List Text} {place : Entries → Entries}

/-- The latest table of an array of tables stands for the array. -/
theorem IsPlace.element (h : IsPlace path place) (done : List Entries) :
    IsPlace (key :: path) fun entries => [(key, .tables (done ++ [place entries]))] := by
  refine ⟨fun hchange => ?_⟩
  rw [enter, List.lookup_cons_self]
  simp [h.enter_eq hchange, setEntry]

/-- A table that has a header. -/
theorem IsPlace.table (h : IsPlace path place) {fields : Entries}
    (hfields : fields.lookup key = none) :
    IsPlace (key :: path) fun entries => fields ++ [(key, .table .headed (place entries))] := by
  refine ⟨fun hchange => ?_⟩
  rw [enter, lookup_append_self hfields]
  simp [h.enter_eq hchange, setEntry_append hfields]

/-! ### Gaps -/

/-- Line breaks before a statement are skipped. -/
theorem skipGap_breaks (n : Nat) {t : Text} (ht : HasStart t) :
    skipGap (List.replicate n '\n' ++ t) = some t := by
  obtain ⟨c, t, rfl, hblank, hbreak, hreturn, hcomment⟩ := ht
  induction n with
  | zero =>
    rw [List.replicate_zero, List.nil_append, skipGap.eq_def]
    split <;> simp_all
  | succ n ih =>
    rw [List.replicate_succ, List.cons_append, skipGap]
    · exact ih
    · exact fun _ hreturn => absurd hreturn (by decide)
    · decide

theorem afterLine?_break (rest : Text) : afterLine? ('\n' :: rest) = some rest := rfl

/-! ### Fields -/

/-- A key with a value, and the value as it is written. -/
structure Field where
  /-- The key. -/
  key : String
  /-- The value as it is written. -/
  written : Text
  /-- The value. -/
  value : Value

namespace Field

/-- The line of a field. -/
def line (f : Field) : Text := Toml.line f.key f.written

/-- The entry of a field. -/
def entry (f : Field) : Text × Value := (f.key.toList, f.value)

/-- The line of a field is read as its entry. -/
structure IsRead (f : Field) : Prop where
  /-- The key is written as it is. -/
  bare : IsBare f.key.toList
  /-- The value is read up to the end of its line. -/
  readValue_eq : ∀ rest, readValue maxDepth (skipBlank (' ' :: (f.written ++ '\n' :: rest)))
    = some (f.value, '\n' :: rest)

/-- A value that is neither an array nor a table is read as such. -/
theorem readValue_of_scalar {c : Char} {t : Text} (hblank : isBlank c = false) (harray : c ≠ '[')
    (htable : c ≠ '\x7b') :
    readValue maxDepth (skipBlank (' ' :: c :: t)) = scalar? (c :: t) := by
  have hskip : skipBlank (' ' :: c :: t) = c :: t := skipBlank_cons hblank t
  rw [hskip, show maxDepth = 79 + 1 from rfl, readValue]
  · exact fun _ heq => harray (List.cons.inj heq).1
  · exact fun _ heq => htable (List.cons.inj heq).1

theorem isRead_string {key : String} (hkey : IsBare key.toList) (s : Text) :
    IsRead ⟨key, quote s, .string s⟩ := by
  refine ⟨hkey, fun rest => ?_⟩
  obtain ⟨c, t, hquote, hc⟩ := quote_eq_cons s
  have hread := scalar?_quote s rest
  dsimp only
  rw [hquote] at hread ⊢
  rw [List.cons_append, readValue_of_scalar, ← List.cons_append, hread]
  all_goals rcases hc with rfl | rfl <;> decide

theorem isRead_natural {key : String} (hkey : IsBare key.toList) {n : Nat}
    (hn : n < UInt64.size) : IsRead ⟨key, natural n, .integer n⟩ := by
  refine ⟨hkey, fun rest => ?_⟩
  obtain ⟨c, t, hnatural, hc⟩ := natural_eq_cons n
  have hne {d : Char} (hd : d.isDigit = false) : c ≠ d := by
    rintro rfl
    rw [hc] at hd
    cases hd
  have hread := scalar?_natural hn rest
  dsimp only
  rw [hnatural] at hread ⊢
  rw [List.cons_append, readValue_of_scalar _ (hne (by decide)) (hne (by decide)),
    ← List.cons_append, hread]
  simp [isBlank, hne (d := ' ') (by decide), hne (d := '\t') (by decide)]

theorem isRead_boolean {key : String} (hkey : IsBare key.toList) (b : Bool) :
    IsRead ⟨key, boolean b, .boolean b⟩ := by
  refine ⟨hkey, fun rest => ?_⟩
  cases b with
  | true =>
    exact (readValue_of_scalar (c := 't') (by decide) (by decide) (by decide)).trans
      (scalar?_boolean true rest)
  | false =>
    exact (readValue_of_scalar (c := 'f') (by decide) (by decide) (by decide)).trans
      (scalar?_boolean false rest)

/-- The empty array. -/
theorem isRead_array {key : String} (hkey : IsBare key.toList) :
    IsRead ⟨key, ['[', ']'], .array []⟩ := by
  refine ⟨hkey, fun rest => ?_⟩
  have hgap : skipGap (']' :: '\n' :: rest) = some (']' :: '\n' :: rest) :=
    skipGap_breaks 0 ⟨']', _, rfl, by decide⟩
  have hskip : skipBlank (' ' :: (['[', ']'] ++ '\n' :: rest)) = '[' :: ']' :: '\n' :: rest :=
    skipBlank_cons (c := '[') (by decide) _
  rw [hskip, show maxDepth = 79 + 1 from rfl, readValue, readElements, hgap]
  rfl

variable {f : Field} {header : List Text} {entries : Entries}

/-- A key that is new goes to the place of the header. -/
theorem IsRead.readStatement_line (h : f.IsRead) (hplace : IsPlace header place)
    (hnew : entries.lookup f.key.toList = none) (rest : Text) :
    readStatement ⟨place entries, header⟩ (f.line ++ rest)
      = some (⟨place (entries ++ [f.entry]), header⟩, rest) := by
  have hline : f.line ++ rest
      = f.key.toList ++ ' ' :: '=' :: ' ' :: (f.written ++ '\n' :: rest) := by
    simp [line, Toml.line]
  have hkey : dottedKey? (f.line ++ rest)
      = some (([], f.key.toList), '=' :: ' ' :: (f.written ++ '\n' :: rest)) := by
    rw [hline]
    exact dottedKey?_of_keys? (h.bare.keys?_last (by decide) rfl (by decide)) (by decide)
  have hadd : addKey [] f.key.toList f.value .headed entries
      = some (.headed, entries ++ [f.entry]) := by
    simp [addKey, enter, hnew, entry]
  unfold readStatement
  split
  · next heq => exact absurd (hline.symm.trans heq) (h.bare.head_ne (by decide))
  · next heq => exact absurd (hline.symm.trans heq) (h.bare.head_ne (by decide))
  · rw [hkey]
    simp [h.readValue_eq, hplace.enter_eq hadd, afterLine?_break]

end Field

/-- One more table of an array of tables. -/
theorem readStatement_element {root root' : Entries} {header : List Text} (hkey : IsBare key)
    (hopen : openElement key .headed root = some (.headed, root')) (rest : Text) :
    readStatement ⟨root, header⟩ ('[' :: '[' :: (key ++ ']' :: ']' :: '\n' :: rest))
      = some (⟨root', [key]⟩, rest) := by
  have hdotted := dottedKey?_of_keys?
    (hkey.keys?_last (c := ']') (t := ']' :: '\n' :: rest) (by decide) rfl (by decide)) (by decide)
  simp [readStatement, hdotted, enter, hopen, afterLine?_break]

/-- A table within the table of another header. -/
theorem readStatement_table {outer : Text} {root root' : Entries} {header : List Text}
    (houter : IsBare outer) (hkey : IsBare key)
    (hopen : enter false (openTable key) [outer] .headed root = some (.headed, root'))
    (rest : Text) :
    readStatement ⟨root, header⟩ ('[' :: (outer ++ '.' :: (key ++ ']' :: '\n' :: rest)))
      = some (⟨root', [outer, key]⟩, rest) := by
  have hdotted := dottedKey?_of_keys? (houter.keys?_dot
    (hkey.keys?_last (c := ']') (t := '\n' :: rest) (by decide) rfl (by decide)))
    (by decide : 1 < maxDepth)
  unfold readStatement
  split
  · next heq => exact absurd (List.cons.inj heq).2 (houter.head_ne (by decide))
  · next heq =>
    obtain rfl := (List.cons.inj heq).2
    simp [hdotted, hopen, afterLine?_break]
  · next heq => exact absurd rfl (heq _)

/-! ### Runs of statements -/

/-- A statement that is read leaves the rest of the document. -/
theorem readStatements_of_readStatement {p p' : Progress} {t rest : Text} (n : Nat)
    (ht : HasStart t) (h : readStatement p t = some (p', rest)) (hlt : rest.length < t.length) :
    readStatements p (List.replicate n '\n' ++ t) = readStatements p' rest := by
  have hlt' : rest.length < (List.replicate n '\n' ++ t).length := by
    rw [List.length_append]
    exact Nat.lt_add_left _ hlt
  rw [readStatements, skipGap_breaks n ht]
  obtain ⟨c, t, rfl, -⟩ := ht
  dsimp only
  rw [h, shorter?_of_lt hlt']

/-- The end of a document. -/
theorem readStatements_nil (p : Progress) : readStatements p [] = some p.root := by
  rw [readStatements, skipGap]

/-- A document without a byte order mark is read from its first character on. -/
theorem read?_eq {t : Text} (h : t.head? ≠ some '\uFEFF') :
    read? t = readStatements ⟨[], []⟩ t := by
  unfold read?
  split
  · exact absurd rfl h
  · rfl

/-- The lines of fields. -/
def linesOf (fields : List Field) : Text := fields.flatMap Field.line

/-- The entries of fields. -/
def entriesOf (fields : List Field) : Entries := fields.map Field.entry

theorem lookup_append_entry {entries : Entries} {f : Field} {k : String}
    (h : entries.lookup k.toList = none) (hne : f.key ≠ k) :
    (entries ++ [f.entry]).lookup k.toList = none := by
  have hk : (k.toList == f.key.toList) = false :=
    beq_false_of_ne fun heq => hne (String.toList_inj.mp heq).symm
  rw [List.lookup_append, h, Option.none_or, Field.entry, List.lookup_cons, hk]
  rfl

/-- **The lines of fields** with keys of their own add their entries to the table of the header. -/
theorem readStatements_linesOf {header : List Text} (hplace : IsPlace header place)
    {fields : List Field} (hread : ∀ f ∈ fields, f.IsRead)
    (hdistinct : (fields.map Field.key).Nodup) {entries : Entries}
    (hnew : ∀ f ∈ fields, entries.lookup f.key.toList = none) (rest : Text) :
    readStatements ⟨place entries, header⟩ (linesOf fields ++ rest)
      = readStatements ⟨place (entries ++ entriesOf fields), header⟩ rest := by
  induction fields generalizing entries with
  | nil => rw [linesOf, List.flatMap_nil, List.nil_append, entriesOf, List.map_nil, List.append_nil]
  | cons f fields ih =>
    obtain ⟨hf, hfields⟩ := List.forall_mem_cons.mp hread
    obtain ⟨hnew_f, hnew_fields⟩ := List.forall_mem_cons.mp hnew
    rw [List.map_cons, List.nodup_cons] at hdistinct
    have hstatement := hf.readStatement_line hplace hnew_f (linesOf fields ++ rest)
    have hstart : HasStart (f.line ++ (linesOf fields ++ rest)) := by
      rw [Field.line, line, List.append_assoc, List.append_assoc, List.append_assoc]
      exact hf.bare.hasStart _
    have hlt : (linesOf fields ++ rest).length < (f.line ++ (linesOf fields ++ rest)).length := by
      simp only [Field.line, line, List.length_append, List.length_singleton]
      omega
    have hstep := readStatements_of_readStatement 0 hstart hstatement hlt
    rw [List.replicate_zero, List.nil_append] at hstep
    have hsplit : linesOf (f :: fields) ++ rest = f.line ++ (linesOf fields ++ rest) := by
      rw [linesOf, List.flatMap_cons, List.append_assoc, linesOf]
    rw [hsplit, hstep, ih hfields hdistinct.2]
    · rw [entriesOf, entriesOf, List.map_cons, List.append_assoc, List.singleton_append]
    · intro g hg
      refine lookup_append_entry (hnew_fields g hg) fun heq => hdistinct.1 ?_
      exact heq ▸ List.mem_map_of_mem hg

/-- **The header of one more table** of an array of tables. -/
theorem readStatements_element {root root' : Entries} {header : List Text} (hkey : IsBare key)
    (hopen : openElement key .headed root = some (.headed, root')) (n : Nat) (rest : Text) :
    readStatements ⟨root, header⟩
        (List.replicate n '\n' ++ '[' :: '[' :: (key ++ ']' :: ']' :: '\n' :: rest))
      = readStatements ⟨root', [key]⟩ rest := by
  refine readStatements_of_readStatement n (hasStart_bracket _)
    (readStatement_element hkey hopen rest) ?_
  simp only [List.length_cons, List.length_append]
  omega

/-- **The header of a table** within the table of another header. -/
theorem readStatements_table {outer : Text} {header : List Text} {entries : Entries}
    (houter : IsBare outer) (hkey : IsBare key) (hplace : IsPlace [outer] place)
    (hnew : entries.lookup key = none) (n : Nat) (rest : Text) :
    readStatements ⟨place entries, header⟩
        (List.replicate n '\n' ++ '[' :: (outer ++ '.' :: (key ++ ']' :: '\n' :: rest)))
      = readStatements ⟨place (entries ++ [(key, .table .headed [])]), [outer, key]⟩ rest := by
  have hopen : openTable key .headed entries
      = some (.headed, entries ++ [(key, .table .headed [])]) := by
    rw [openTable, hnew]
  refine readStatements_of_readStatement n (hasStart_bracket _)
    (readStatement_table houter hkey (hplace.enter_eq hopen) rest) ?_
  simp only [List.length_cons, List.length_append]
  omega

end GrammarBots.Toml

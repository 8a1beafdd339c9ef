import GrammarBots.Toml.Scalar

/-!
# Reading TOML documents

A document is a sequence of headers and of keys with values, in the syntax of version 1.0.  Headers
and dotted keys build one tree of tables, and the rules about what may be defined twice are those of
`enter`: a header may open a table that only stood inside other headers, a dotted key may add to a
table that only dotted keys wrote, and nothing may be added to a value in braces or brackets.
-/

namespace GrammarBots.Toml

open GrammarBots.Json (Shorter)

/-! ### The tree -/

/-- The entries with the value of a key replaced, or with the key added at the end. -/
def setEntry (key : Text) (v : Value) : Entries → Entries
  | [] => [(key, v)]
  | (k, w) :: rest => if k = key then (key, v) :: rest else (k, w) :: setEntry key v rest

/-- Whether a table stands only inside the paths of headers or of dotted keys. -/
def TableForm.isImplicit : TableForm → Bool
  | .implied => true
  | .dotted => true
  | _ => false

/-- Changes the table at the end of a path.  A table missing on the way is made; the latest table of
an array of tables stands for the array.  A path of a dotted key passes through no table that has a
header. -/
def enter (inKey : Bool) (change : TableForm → Entries → Option (TableForm × Entries)) :
    (path : List Text) → TableForm → Entries → Option (TableForm × Entries)
  | [], form, entries => change form entries
  | key :: path, form, entries =>
    match entries.lookup key with
    | none => do
      let (f, es) ← enter inKey change path (if inKey then .dotted else .implied) []
      return (form, setEntry key (.table f es) entries)
    | some (.table f es) =>
      if f = .inlined ∨ (inKey ∧ ¬ f.isImplicit) then none
      else do
        let (f, es) ← enter inKey change path f es
        return (form, setEntry key (.table f es) entries)
    | some (.tables elements) =>
      match elements.getLast? with
      | none => none
      | some last => do
        let (_, es) ← enter inKey change path .headed last
        return (form, setEntry key (.tables (elements.dropLast ++ [es])) entries)
    | some _ => none

/-- Adds a key with a dotted path before it to a table. -/
def addKey (path : List Text) (key : Text) (v : Value) (form : TableForm) (entries : Entries) :
    Option (TableForm × Entries) :=
  enter true
    (fun f es =>
      if decide (f = .dotted) == path.isEmpty then none
      else if (es.lookup key).isSome then none
      else some (f, es ++ [(key, v)]))
    path form entries

/-- Opens the table of a header. -/
def openTable (key : Text) (form : TableForm) (entries : Entries) : Option (TableForm × Entries) :=
  match entries.lookup key with
  | none => some (form, entries ++ [(key, .table .headed [])])
  | some (.table .implied es) => some (form, setEntry key (.table .headed es) entries)
  | some _ => none

/-- Opens one more table of an array of tables. -/
def openElement (key : Text) (form : TableForm) (entries : Entries) :
    Option (TableForm × Entries) :=
  match entries.lookup key with
  | none => some (form, entries ++ [(key, .tables [[]])])
  | some (.tables elements) => some (form, setEntry key (.tables (elements ++ [[]])) entries)
  | some _ => none

/-! ### Blanks and comments -/

/-- The rest of a text after something was read, provided that it got shorter. -/
def shorter? {α : Type} (t : Text) : Option (α × Text) → Option (α × Shorter t)
  | some (a, rest) => if h : rest.length < t.length then some (a, ⟨rest, h⟩) else none
  | none => none

/-- The text without the blanks at its front. -/
def skipBlank (t : Text) : Text := t.dropWhile isBlank

/-- The text after a comment, which is the end of its line. -/
def afterComment? (t : Text) : Option Text :=
  let rest := t.dropWhile fun c => !isForbidden c
  if rest.isEmpty || startsLine rest then some rest else none

/-- The text after the end of a line: blanks, perhaps a comment, and a line break or nothing. -/
def afterLine? (t : Text) : Option Text := do
  let rest ← match skipBlank t with
    | '#' :: rest => afterComment? rest
    | rest => some rest
  if rest.isEmpty || startsLine rest then some (dropLineBreak rest) else none

/-- The text without blanks, line breaks and comments at its front. -/
def skipGap (t : Text) : Option Text :=
  match t with
  | [] => some []
  | '\r' :: '\n' :: rest => skipGap rest
  | '#' :: rest =>
    match _h : afterComment? rest with
    | some after => skipGap after
    | none => none
  | c :: rest => if isBlank c || c == '\n' then skipGap rest else some (c :: rest)
  termination_by t.length
  decreasing_by
    · simp only [List.length_cons]; omega
    · unfold afterComment? at _h
      have := (@List.dropWhile_sublist _ rest fun c => !isForbidden c).length_le
      dsimp only at _h
      split at _h
      · cases _h; simp only [List.length_cons]; omega
      · cases _h
    · simp

/-! ### Keys -/

/-- The characters of bare keys. -/
def isKeyChar (c : Char) : Bool := c.isAlphanum || c == '-' || c == '_'

/-- A key without dots, and the text after it. -/
def simpleKey? : Text → Option (Text × Text)
  | '"' :: rest => basicString? rest
  | '\x27' :: rest => literalString? rest
  | t =>
    match t.takeWhile isKeyChar with
    | [] => none
    | key => some (key, t.drop key.length)

/-- Keys that dots separate, of which the last one stands apart, and the text after them. -/
def keys? (t : Text) : Option ((List Text × Text) × Text) :=
  match shorter? t (simpleKey? (skipBlank t)) with
  | none => none
  | some (key, ⟨rest, _hrest⟩) =>
    match _h : skipBlank rest with
    | '.' :: more => (keys? more).map fun ((path, last), r) => ((key :: path, last), r)
    | r => some (([], key), r)
  termination_by t.length
  decreasing_by
    have := (@List.dropWhile_sublist _ rest isBlank).length_le
    rw [show List.dropWhile isBlank rest = '.' :: more from _h] at this
    simp only [List.length_cons] at this
    omega

/-- How many arrays and tables may be open at once within a value, and how many keys dots may
separate. -/
def maxDepth : Nat := 80

/-- A key with the keys that dots separate before it, and the text after it. -/
def dottedKey? (t : Text) : Option ((List Text × Text) × Text) :=
  (keys? t).filter fun ((path, _), _) => path.length < maxDepth

/-! ### Values -/

mutual

/-- A value with at most `depth` open arrays and tables, and the text after it. -/
def readValue (depth : Nat) (t : Text) : Option (Value × Text) :=
  match depth with
  | 0 =>
    match t with
    | '[' :: _ => none
    | '\x7b' :: _ => none
    | _ => scalar? t
  | depth + 1 =>
    match t with
    | '[' :: rest => (readElements depth (rest.length + 1) rest).map fun (vs, r) => (.array vs, r)
    | '\x7b' :: rest =>
      match skipBlank rest with
      | '\x7d' :: r => some (.table .inlined [], r)
      | _ =>
        (readPairs depth (rest.length + 1) [] rest).map fun (es, r) => (.table .inlined es, r)
    | _ => scalar? t
  termination_by (depth, 0)
  decreasing_by all_goals exact Prod.Lex.left _ _ (Nat.lt_succ_self _)

/-- The elements of an array up to its closing bracket; the text has fewer than `bound` of them. -/
def readElements (depth : Nat) (bound : Nat) (t : Text) : Option (List Value × Text) :=
  match bound with
  | 0 => none
  | bound + 1 =>
    match skipGap t with
    | none => none
    | some (']' :: rest) => some ([], rest)
    | some rest =>
      match readValue depth rest with
      | none => none
      | some (v, rest) =>
        match skipGap rest with
        | some (',' :: rest) =>
          (readElements depth bound rest).map fun (vs, r) => (v :: vs, r)
        | some (']' :: rest) => some ([v], rest)
        | _ => none
  termination_by (depth, bound)
  decreasing_by
    · exact Prod.Lex.right _ (Nat.succ_pos _)
    · exact Prod.Lex.right _ (Nat.lt_succ_self _)

/-- The entries of a table in braces, after those already read, up to its closing brace; the text
has fewer than `bound` of them. -/
def readPairs (depth : Nat) (bound : Nat) (entries : Entries) (t : Text) :
    Option (Entries × Text) :=
  match bound with
  | 0 => none
  | bound + 1 =>
    match dottedKey? t with
    | some ((path, key), '=' :: rest) =>
      match readValue depth (skipBlank rest) with
      | none => none
      | some (v, rest) =>
        match addKey path key v .headed entries with
        | none => none
        | some (_, entries) =>
          match skipBlank rest with
          | ',' :: rest => readPairs depth bound entries rest
          | '\x7d' :: rest => some (entries, rest)
          | _ => none
    | _ => none
  termination_by (depth, bound)
  decreasing_by
    · exact Prod.Lex.right _ (Nat.succ_pos _)
    · exact Prod.Lex.right _ (Nat.lt_succ_self _)

end

/-! ### Documents -/

/-- What is known of a document: its entries, and the path of the header that keys belong to. -/
structure Progress where
  /-- The entries of the root table. -/
  root : Entries
  /-- The keys of the latest header. -/
  header : List Text

/-- One header or key with its value, and the text after its line. -/
def readStatement (p : Progress) (t : Text) : Option (Progress × Text) :=
  match t with
  | '[' :: '[' :: rest => do
    let ((path, key), rest) ← dottedKey? rest
    let (_, root) ← enter false (openElement key) path .headed p.root
    match rest with
    | ']' :: ']' :: rest => return (⟨root, path ++ [key]⟩, ← afterLine? rest)
    | _ => none
  | '[' :: rest => do
    let ((path, key), rest) ← dottedKey? rest
    let (_, root) ← enter false (openTable key) path .headed p.root
    match rest with
    | ']' :: rest => return (⟨root, path ++ [key]⟩, ← afterLine? rest)
    | _ => none
  | t => do
    let ((path, key), rest) ← dottedKey? t
    match rest with
    | '=' :: rest =>
      let (v, rest) ← readValue maxDepth (skipBlank rest)
      let (_, root) ← enter false (addKey path key v) p.header .headed p.root
      return ({ p with root }, ← afterLine? rest)
    | _ => none

/-- The entries of the rest of a document. -/
def readStatements (p : Progress) (t : Text) : Option Entries :=
  match skipGap t with
  | none => none
  | some [] => some p.root
  | some (c :: rest) =>
    match shorter? t (readStatement p (c :: rest)) with
    | none => none
    | some (p, ⟨after, _⟩) => readStatements p after
  termination_by t.length

/-- The entries that a document writes, if it is one; a byte order mark at its front does not
count. -/
def read? (t : Text) : Option Entries :=
  readStatements ⟨[], []⟩ (match t with
    | '\uFEFF' :: rest => rest
    | t => t)

end GrammarBots.Toml

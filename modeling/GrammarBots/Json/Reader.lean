import GrammarBots.Json.Value
import GrammarBots.Number.Double

/-!
# Reading JSON

The syntax of RFC 8259, with four decisions that the grammar of the RFC leaves open: no byte order
mark, at most `maxDepth` arrays and objects inside one another, surrogate escapes only in pairs, and
no number beyond the range of a double (`NumberParts.inRange`).  Each reader returns the rest of the
text together with the proof that it got shorter (`Shorter`), which is why reading a document ends.
-/

namespace GrammarBots.Json

/-- The rest of a text after something was read from it. -/
abbrev Shorter (t : Text) := { rest : Text // rest.length < t.length }

/-- How many arrays and objects may be open at once. -/
def maxDepth : Nat := 127

/-- The blanks between tokens. -/
def isBlank (c : Char) : Bool := c == ' ' || c == '\n' || c == '\t' || c == '\r'

/-- The text from its first token on. -/
def skipBlank (t : Text) : Text := t.dropWhile isBlank

theorem length_skipBlank_le (t : Text) : (skipBlank t).length ≤ t.length :=
  (List.dropWhile_sublist isBlank).length_le

theorem length_lt_of_skipBlank {t rest : Text} {c : Char} (h : skipBlank t = c :: rest) :
    rest.length < t.length := by
  have := length_skipBlank_le t
  simp only [h, List.length_cons] at this
  omega

/-! ### Strings -/

/-- The value of a hexadecimal digit. -/
def hexDigit? (c : Char) : Option Nat :=
  if '0' ≤ c ∧ c ≤ '9' then some (c.toNat - '0'.toNat)
  else if 'a' ≤ c ∧ c ≤ 'f' then some (c.toNat - 'a'.toNat + 10)
  else if 'A' ≤ c ∧ c ≤ 'F' then some (c.toNat - 'A'.toNat + 10)
  else none

/-- The number that four hexadecimal digits write. -/
def hex4? (a b c d : Char) : Option Nat := do
  let a ← hexDigit? a
  let b ← hexDigit? b
  let c ← hexDigit? c
  let d ← hexDigit? d
  return ((a * 16 + b) * 16 + c) * 16 + d

/-- The character of a one-letter escape. -/
def shortEscape? : Char → Option Char
  | '"' => some '"'
  | '\\' => some '\\'
  | '/' => some '/'
  | 'b' => some '\x08'
  | 'f' => some '\x0C'
  | 'n' => some '\n'
  | 'r' => some '\r'
  | 't' => some '\t'
  | _ => none

/-- The character of a numbered escape, and the text after it.  A high surrogate takes the low
surrogate that must follow it. -/
def numberedEscape? : Text → Option (Char × Text)
  | a :: b :: c :: d :: rest =>
    match hex4? a b c d with
    | none => none
    | some n =>
      if 0xD800 ≤ n ∧ n < 0xDC00 then
        match rest with
        | '\\' :: 'u' :: a :: b :: c :: d :: rest =>
          match hex4? a b c d with
          | some low =>
            if 0xDC00 ≤ low ∧ low < 0xE000 then
              some (Char.ofNat (0x10000 + (n - 0xD800) * 0x400 + (low - 0xDC00)), rest)
            else none
          | none => none
        | _ => none
      else if 0xDC00 ≤ n ∧ n < 0xE000 then none
      else some (Char.ofNat n, rest)
  | _ => none

theorem length_lt_of_numberedEscape? {t rest : Text} {c : Char}
    (h : numberedEscape? t = some (c, rest)) : rest.length < t.length := by
  unfold numberedEscape? at h
  repeat' split at h
  all_goals simp_all only [Option.some.injEq, Prod.mk.injEq, reduceCtorEq, List.length_cons]
  all_goals omega

/-- What is shorter than one text is shorter than any longer one. -/
def Shorter.within {t u : Text} (h : t.length ≤ u.length) (r : Shorter t) : Shorter u :=
  ⟨r.1, Nat.lt_of_lt_of_le r.2 h⟩

/-- The characters of a string up to its closing quote, and the text after the quote. -/
def readString (t : Text) : Option (Text × Shorter t) :=
  match t with
  | [] => none
  | '"' :: rest => some ([], ⟨rest, by simp⟩)
  | '\\' :: 'u' :: rest =>
    match h : numberedEscape? rest with
    | none => none
    | some (c, after) =>
      have := length_lt_of_numberedEscape? h
      (readString after).map fun p =>
        (c :: p.1, p.2.within (by simp only [List.length_cons]; omega))
  | '\\' :: e :: rest =>
    match shortEscape? e with
    | none => none
    | some c =>
      (readString rest).map fun p =>
        (c :: p.1, p.2.within (by simp only [List.length_cons]; omega))
  | c :: rest =>
    if c.toNat < 0x20 ∨ c = '\\' then none
    else
      (readString rest).map fun p =>
        (c :: p.1, p.2.within (by simp only [List.length_cons]; omega))
  termination_by t.length
  decreasing_by all_goals simp only [List.length_cons]; omega

/-! ### Numbers -/

/-- The parts of a number literal. -/
structure NumberParts where
  /-- The digits before the point. -/
  whole : Text
  /-- The digits after the point. -/
  fraction : Text
  /-- The exponent. -/
  exponent : Int

/-- Appends decimal digits to a number for as long as it fits into 64 bits, and counts the digits
that are left over. -/
def appendDigits (n : Nat) : Text → Nat × Nat
  | [] => (n, 0)
  | c :: rest =>
    let longer := n * 10 + (c.toNat - '0'.toNat)
    if longer < UInt64.size then appendDigits longer rest else (n, rest.length + 1)

/-- Whether the number is within the range of a double.  Of its digits count those that fit into 64
bits; they are rounded to a double and multiplied with the double next to the power of ten. -/
def NumberParts.inRange (p : NumberParts) : Bool :=
  let (n, left) := appendDigits 0 p.whole
  let (n, dropped) := appendDigits n p.fraction
  let power := p.exponent + left + dropped - p.fraction.length
  if n = 0 ∨ power ≤ 0 then true
  else if 308 < power then false
  else Double.nearest n * Double.nearest (Nat.pow 10 power.toNat) < Double.limit

/-- The digits at the front of a text, if there are any, and the text after them. -/
def digits1? (t : Text) : Option (Text × Text) :=
  match t.takeWhile Char.isDigit with
  | [] => none
  | digits => some (digits, t.dropWhile Char.isDigit)

/-- The fraction part, empty without a point. -/
def fraction? : Text → Option (Text × Text)
  | '.' :: rest => digits1? rest
  | t => some ([], t)

/-- The exponent part, zero without a mark. -/
def exponent? : Text → Option (Int × Text)
  | mark :: rest =>
    if mark = 'e' ∨ mark = 'E' then
      match rest with
      | '+' :: rest => (digits1? rest).map fun (d, r) => ((Double.digitsValue d : Int), r)
      | '-' :: rest => (digits1? rest).map fun (d, r) => (-(Double.digitsValue d : Int), r)
      | rest => (digits1? rest).map fun (d, r) => ((Double.digitsValue d : Int), r)
    else some (0, mark :: rest)
  | [] => some (0, [])

/-- A number without its sign: no leading zero but for zero itself. -/
def unsigned? (t : Text) : Option (NumberParts × Text) := do
  let (whole, rest) ← match t with
    | '0' :: rest => some (['0'], rest)
    | _ => digits1? t
  if whole = ['0'] ∧ (rest.head?.any Char.isDigit) then none
  let (fraction, rest) ← fraction? rest
  let (exponent, rest) ← exponent? rest
  return (⟨whole, fraction, exponent⟩, rest)

/-- A number, as its literal, and the text after it. -/
def readNumber (t : Text) : Option (Text × Shorter t) :=
  let body := match t with
    | '-' :: rest => rest
    | _ => t
  match unsigned? body with
  | some (parts, rest) =>
    if h : parts.inRange ∧ rest.length < t.length then
      some (t.take (t.length - rest.length), ⟨rest, h.2⟩)
    else none
  | none => none

/-- The rest of the text after a literal word. -/
def readWord (word : Text) (t : Text) : Option (Shorter t) :=
  match Text.afterPattern? word t with
  | some rest => if h : rest.length < t.length then some ⟨rest, h⟩ else none
  | none => none

/-! ### Documents -/

mutual

/-- A value with at most `depth` open arrays and objects, and the text after it. -/
def readValue (depth : Nat) (t : Text) : Option (Value × Shorter t) :=
  match h : skipBlank t with
  | [] => none
  | c :: rest =>
    have hlt := length_lt_of_skipBlank h
    if c = '"' then
      match readString rest with
      | some (s, ⟨r, hr⟩) => some (.string s, ⟨r, by omega⟩)
      | none => none
    else if c = '[' then
      match depth with
      | 0 => none
      | depth + 1 =>
        match h' : skipBlank rest with
        | ']' :: r => some (.array [], ⟨r, by have := length_lt_of_skipBlank h'; omega⟩)
        | _ =>
          match readElements depth rest with
          | some (vs, ⟨r, hr⟩) => some (.array vs, ⟨r, by omega⟩)
          | none => none
    else if c = '\x7b' then
      match depth with
      | 0 => none
      | depth + 1 =>
        match h' : skipBlank rest with
        | '\x7d' :: r => some (.object [], ⟨r, by have := length_lt_of_skipBlank h'; omega⟩)
        | _ =>
          match readMembers depth rest with
          | some (ms, ⟨r, hr⟩) => some (.object ms, ⟨r, by omega⟩)
          | none => none
    else
      have hle : (c :: rest).length ≤ t.length := by
        have := length_skipBlank_le t
        rwa [h] at this
      match readWord "null".toList (c :: rest) with
      | some ⟨r, hr⟩ => some (.null, ⟨r, by omega⟩)
      | none =>
        match readWord "true".toList (c :: rest) with
        | some ⟨r, hr⟩ => some (.bool true, ⟨r, by omega⟩)
        | none =>
          match readWord "false".toList (c :: rest) with
          | some ⟨r, hr⟩ => some (.bool false, ⟨r, by omega⟩)
          | none =>
            match readNumber (c :: rest) with
            | some (n, ⟨r, hr⟩) => some (.number n, ⟨r, by omega⟩)
            | none => none
  termination_by (t.length, 0)
  decreasing_by
    all_goals exact Prod.Lex.left _ _ hlt

/-- The elements of an array up to its closing bracket; at least one. -/
def readElements (depth : Nat) (t : Text) : Option (List Value × Shorter t) :=
  match readValue depth t with
  | none => none
  | some (v, ⟨r, hr⟩) =>
    match h : skipBlank r with
    | ']' :: rest => some ([v], ⟨rest, by have := length_lt_of_skipBlank h; omega⟩)
    | ',' :: rest =>
      have hlt : rest.length < t.length := by have := length_lt_of_skipBlank h; omega
      match readElements depth rest with
      | some (vs, ⟨r, hr⟩) => some (v :: vs, ⟨r, by omega⟩)
      | none => none
    | _ => none
  termination_by (t.length, 1)
  decreasing_by
    · exact Prod.Lex.right _ (by decide)
    · exact Prod.Lex.left _ _ hlt

/-- The members of an object up to its closing brace; at least one. -/
def readMembers (depth : Nat) (t : Text) : Option (List (Text × Value) × Shorter t) :=
  match h₀ : skipBlank t with
  | '"' :: rest =>
    have hrest := length_lt_of_skipBlank h₀
    match readString rest with
    | none => none
    | some (name, ⟨afterName, hn⟩) =>
      match h₁ : skipBlank afterName with
      | ':' :: afterColon =>
        have hcolon : afterColon.length < t.length := by
          have := length_lt_of_skipBlank h₁
          omega
        match readValue depth afterColon with
        | none => none
        | some (v, ⟨r, hr⟩) =>
          match h₂ : skipBlank r with
          | '\x7d' :: rest => some ([(name, v)], ⟨rest, by
              have := length_lt_of_skipBlank h₂; omega⟩)
          | ',' :: rest =>
            have hlt : rest.length < t.length := by
              have := length_lt_of_skipBlank h₂
              omega
            match readMembers depth rest with
            | some (ms, ⟨r, hr⟩) => some ((name, v) :: ms, ⟨r, by omega⟩)
            | none => none
          | _ => none
      | _ => none
  | _ => none
  termination_by (t.length, 1)
  decreasing_by
    · exact Prod.Lex.left _ _ hcolon
    · exact Prod.Lex.left _ _ hlt

end

/-- The value that a whole text writes, if it is a JSON document. -/
def read? (t : Text) : Option Value :=
  match readValue maxDepth t with
  | some (v, ⟨rest, _⟩) => if (skipBlank rest).isEmpty then some v else none
  | none => none

end GrammarBots.Json

import GrammarBots.Json.Reader
import GrammarBots.Number.Double
import GrammarBots.Time.Calendar
import GrammarBots.Toml.Value

/-!
# Reading TOML strings, numbers and times

The values of TOML that hold no other values, in the syntax of version 1.0.  Strings come in four
forms: basic and literal, on one line or several.  A bare word is a boolean, a number or a time;
each kind has its own test, and a word that passes none is refused.
-/

namespace GrammarBots.Toml

/-! ### Strings -/

/-- The control characters that no string or comment may hold: all but the tab. -/
def isForbidden (c : Char) : Bool := (c.toNat < 0x20 && c != '\t') || c.toNat == 0x7F

/-- A blank within a line. -/
def isBlank (c : Char) : Bool := c == ' ' || c == '\t'

/-- The character with the number that hexadecimal digits write. -/
def numberedChar? (digits : Text) : Option Char := do
  let values ← digits.mapM Json.hexDigit?
  let n := values.foldl (fun n d => n * 16 + d) 0
  if n.isValidChar then some (Char.ofNat n) else none

/-- The character of a one-letter escape. -/
def shortEscape? : Char → Option Char
  | 'b' => some '\x08'
  | 't' => some '\t'
  | 'n' => some '\n'
  | 'f' => some '\x0C'
  | 'r' => some '\r'
  | '"' => some '"'
  | '\\' => some '\\'
  | _ => none

/-- The character of an escape, read from behind its backslash, and the text after it. -/
def escape? : Text → Option (Char × Text)
  | 'u' :: rest =>
    if rest.length < 4 then none else (numberedChar? (rest.take 4)).map (·, rest.drop 4)
  | 'U' :: rest =>
    if rest.length < 8 then none else (numberedChar? (rest.take 8)).map (·, rest.drop 8)
  | c :: rest => (shortEscape? c).map (·, rest)
  | [] => none

theorem length_lt_of_escape? {t rest : Text} {c : Char} (h : escape? t = some (c, rest)) :
    rest.length < t.length := by
  unfold escape? at h
  repeat' split at h
  all_goals simp_all [Option.map_eq_some_iff]
  all_goals grind

/-- A basic string on one line, read from behind its quote. -/
def basicString? (t : Text) : Option (Text × Text) :=
  match t with
  | [] => none
  | '"' :: rest => some ([], rest)
  | '\\' :: rest =>
    match _h : escape? rest with
    | none => none
    | some (c, after) => (basicString? after).map fun (s, r) => (c :: s, r)
  | c :: rest =>
    if isForbidden c then none else (basicString? rest).map fun (s, r) => (c :: s, r)
  termination_by t.length
  decreasing_by
    · have := length_lt_of_escape? _h
      simp only [List.length_cons]
      omega
    · simp

/-- A literal string on one line, read from behind its quote. -/
def literalString? : Text → Option (Text × Text)
  | [] => none
  | '\x27' :: rest => some ([], rest)
  | c :: rest =>
    if isForbidden c then none else (literalString? rest).map fun (s, r) => (c :: s, r)

/-- The quotes that belong to a string of several lines, of those that follow its closing three: at
most two. -/
def extraQuotes (quote : Char) (t : Text) : Text × Text :=
  let extra := (t.take 2).takeWhile (· == quote)
  (extra, t.drop extra.length)

/-- Whether the text begins with a line break. -/
def startsLine : Text → Bool
  | '\n' :: _ => true
  | '\r' :: '\n' :: _ => true
  | _ => false

/-- The text without the line break at its front. -/
def dropLineBreak : Text → Text
  | '\n' :: rest => rest
  | '\r' :: '\n' :: rest => rest
  | t => t

/-- The text without the blanks and line breaks at its front. -/
def dropBlankLines : Text → Text
  | '\r' :: '\n' :: rest => dropBlankLines rest
  | c :: rest => if isBlank c || c == '\n' then dropBlankLines rest else c :: rest
  | [] => []

theorem length_dropBlankLines_le (t : Text) : (dropBlankLines t).length ≤ t.length := by
  fun_induction dropBlankLines t <;> simp_all <;> omega

/-- The text after a backslash that ends a line: without all blanks and line breaks at its front. -/
def afterContinuation? (t : Text) : Option Text :=
  if startsLine (t.dropWhile isBlank) then some (dropBlankLines t) else none

/-- A basic string of several lines, read from behind its opening quotes and line break. -/
def basicLines? (t : Text) : Option (Text × Text) :=
  match t with
  | [] => none
  | '"' :: '"' :: '"' :: rest => some (extraQuotes '"' rest)
  | '\\' :: rest =>
    match _h : afterContinuation? rest with
    | some after => basicLines? after
    | none =>
      match _h : escape? rest with
      | none => none
      | some (c, after) => (basicLines? after).map fun (s, r) => (c :: s, r)
  | '\r' :: '\n' :: rest => (basicLines? rest).map fun (s, r) => ('\r' :: '\n' :: s, r)
  | '\n' :: rest => (basicLines? rest).map fun (s, r) => ('\n' :: s, r)
  | c :: rest =>
    if isForbidden c then none else (basicLines? rest).map fun (s, r) => (c :: s, r)
  termination_by t.length
  decreasing_by
    · unfold afterContinuation? at _h
      split at _h
      · cases _h
        have := length_dropBlankLines_le rest
        simp only [List.length_cons]
        omega
      · cases _h
    · have := length_lt_of_escape? _h
      simp only [List.length_cons]
      omega
    · simp only [List.length_cons]; omega
    · simp
    · simp

/-- A literal string of several lines, read from behind its opening quotes and line break. -/
def literalLines? : Text → Option (Text × Text)
  | [] => none
  | '\x27' :: '\x27' :: '\x27' :: rest => some (extraQuotes '\x27' rest)
  | '\r' :: '\n' :: rest => (literalLines? rest).map fun (s, r) => ('\r' :: '\n' :: s, r)
  | c :: rest =>
    if isForbidden c && c != '\n' then none
    else (literalLines? rest).map fun (s, r) => (c :: s, r)

/-! ### Numbers -/

/-- The digits of a run in which single underscores may stand between digits. -/
def digitRun? (isDigit : Char → Bool) (t : Text) : Option Text :=
  let parts := Text.splitOn '_' t
  if parts.all fun part => !part.isEmpty && part.all isDigit then some parts.flatten else none

/-- The number that digits write in a base. -/
def valueIn (base : Nat) (digits : Text) : Nat :=
  digits.foldl (fun n c => n * base + (Json.hexDigit? c).getD 0) 0

/-- A run of decimal digits without a needless zero in front. -/
def decimalRun? (t : Text) : Option Text := do
  let digits ← digitRun? Char.isDigit t
  if digits.length > 1 ∧ digits.head? = some '0' then none else some digits

/-- Whether an integer can be held in 128 bits, with or without a sign. -/
def fits128 (n : Int) : Bool := -(Nat.pow 2 127 : Int) ≤ n && n < (Nat.pow 2 128 : Int)

/-- The integer that a word writes. -/
def integer? (t : Text) : Option Int := do
  let n ← match t with
    | '0' :: 'x' :: rest =>
      (digitRun? (fun c => (Json.hexDigit? c).isSome) rest).map fun d => (valueIn 16 d : Int)
    | '0' :: 'o' :: rest =>
      (digitRun? (fun c => '0' ≤ c && c ≤ '7') rest).map fun d => (valueIn 8 d : Int)
    | '0' :: 'b' :: rest =>
      (digitRun? (fun c => c == '0' || c == '1') rest).map fun d => (valueIn 2 d : Int)
    | '+' :: rest => (decimalRun? rest).map fun d => (valueIn 10 d : Int)
    | '-' :: rest => (decimalRun? rest).map fun d => -(valueIn 10 d : Int)
    | t => (decimalRun? t).map fun d => (valueIn 10 d : Int)
  if fits128 n then some n else none

/-- A word without the sign at its front. -/
def dropSign : Text → Text
  | '+' :: rest => rest
  | '-' :: rest => rest
  | t => t

/-- Whether a word is an infinity or no number. -/
def isSpecialFloat (t : Text) : Bool :=
  dropSign t = "inf".toList || dropSign t = "nan".toList

/-- The exponent that a text writes. -/
def exponent? (t : Text) : Option Int :=
  (digitRun? Char.isDigit (dropSign t)).map fun digits =>
    if t.head? = some '-' then -(Double.digitsValue digits : Int) else Double.digitsValue digits

/-- The digits and the power of ten of a floating-point number, which has a fraction, an exponent or
both. -/
def decimal? (t : Text) : Option (Text × Int) := do
  let (mantissa, power?) :=
    match Text.splitOnce? 'e' ((dropSign t).map fun c => if c = 'E' then 'e' else c) with
    | some (m, e) => (m, some e)
    | none => (dropSign t, none)
  let (whole, fraction?) := match Text.splitOnce? '.' mantissa with
    | some (w, f) => (w, some f)
    | none => (mantissa, none)
  if power?.isNone ∧ fraction?.isNone then none
  let whole ← decimalRun? whole
  let fraction ← fraction?.elim (some []) (digitRun? Char.isDigit)
  let power ← power?.elim (some 0) exponent?
  return (whole ++ fraction, power - fraction.length)

/-- Whether a word is a floating-point number within the range of a double. -/
def isFloat (t : Text) : Bool :=
  isSpecialFloat t || (decimal? t).any fun (digits, power) => Double.holds digits power

/-! ### Times -/

/-- The number that a given count of decimal digits writes. -/
def fixedDigits? (count : Nat) (t : Text) : Option Nat :=
  if t.length = count ∧ t.all Char.isDigit then some (valueIn 10 t) else none

/-- Whether a word is a date. -/
def isDate (t : Text) : Bool :=
  match Text.splitOn '-' t with
  | [year, month, day] =>
    match fixedDigits? 4 year, fixedDigits? 2 month, fixedDigits? 2 day with
    | some year, some month, some day => Calendar.Date.isValid ⟨year, month, day⟩
    | _, _, _ => false
  | _ => false

/-- Whether a word is a time of day. -/
def isTimeOfDay (t : Text) : Bool :=
  let (clock, fraction?) := match Text.splitOnce? '.' t with
    | some (c, f) => (c, some f)
    | none => (t, none)
  (fraction?.all fun f => !f.isEmpty && f.all Char.isDigit) &&
    match (Text.splitOn ':' clock).mapM (fixedDigits? 2) with
    | some [hour, minute, second] => hour < 24 && minute < 60 && second ≤ 60
    | _ => false

/-- Whether a word is an offset from UTC. -/
def isOffset (t : Text) : Bool :=
  match t with
  | ['Z'] => true
  | ['z'] => true
  | sign :: rest =>
    (sign == '+' || sign == '-') &&
      match (Text.splitOn ':' rest).mapM (fixedDigits? 2) with
      | some [hour, minute] => hour < 24 && minute < 60
      | _ => false
  | [] => false

/-- Whether a word is a time of day with or without an offset. -/
def isTimeWithOffset (t : Text) : Bool :=
  let clock := t.takeWhile fun c => c.isDigit || c == ':' || c == '.'
  let offset := t.drop clock.length
  isTimeOfDay clock && (offset.isEmpty || isOffset offset)

/-- Whether a word is a date, a time of day, or both with a letter or a blank between them. -/
def isDatetime (t : Text) : Bool :=
  isDate t || isTimeOfDay t ||
    match t.drop 10 with
    | mark :: rest =>
      (mark == 'T' || mark == 't' || mark == ' ') && isDate (t.take 10) && isTimeWithOffset rest
    | [] => false

/-! ### Words -/

/-- The value of a bare word. -/
def word? (t : Text) : Option Value :=
  if t = "true".toList then some (.boolean true)
  else if t = "false".toList then some (.boolean false)
  else match integer? t with
    | some n => some (.integer n)
    | none =>
      if isFloat t then some (.float t)
      else if isDatetime t then some (.datetime t)
      else none

/-- The characters of bare words. -/
def isWordChar (c : Char) : Bool :=
  c.isAlphanum || c == '+' || c == '-' || c == '_' || c == '.' || c == ':'

/-- The bare word at the front of a text: a date and the time after a blank make one word. -/
def frontWord (t : Text) : Text :=
  let word := t.takeWhile isWordChar
  match t.drop word.length with
  | ' ' :: a :: b :: ':' :: _ =>
    if isDate word ∧ a.isDigit ∧ b.isDigit then
      word ++ ' ' :: ((t.drop (word.length + 1)).takeWhile isWordChar)
    else word
  | _ => word

/-- A string, a number or a time, and the text after it. -/
def scalar? (t : Text) : Option (Value × Text) :=
  match t with
  | '"' :: '"' :: '"' :: rest =>
    (basicLines? (dropLineBreak rest)).map fun (s, r) => (.string s, r)
  | '\x27' :: '\x27' :: '\x27' :: rest =>
    (literalLines? (dropLineBreak rest)).map fun (s, r) => (.string s, r)
  | '"' :: rest => (basicString? rest).map fun (s, r) => (.string s, r)
  | '\x27' :: rest => (literalString? rest).map fun (s, r) => (.string s, r)
  | t =>
    let word := frontWord t
    (word? word).map fun v => (v, t.drop word.length)

end GrammarBots.Toml

import GrammarBots.Text.Basic

/-!
# Punycode

A text with characters outside of ASCII in letters, digits and hyphens: the ASCII characters, a
hyphen, and then the other characters in ascending order, each as the number of steps that a counter
over code points and positions takes to reach it.  The numbers are written with a variable number of
digits to the base 36 and an adaptive threshold.  `Punycode.encode` writes them and
`Punycode.decode?` reads them.
-/

namespace GrammarBots.Punycode

/-! ### Digits and thresholds -/

/-- A digit to the base 36: letters, then digits. -/
def digit (n : Nat) : Char :=
  if n < 26 then Char.ofNat ('a'.toNat + n) else Char.ofNat ('0'.toNat + n - 26)

/-- The value of a digit to the base 36. -/
def digitValue? (c : Char) : Option Nat :=
  if 'a' ≤ c ∧ c ≤ 'z' then some (c.toNat - 'a'.toNat)
  else if 'A' ≤ c ∧ c ≤ 'Z' then some (c.toNat - 'A'.toNat)
  else if c.isDigit then some (c.toNat - '0'.toNat + 26)
  else none

/-- The threshold of the digit at a position that is a multiple of 36. -/
def threshold (position bias : Nat) : Nat :=
  if position ≤ bias then 1 else if bias + 26 ≤ position then 26 else position - bias

/-- Divides by 35 until the result is small; counts the divisions in steps of 36. -/
def scale (delta steps : Nat) : Nat × Nat :=
  if 455 < delta then scale (delta / 35) (steps + 36) else (delta, steps)
  termination_by delta
  decreasing_by exact Nat.div_lt_self (by omega) (by omega)

/-- The bias after a number, where `count` characters are done. -/
def adapt (delta count : Nat) (first : Bool) : Nat :=
  let delta := if first then delta / 700 else delta / 2
  let (delta, steps) := scale (delta + delta / count) 0
  steps + 36 * delta / (delta + 38)

/-! ### Writing -/

/-- A number with a variable number of digits. -/
def number (bias position n : Nat) : Text :=
  let t := threshold position bias
  if _h : n < t then [digit n]
  else digit (t + (n - t) % (36 - t)) :: number bias (position + 36) ((n - t) / (36 - t))
  termination_by n
  decreasing_by
    have h₁ : 1 ≤ threshold position bias := by unfold threshold; split <;> (try split) <;> omega
    have h₂ := Nat.div_le_self (n - threshold position bias) (36 - threshold position bias)
    simp only [t] at _h
    omega

/-- The state of writing the characters outside of ASCII. -/
structure State where
  /-- The steps since the last number. -/
  delta : Nat
  /-- The bias. -/
  bias : Nat
  /-- How many characters are done. -/
  done : Nat
  /-- What was written, last character first. -/
  written : Text

/-- Goes through the label for one code point. -/
def writeCodePoint (basic : Nat) (n : Nat) (s : State) (c : Char) : State :=
  if c.toNat < n then { s with delta := s.delta + 1 }
  else if c.toNat = n then
    { delta := 0
      bias := adapt s.delta (s.done + 1) (s.done == basic)
      done := s.done + 1
      written := (number s.bias 36 s.delta).reverse ++ s.written }
  else s

/-- Writes the characters with the given code points, which ascend from `previous` on. -/
def writeAll (label : Text) (basic previous : Nat) (s : State) : List Nat → State
  | [] => s
  | n :: rest =>
    let s := { s with delta := s.delta + (n - previous) * (s.done + 1) }
    let s := label.foldl (writeCodePoint basic n) s
    writeAll label basic (n + 1) { s with delta := s.delta + 1 } rest

/-- The Punycode of a text. -/
def encode (label : Text) : Text :=
  let basic := label.filter fun c => c.toNat < 128
  let others := ((label.filter fun c => 128 ≤ c.toNat).map Char.toNat).mergeSort
  let start := basic ++ if basic.isEmpty then [] else ['-']
  let s := writeAll label basic.length 128 ⟨0, 72, basic.length, []⟩ others.eraseDups
  start ++ s.written.reverse

/-! ### Reading -/

/-- The state of reading the characters outside of ASCII. -/
structure Progress where
  /-- The code point that the counter has reached. -/
  codePoint : Nat := 128
  /-- The position that the counter has reached. -/
  position : Nat := 0
  /-- The bias. -/
  bias : Nat := 72
  /-- The position of the next digit, as a multiple of 36. -/
  digitPosition : Nat := 36
  /-- What the next digit counts. -/
  weight : Nat := 1
  /-- The number that the digits before it write. -/
  steps : Nat := 0
  /-- The characters so far. -/
  characters : Text

/-- Takes the steps of a number that is complete and puts in the character that is reached. -/
def Progress.arrive? (p : Progress) : Option Progress :=
  let count := p.characters.length + 1
  let codePoint := p.codePoint + (p.position + p.steps) / count
  let position := (p.position + p.steps) % count
  if codePoint.isValidChar then
    some {
      codePoint
      position := position + 1
      bias := adapt p.steps count (p.position == 0)
      characters :=
        p.characters.take position ++ Char.ofNat codePoint :: p.characters.drop position }
  else none

/-- Reads a digit. -/
def Progress.read? (p : Progress) (c : Char) : Option Progress := do
  let d ← digitValue? c
  let t := threshold p.digitPosition p.bias
  let p := { p with steps := p.steps + d * p.weight }
  if d < t then p.arrive?
  else some { p with digitPosition := p.digitPosition + 36, weight := p.weight * (36 - t) }

/-- What comes before the last hyphen, if anything does, and what comes after it. -/
def splitHyphen (t : Text) : Text × Text :=
  match Text.splitOnce? '-' t.reverse with
  | some (after, c :: before) => ((c :: before).reverse, after.reverse)
  | _ => ([], t)

/-- The text with the given Punycode.  The last number must be complete. -/
def decode? (t : Text) : Option Text := do
  let (basic, digits) := splitHyphen t
  let p ← digits.foldlM Progress.read? { characters := basic }
  if p.digitPosition = 36 then some p.characters else none

end GrammarBots.Punycode

import GrammarBots.Text.Basic
import GrammarBots.Text.CompositionTable

/-!
# Composed characters

A letter with marks can be written as one character or as several, and marks on different sides of a
letter in any order.  `Text.composed` gives the one form in which as few characters as possible are
used (normalisation form C): all characters are taken apart, the marks after a letter are sorted by
their class, and what can be composed is composed again.
-/

namespace GrammarBots.Text

/-! ### Parts of characters -/

/-- The combining class of a character; zero if it is no mark. -/
def combiningClass (c : Char) : Nat :=
  let n := c.toNat
  if n < 0x300 then 0
  else ((CompositionTable.combiningClasses.find? fun (first, last, _) =>
    first ≤ n && n ≤ last).map fun (_, _, cls) => cls).getD 0

/-- The neighbours in a list, two at a time. -/
def inPairs : Text → List (Char × Char)
  | a :: b :: rest => (a, b) :: inPairs rest
  | _ => []

/-- The characters of a family, each with its first part in front of it. -/
def members (f : CompositionTable.Family) : List (Char × Char) := inPairs f.members.toList

/-- A syllable of Hangul: two or three letters by their numbers, the last one zero if there are
two. -/
def syllable (lead vowel tail : Nat) : Char :=
  Char.ofNat (0xAC00 + (lead * 21 + vowel) * 28 + tail)

/-- The character that two characters compose, if there is one. -/
def compose? (a b : Char) : Option Char :=
  let m := a.toNat
  let n := b.toNat
  if 0x1100 ≤ m ∧ m < 0x1113 ∧ 0x1161 ≤ n ∧ n < 0x1176 then
    some (syllable (m - 0x1100) (n - 0x1161) 0)
  else if 0xAC00 ≤ m ∧ m < 0xD7A4 ∧ (m - 0xAC00) % 28 = 0 ∧ 0x11A8 ≤ n ∧ n < 0x11C3 then
    some (Char.ofNat (m + (n - 0x11A7)))
  else CompositionTable.families.findSome? fun f =>
    if f.second = n then (members f).lookup a else none

/-- The two parts of a composed character. -/
def parts? (c : Char) : Option (Char × Char) :=
  let n := c.toNat
  if n < 0xC0 then none
  else if 0xAC00 ≤ n ∧ n < 0xD7A4 then
    let i := n - 0xAC00
    if i % 28 = 0 then
      some (Char.ofNat (0x1100 + i / 588), Char.ofNat (0x1161 + i % 588 / 28))
    else some (Char.ofNat (n - i % 28), Char.ofNat (0x11A7 + i % 28))
  else CompositionTable.families.findSome? fun f =>
    ((members f).find? (·.2 == c)).map fun (a, _) => (a, Char.ofNat f.second)

/-- The parts of a character that is composed in at most `depth` steps. -/
def decompose : (depth : Nat) → Char → Text
  | 0, c => [c]
  | depth + 1, c =>
    match parts? c with
    | some (a, b) => decompose depth a ++ [b]
    | none => [c]

/-! ### Normalisation -/

/-- A reversed text with one more character; a mark goes before those of a greater class. -/
def insertMark (c : Char) : Text → Text
  | [] => [c]
  | d :: rest =>
    if combiningClass c ≠ 0 ∧ combiningClass c < combiningClass d then d :: insertMark c rest
    else c :: d :: rest

/-- The text with the marks after each letter in order. -/
def sortMarks (t : Text) : Text := (t.foldl (fun sorted c => insertMark c sorted) []).reverse

/-- Composes what follows a character.  `marks` are those met since that could not be composed with
it, last one first; they hide it from marks of the same class and from letters. -/
def composeFrom (c : Char) (marks : Text) : Text → Text
  | [] => c :: marks.reverse
  | d :: rest =>
    let meets := marks.head?.all fun m => combiningClass m < combiningClass d
    match if meets then compose? c d else none with
    | some composed => composeFrom composed marks rest
    | none =>
      if combiningClass d = 0 then c :: marks.reverse ++ composeFrom d [] rest
      else composeFrom c (d :: marks) rest

/-- The composed form of a text. -/
def composed (t : Text) : Text :=
  -- No character has more than a letter and three marks.
  match sortMarks (t.flatMap (decompose 3)) with
  | [] => []
  | c :: rest => composeFrom c [] rest

end GrammarBots.Text

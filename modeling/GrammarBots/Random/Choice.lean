import GrammarBots.Random.ChaCha

/-!
# Choosing at random

What an expansion needs of chance is one operation: from a state, an index below a positive count
and the next state.  `Chooser` is that operation for any kind of state, so that a statement about
expansion can range over every sequence of choices.  `Generator` is the seeded instance: it draws
words of the ChaCha12 stream and makes the choice uniform by refusing the draws that would favour
some index.
-/

namespace GrammarBots

/-- A way of choosing an index below a positive count, with a state that it passes on. -/
class Chooser (γ : Type) where
  /-- The index chosen below `n + 1`, and the state after the choice. -/
  choose : γ → (n : Nat) → Fin (n + 1) × γ

/-- A position in the word stream of a seed. -/
structure Generator where
  /-- The key that the seed was spread over. -/
  key : ChaCha.Key
  /-- How many words of the stream have been drawn. -/
  drawn : Nat

namespace Generator

/-- The generator at the beginning of the stream of a seed. -/
def ofSeed (seed : UInt64) : Generator := ⟨ChaCha.keyOfSeed seed, 0⟩

/-- The next word, and the generator after it. -/
def next (g : Generator) : UInt64 × Generator :=
  (ChaCha.word64 g.key g.drawn, { g with drawn := g.drawn + 1 })

/-- The largest low half that a draw may have: the count shifted up to its top bit, less one. -/
def zone (count : Nat) : Nat := count * Nat.pow 2 (63 - Nat.log2 count) - 1

/-- Draws until a word times the count has a low half within the zone; its high half is the choice.
Less than half of all words are refused, so among `attempts` draws one is taken. -/
def chooseWithin (count : Nat) (pos : 0 < count) :
    (attempts : Nat) → Generator → Fin count × Generator
  | 0, g => (⟨0, pos⟩, g)
  | attempts + 1, g =>
    let (word, g) := g.next
    if word.toNat * count % UInt64.size ≤ zone count then
      (⟨word.toNat * count / UInt64.size,
        Nat.div_lt_of_lt_mul (Nat.mul_lt_mul_of_pos_right word.toNat_lt pos)⟩, g)
    else chooseWithin count pos attempts g

instance : Chooser Generator where
  choose g n := chooseWithin (n + 1) (Nat.succ_pos n) 256 g

end Generator

end GrammarBots

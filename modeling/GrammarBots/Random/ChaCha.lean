/-!
# The ChaCha12 key stream

A reproducible source of 64-bit words: the ChaCha block function with twelve rounds, keyed from one
64-bit seed.  The stream is a function of the position (`word64`), so a generator is its key and the
count of words it has given out.
-/

namespace GrammarBots.ChaCha

/-- The sixteen words of a block. -/
abbrev Block := Vector UInt32 16

/-- The word rotated left by `k` bits, for `0 < k < 32`. -/
def rotateLeft (w : UInt32) (k : UInt32) : UInt32 := (w <<< k) ||| (w >>> (32 - k))

/-- Mixes the four words at the given places. -/
def quarterRound (b : Block) (i j k l : Fin 16) : Block :=
  let a := b[i] + b[j]
  let d := rotateLeft (b[l] ^^^ a) 16
  let c := b[k] + d
  let e := rotateLeft (b[j] ^^^ c) 12
  let a := a + e
  let d := rotateLeft (d ^^^ a) 8
  let c := c + d
  let e := rotateLeft (e ^^^ c) 7
  (((b.set i a).set j e).set k c).set l d

/-- A round over the columns and a round over the diagonals. -/
def doubleRound (b : Block) : Block :=
  let b := quarterRound b 0 4 8 12
  let b := quarterRound b 1 5 9 13
  let b := quarterRound b 2 6 10 14
  let b := quarterRound b 3 7 11 15
  let b := quarterRound b 0 5 10 15
  let b := quarterRound b 1 6 11 12
  let b := quarterRound b 2 7 8 13
  quarterRound b 3 4 9 14

/-- A key of eight words. -/
abbrev Key := Vector UInt32 8

/-- The block of the stream with the given number: twelve rounds, then the initial state added. -/
def block (key : Key) (number : UInt64) : Block :=
  let start : Block := #v[0x61707865, 0x3320646e, 0x79622d32, 0x6b206574,
    key[0], key[1], key[2], key[3], key[4], key[5], key[6], key[7],
    number.toUInt32, (number >>> 32).toUInt32, 0, 0]
  let mixed := Nat.repeat doubleRound 6 start
  Vector.zipWith (· + ·) mixed start

/-- One step of the congruential generator that spreads a seed over a key, and its output word. -/
def seedStep (state : UInt64) : UInt64 × UInt32 :=
  let state := state * 6364136223846793005 + 11634580027462260723
  let x := (((state >>> 18) ^^^ state) >>> 27).toUInt32
  let turn := (state >>> 59).toUInt32
  (state, if turn = 0 then x else (x >>> turn) ||| (x <<< (32 - turn)))

/-- The first `n` output words of the generator that starts in `state`. -/
def seedWords : Nat → UInt64 → List UInt32
  | 0, _ => []
  | n + 1, state =>
    let (state, word) := seedStep state
    word :: seedWords n state

/-- The key of a seed: the first eight output words. -/
def keyOfSeed (seed : UInt64) : Key :=
  let words := seedWords 8 seed
  Vector.ofFn fun i => words.getD i.val 0

/-- The 64-bit word at a position of the stream; of two words, the low half comes first. -/
def word64 (key : Key) (position : Nat) : UInt64 :=
  let b := block key (position / 8).toUInt64
  let low := b.toArray.getD (2 * (position % 8)) 0
  let high := b.toArray.getD (2 * (position % 8) + 1) 0
  low.toUInt64 ||| (high.toUInt64 <<< 32)

end GrammarBots.ChaCha

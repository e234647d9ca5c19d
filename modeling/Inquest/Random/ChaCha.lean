/-! # The ChaCha stream of words

A key of eight words opens an endless stream of words, sixteen a block. A block is the sum of a state,
which holds the key and the number of the block, and of the same state after the rounds.

* `word`: the stream, one word after the other.
-/

namespace Inquest.Random

/-- The sixteen words of a state. -/
abbrev State := Vector UInt32 16

/-- The eight words of a key. -/
abbrev Key := Vector UInt32 8

/-- A word turned to the left. -/
def rotateLeft (x n : UInt32) : UInt32 := (x <<< n) ||| (x >>> (32 - n))

/-- Four words of a state stirred. -/
def quarterRound (s : State) (a b c d : Fin 16) : State :=
  let s := s.set a (s[a] + s[b])
  let s := s.set d (rotateLeft (s[d] ^^^ s[a]) 16)
  let s := s.set c (s[c] + s[d])
  let s := s.set b (rotateLeft (s[b] ^^^ s[c]) 12)
  let s := s.set a (s[a] + s[b])
  let s := s.set d (rotateLeft (s[d] ^^^ s[a]) 8)
  let s := s.set c (s[c] + s[d])
  s.set b (rotateLeft (s[b] ^^^ s[c]) 7)

/-- The columns stirred, then the diagonals. -/
def doubleRound (s : State) : State :=
  let s := quarterRound s 0 4 8 12
  let s := quarterRound s 1 5 9 13
  let s := quarterRound s 2 6 10 14
  let s := quarterRound s 3 7 11 15
  let s := quarterRound s 0 5 10 15
  let s := quarterRound s 1 6 11 12
  let s := quarterRound s 2 7 8 13
  quarterRound s 3 4 9 14

/-- How often a state is stirred in columns and diagonals. -/
def doubleRounds : Nat := 6

/-- The state of a block: four fixed words, the key, the block's number in two words, and two words
that are zero. -/
def blockState (key : Key) (block : UInt64) : State :=
  #v[0x61707865, 0x3320646e, 0x79622d32, 0x6b206574,
    key[0], key[1], key[2], key[3], key[4], key[5], key[6], key[7],
    block.toUInt32, (block >>> 32).toUInt32, 0, 0]

/-- A block of the stream. -/
def block (key : Key) (number : UInt64) : State :=
  let start := blockState key number
  Vector.zipWith (· + ·) (Nat.repeat doubleRound doubleRounds start) start

/-- A word of the stream. -/
def word (key : Key) (n : Nat) : UInt32 :=
  (block key (UInt64.ofNat (n / 16))).get ⟨n % 16, Nat.mod_lt _ (by decide)⟩

/-- Two words of the stream as one of 64 bits, the low word first. -/
def wideWord (key : Key) (n : Nat) : UInt64 :=
  (word key (2 * n)).toUInt64 ||| ((word key (2 * n + 1)).toUInt64 <<< 32)

end Inquest.Random

import Inquest.Random.ChaCha

/-! # A choice that hangs on a seed alone

`choose seed n` is one of `n` places. The seed is spread over a key, and the draws of its stream are
scaled down to places; a draw that would favour some places over others is passed over.

* `choose`: the place is below `n` by its type, whatever is drawn.
-/

namespace Inquest.Random

/-- A step of the generator that spreads a seed. -/
def spread (state : UInt64) : UInt64 := state * 6364136223846793005 + 11634580027462260723

/-- The word of a state of that generator. -/
def scrambled (state : UInt64) : UInt32 :=
  let x := (((state >>> 18) ^^^ state) >>> 27).toUInt32
  let turn := (state >>> 59).toUInt32
  (x >>> turn) ||| (x <<< (32 - turn))

/-- The state of the generator after `n` steps. -/
def spreadTimes : Nat → UInt64 → UInt64
  | 0, state => state
  | n + 1, state => spreadTimes n (spread state)

/-- The key of a seed. -/
def keyOf (seed : UInt64) : Key := Vector.ofFn fun i => scrambled (spreadTimes (i + 1) seed)

/-- The place of a draw among `n`: the draw is to all draws as the place is to `n`. -/
def place (n : Nat) (h : 0 < n) (draw : UInt64) : Fin n :=
  ⟨draw.toNat * n / 0x1_0000_0000_0000_0000, by
    rw [Nat.div_lt_iff_lt_mul (by decide), Nat.mul_comm]
    exact Nat.mul_lt_mul_of_pos_left draw.toNat_lt h⟩

/-- Whether a draw counts: what is lost in scaling must stay within the largest multiple of `n` by a
power of two below `2 ^ 64`. -/
def counts (n : Nat) (draw : UInt64) : Bool :=
  decide (draw.toNat * n % 0x1_0000_0000_0000_0000 ≤ n <<< (63 - n.log2) - 1)

/-- How many draws are made at most. Each is passed over with a chance of less than one half, so that
the last is never needed. -/
def patience : Nat := 256

/-- The first draw that counts, of those from the `i`-th on. -/
def firstDraw (key : Key) (n : Nat) : (left i : Nat) → UInt64
  | 0, i => wideWord key i
  | left + 1, i =>
    let draw := wideWord key i
    if counts n draw then draw else firstDraw key n left (i + 1)

/-- The place among `n` that a seed chooses. -/
def choose (seed : UInt64) (n : Nat) (h : 0 < n) : Fin n :=
  place n h (firstDraw (keyOf seed) n patience 0)

end Inquest.Random

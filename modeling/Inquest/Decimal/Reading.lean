import Inquest.Decimal.Binary64

/-! # The double of a decimal numeral

A numeral gives a significand of at most 64 bits and a power of ten. Its double is the rounded
significand, multiplied or divided by the rounded power, so it is within a few units of the last
place of the numeral's value but need not be the nearest double. A power beyond `10 ^ 308` is out
of range; one below `10 ^ -308` is taken off in steps.
-/

namespace Inquest.Decimal

/-- The largest power of ten that is a double. -/
def largestPower : Nat := 308

/-- The double nearest to a power of ten. -/
def powerOfTen (k : Nat) : Binary64 := (Binary64.ofNat? (Nat.pow 10 k)).getD default

/-- A double divided by the largest power of ten, `steps` times over. -/
def lower : (steps : Nat) → Binary64 → Binary64
  | 0, x => x
  | steps + 1, x => lower steps ((x.div? (powerOfTen largestPower)).getD x)

/-- A double of at most 64 bits divided by a power of ten. The third step down leaves zero. -/
def overPowerOfTen (x : Binary64) (k : Nat) : Option Binary64 :=
  let steps := (k - 1) / largestPower
  if 3 ≤ steps then some (.zero x.negative)
  else (lower steps x).div? (powerOfTen (k - largestPower * steps))

/-- A double times a power of ten; `none` when it leaves the range. -/
def timesPowerOfTen (x : Binary64) (k : Nat) : Option Binary64 :=
  if x.isZero then some x
  else if k ≤ largestPower then x.mul? (powerOfTen k)
  else none

/-- The double of `significand * 10 ^ power`. -/
def ofScaled (negative : Bool) (significand : Nat) (power : Int) : Option Binary64 := do
  let x ← Binary64.ofNat? significand
  let y ← if 0 ≤ power then timesPowerOfTen x power.toNat else overPowerOfTen x (-power).toNat
  return if negative then y.neg else y

end Inquest.Decimal

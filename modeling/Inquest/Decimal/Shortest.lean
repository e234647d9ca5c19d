import Inquest.Decimal.Binary64

/-! # The shortest decimal that reads back

`shortest` gives the decimal with the fewest digits among those nearer to a double than to any
other, and of these the nearest to its value. The reals that round to a double form an interval,
which holds its ends when the mantissa is even; on the grid of decimals with `n` digits only the
two neighbours of the value have to be tried.
-/

namespace Inquest.Decimal

/-- The decimal `digits * 10 ^ power`. -/
structure Numeral where
  digits : Nat
  power : Int
  deriving Repr, DecidableEq

/-- Which of two decimals equally far from the value is taken. -/
inductive Tie
  | even
  | up
  deriving Repr, DecidableEq

/-- `10 ^ k` as a quotient of two natural numbers. -/
def tenPow (k : Int) : Nat × Nat := if 0 ≤ k then (Nat.pow 10 k.toNat, 1) else (1, Nat.pow 10 (-k).toNat)

/-- A quotient with its rounding interval, all over one denominator. -/
structure Interval where
  low : Nat
  value : Nat
  high : Nat
  den : Nat
  closed : Bool

/-- The reals that round to a double other than zero. -/
def Binary64.interval (x : Binary64) : Interval :=
  let m := x.mantissa
  let (n, d) := Binary64.twoPow (x.exponent - 2)
  let below := if m = 0x10_0000_0000_0000 ∧ x.exponent ≠ -1074 then 1 else 2
  ⟨(4 * m - below) * n, 4 * m * n, (4 * m + 2) * n, d, m % 2 == 0⟩

/-- Whether `digits * 10 ^ power` lies in the interval. -/
def Interval.has (i : Interval) (digits : Nat) (power : Int) : Bool :=
  let (n, d) := tenPow power
  let x := digits * n * i.den
  if i.closed then decide (i.low * d ≤ x) && decide (x ≤ i.high * d)
  else decide (i.low * d < x) && decide (x < i.high * d)

/-- The power of ten with `10 ^ p ≤ value < 10 ^ (p + 1)`, from an estimate within one of it. -/
def Interval.magnitude (i : Interval) : Int :=
  let guess := (((Nat.log2 i.value : Int) - Nat.log2 i.den) * 1233) / 4096
  let reaches (p : Int) : Bool :=
    let (n, d) := tenPow p
    decide (n * i.den ≤ i.value * d)
  if reaches (guess + 1) then guess + 1
  else if reaches guess then guess
  else if reaches (guess - 1) then guess - 1
  else guess - 2

/-- The decimal on the grid of `10 ^ power` that lies in the interval, the nearer of two. -/
def Interval.onGrid (i : Interval) (tie : Tie) (power : Int) : Option Nat :=
  let (n, d) := tenPow power
  let num := i.value * d
  let den := i.den * n
  let down := num / den
  let rest := num % den
  match i.has down power, i.has (down + 1) power with
  | false, false => none
  | true, false => some down
  | false, true => some (down + 1)
  | true, true =>
    if 2 * rest < den then some down
    else if den < 2 * rest then some (down + 1)
    else
      match tie with
      | .up => some (down + 1)
      | .even => some (if down % 2 = 0 then down else down + 1)

/-- The decimal with its trailing zeros moved into the power; `fuel` bounds their number. -/
def Numeral.trimZeros : (fuel : Nat) → Numeral → Numeral
  | 0, x => x
  | fuel + 1, x =>
    if x.digits ≠ 0 ∧ x.digits % 10 = 0 then trimZeros fuel ⟨x.digits / 10, x.power + 1⟩ else x

/-- The shortest decimal of a double's magnitude. -/
def shortest (tie : Tie) (x : Binary64) : Numeral :=
  if x.isZero then ⟨0, 0⟩
  else
    let i := x.interval
    let top := i.magnitude
    let found := (List.range 17).findSome? fun (extra : Nat) =>
      let power := top - extra
      (i.onGrid tie power).map fun digits => (⟨digits, power⟩ : Numeral)
    (found.getD ⟨0, 0⟩).trimZeros 20

end Inquest.Decimal

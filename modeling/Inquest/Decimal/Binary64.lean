/-! # Double-precision numbers

A finite double is a sign and the code of its magnitude: the codes count the magnitudes upwards from
zero, so neighbouring doubles have neighbouring codes. The magnitude of a code is
`mantissa * 2 ^ exponent`.

* `round`: the double nearest to a quotient, a tie going to the even code; `none` past the largest.
* `mantissa_lt`: a mantissa has at most 53 bits.
-/

namespace Inquest.Decimal

/-- The number of finite magnitudes. -/
def magnitudes : Nat := 2047 * 0x10_0000_0000_0000

/-- A finite double. -/
structure Binary64 where
  negative : Bool
  code : Nat
  finite : code < magnitudes
  deriving DecidableEq

namespace Binary64

/-- Zero with a sign. -/
def zero (negative : Bool) : Binary64 := ⟨negative, 0, by decide⟩

instance : Inhabited Binary64 := ⟨zero false⟩

/-- Whether the number is zero, of either sign. -/
def isZero (x : Binary64) : Bool := x.code == 0

/-- The number with the other sign. -/
def neg (x : Binary64) : Binary64 := { x with negative := !x.negative }

/-- The whole number in the magnitude. -/
def mantissa (x : Binary64) : Nat :=
  if x.code < 0x10_0000_0000_0000 then x.code else 0x10_0000_0000_0000 + x.code % 0x10_0000_0000_0000

/-- The power of two in the magnitude. -/
def exponent (x : Binary64) : Int :=
  if x.code < 0x10_0000_0000_0000 then -1074 else (x.code / 0x10_0000_0000_0000 : Nat) - 1075

theorem mantissa_lt (x : Binary64) : x.mantissa < 0x20_0000_0000_0000 := by
  unfold mantissa
  split <;> omega

/-- `2 ^ e` as a quotient of two natural numbers. -/
def twoPow (e : Int) : Nat × Nat := if 0 ≤ e then (Nat.pow 2 e.toNat, 1) else (1, Nat.pow 2 (-e).toNat)

/-- The magnitude as a quotient of two natural numbers. -/
def ratio (x : Binary64) : Nat × Nat :=
  let (n, d) := twoPow x.exponent
  (x.mantissa * n, d)

/-- `num / den` to the nearest integer, a tie going to the even one. -/
def nearest (num den : Nat) : Nat :=
  let q := num / den
  let r := num % den
  if den < 2 * r ∨ (2 * r = den ∧ q % 2 = 1) then q + 1 else q

/-- The exponent at which `num / den` has a mantissa of 53 bits, or the least one. -/
def exponentFor (num den : Nat) : Int :=
  let e := (Nat.log2 num : Int) - Nat.log2 den - 53
  let (n, d) := twoPow e
  max (-1074) (if 0x20_0000_0000_0000 * (den * n) ≤ num * d then e + 1 else e)

/-- The double nearest to `num / den`. -/
def round (negative : Bool) (num den : Nat) : Option Binary64 :=
  if num = 0 then some (zero negative)
  else
    let e := exponentFor num den
    let (n, d) := twoPow e
    let code := (e + 1074).toNat * 0x10_0000_0000_0000 + nearest (num * d) (den * n)
    if h : code < magnitudes then some ⟨negative, code, h⟩ else none

/-- The double nearest to a natural number. -/
def ofNat? (n : Nat) : Option Binary64 := round false n 1

/-- The rounded product. -/
def mul? (x y : Binary64) : Option Binary64 :=
  let (a, b) := x.ratio
  let (c, d) := y.ratio
  round (x.negative != y.negative) (a * c) (b * d)

/-- The rounded quotient; a divisor of zero has none. -/
def div? (x y : Binary64) : Option Binary64 :=
  let (a, b) := x.ratio
  let (c, d) := y.ratio
  if c = 0 then none else round (x.negative != y.negative) (a * d) (b * c)

end Binary64

end Inquest.Decimal

import Inquest.Decimal.Shortest

/-! # Written doubles

A `Layout` says which magnitudes are written with a plain decimal point and which with an exponent,
and whether a whole number keeps `.0`. `plainLayout` never uses an exponent; `dataLayout` is the form
of numbers in written data.
-/

namespace Inquest.Decimal

/-- How a decimal is laid out. -/
structure Layout where
  /-- The powers of ten of the leading digit that are written plainly, if only some are. -/
  plain : Option (Int × Int)
  /-- Whether a whole number ends in `.0`. -/
  keepsPoint : Bool
  tie : Tie

/-- Plain digits for every magnitude, no point in a whole number. -/
def plainLayout : Layout := ⟨none, false, .up⟩

/-- Plain digits from `1e-5` to below `1e16`, with a point; an exponent elsewhere. -/
def dataLayout : Layout := ⟨some (-5, 15), true, .even⟩

/-- The decimal digits of a natural number. -/
def natDigits (n : Nat) : List Char := Nat.toDigits 10 n

/-- Digits with the point after the first `point` of them, zeros filling the gaps. -/
def positional (keepsPoint : Bool) (digits : List Char) (point : Int) : List Char :=
  if point ≤ 0 then
    '0' :: '.' :: (List.replicate (-point).toNat '0' ++ digits)
  else
    let n := point.toNat
    if n < digits.length then digits.take n ++ '.' :: digits.drop n
    else
      digits ++ List.replicate (n - digits.length) '0' ++ (if keepsPoint then ['.', '0'] else [])

/-- Digits with a power of ten, its sign always written. -/
def scientific (digits : List Char) (power : Int) : List Char :=
  let fraction := digits.drop 1
  digits.take 1 ++ (if fraction.isEmpty then [] else '.' :: fraction) ++
    ['e', if power < 0 then '-' else '+'] ++ natDigits power.natAbs

/-- A double in a layout. -/
def Layout.write (l : Layout) (x : Binary64) : List Char :=
  let sign := if x.negative then ['-'] else []
  let magnitude :=
    if x.isZero then if l.keepsPoint then ['0', '.', '0'] else ['0']
    else
      let d := shortest l.tie x
      let digits := natDigits d.digits
      let leading := d.power + digits.length - 1
      match l.plain with
      | some (low, high) =>
        if low ≤ leading ∧ leading ≤ high then positional l.keepsPoint digits (leading + 1)
        else scientific digits leading
      | none => positional l.keepsPoint digits (leading + 1)
  sign ++ magnitude

end Inquest.Decimal

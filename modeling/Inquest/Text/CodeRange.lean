/-! # Sets of characters as ranges of code points

A character property of the Unicode standard is a table of `CodeRange`s; `CodeTable.has` looks a
character up in it. A range may step by more than one, since many scripts alternate capital and
small letters.
-/

namespace Inquest.Text

/-- The code points `first`, `first + step`, ... up to `last`. -/
structure CodeRange where
  first : Nat
  last : Nat
  step : Nat
  deriving Repr, DecidableEq

/-- Whether a code point lies in the range. -/
def CodeRange.has (r : CodeRange) (n : Nat) : Bool :=
  decide (r.first ≤ n) && decide (n ≤ r.last) && decide ((n - r.first) % r.step = 0)

/-- A set of characters. -/
abbrev CodeTable := List CodeRange

/-- Whether a character lies in one of the table's ranges. -/
def CodeTable.has (t : CodeTable) (c : Char) : Bool :=
  t.any fun r => r.has c.toNat

end Inquest.Text

import Inquest.Decimal.Notation
import Inquest.Proofs.Decimal.Nearest

/-! # The digits of a written double

A decimal is only taken if it lies in the rounding interval of the double (`has_of_onGrid`). The
interval of a double other than zero lies above zero, so the digits that are found are never zero.

* `shortest_digits`: a double is written with digits that do not denote zero, unless no decimal is
  found at all.
-/

namespace Inquest.Decimal

theorem tenPow_pos (k : Int) : 0 < (tenPow k).1 ∧ 0 < (tenPow k).2 := by
  have hten : ∀ k, 0 < Nat.pow 10 k := fun k => Nat.pow_pos (by decide)
  unfold tenPow
  split
  · exact ⟨hten _, Nat.one_pos⟩
  · exact ⟨Nat.one_pos, hten _⟩

theorem Binary64.mantissa_pos {x : Binary64} (hx : x.isZero = false) : 0 < x.mantissa := by
  have hcode : x.code ≠ 0 := by simpa [Binary64.isZero] using hx
  unfold Binary64.mantissa
  split <;> omega

/-- What rounds to a double other than zero is not zero. -/
theorem Binary64.interval_low_pos {x : Binary64} (hx : x.isZero = false) : 0 < x.interval.low := by
  have hm := Binary64.mantissa_pos hx
  have hpow := (Binary64.twoPow_pos (x.exponent - 2)).1
  refine Nat.mul_pos ?_ hpow
  split <;> omega

section
variable {i : Interval} {tie : Tie} {power : Int}

/-- **The decimal on a grid lies in the interval.** -/
theorem Interval.has_of_onGrid {digits : Nat} (h : i.onGrid tie power = some digits) :
    i.has digits power = true := by
  simp only [Interval.onGrid] at h
  split at h
  · cases h
  · next hdown _ => exact Option.some.inj h ▸ hdown
  · next _ hup => exact Option.some.inj h ▸ hup
  · next hdown hup =>
    have heither : digits = i.value * (tenPow power).2 / (i.den * (tenPow power).1) ∨
        digits = i.value * (tenPow power).2 / (i.den * (tenPow power).1) + 1 := by
      split at h
      · exact .inl (Option.some.inj h).symm
      · split at h
        · exact .inr (Option.some.inj h).symm
        · split at h
          · exact .inr (Option.some.inj h).symm
          · have hdigits := Option.some.inj h
            split at hdigits
            · exact .inl hdigits.symm
            · exact .inr hdigits.symm
    rcases heither with rfl | rfl
    · exact hdown
    · exact hup

theorem Interval.not_has_zero (hi : 0 < i.low) : i.has 0 power = false := by
  have hlow : 0 < i.low * (tenPow power).2 := Nat.mul_pos hi (tenPow_pos power).2
  simp only [Interval.has, Nat.zero_mul]
  split
  · rw [decide_eq_false (by omega), Bool.false_and]
  · rw [decide_eq_false (by omega), Bool.false_and]

theorem Interval.onGrid_ne_zero (hi : 0 < i.low) {digits : Nat}
    (h : i.onGrid tie power = some digits) : digits ≠ 0 := by
  rintro rfl
  have hhas := Interval.has_of_onGrid h
  rw [Interval.not_has_zero hi] at hhas
  cases hhas

end

theorem Numeral.trimZeros_ne_zero (fuel : Nat) {d : Numeral} (h : d.digits ≠ 0) :
    (d.trimZeros fuel).digits ≠ 0 := by
  induction fuel generalizing d with
  | zero => exact h
  | succ fuel ih =>
    rw [Numeral.trimZeros]
    split
    · next hzero =>
      refine ih ?_
      show d.digits / 10 ≠ 0
      omega
    · exact h

/-- **The digits of a double other than zero do not denote zero**, unless no decimal is found. -/
theorem shortest_digits (tie : Tie) {x : Binary64} (hx : x.isZero = false) :
    (shortest tie x).digits ≠ 0 ∨ shortest tie x = ⟨0, 0⟩ := by
  rw [shortest, hx, if_neg Bool.false_ne_true]
  rcases hfound : (List.range 17).findSome? fun (extra : Nat) =>
      (x.interval.onGrid tie (x.interval.magnitude - extra)).map fun digits =>
        (⟨digits, x.interval.magnitude - extra⟩ : Numeral) with _ | d
  · exact .inr (by simp only [hfound, Option.getD_none]; rfl)
  · obtain ⟨extra, -, hextra⟩ := List.exists_of_findSome?_eq_some hfound
    obtain ⟨digits, hgrid, rfl⟩ := Option.map_eq_some_iff.1 hextra
    have hne := Interval.onGrid_ne_zero (Binary64.interval_low_pos hx) hgrid
    simp only [hfound, Option.getD_some]
    exact .inl (Numeral.trimZeros_ne_zero 20 hne)

end Inquest.Decimal

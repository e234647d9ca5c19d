import Mathlib.Tactic.Ring
import Inquest.Decimal.Binary64

/-! # The double of a whole number

Magnitudes are compared as multiples of the least positive one, `2 ^ -1074` (`units`), so that
nothing but natural numbers is needed to say which of two doubles is nearer.

* `Nearest`: no double is nearer to a natural number, and if another is as near, the mantissa is
  even.
* `nearest_closest`, `nearest_even`: a quotient rounded to the nearest integer.
* `ofNat?_nearest`: every natural number of 64 bits has a nearest double, and it is found.
-/

namespace Inquest.Decimal

/-- How far two natural numbers are apart. -/
def apart (a b : Nat) : Nat := a - b + (b - a)

theorem apart_mul (c a b : Nat) : apart (c * a) (c * b) = c * apart a b := by
  simp only [apart, Nat.mul_add, Nat.mul_sub]

namespace Binary64

/-- One as a multiple of the least positive magnitude. -/
def perOne : Nat := 2 ^ 1074

/-- The magnitude as a multiple of the least positive one. -/
def units (x : Binary64) : Nat := x.mantissa * 2 ^ (x.exponent + 1074).toNat

/-- A double whose magnitude is nearest to a natural number, a tie going to the even mantissa. -/
structure Nearest (x : Binary64) (n : Nat) : Prop where
  closest : ∀ y : Binary64, apart x.units (n * perOne) ≤ apart y.units (n * perOne)
  even : ∀ y : Binary64, apart y.units (n * perOne) = apart x.units (n * perOne) →
    y.units ≠ x.units → x.mantissa % 2 = 0

/-! ## Quotients -/

section
variable {num den : Nat}

theorem nearest_closest (hden : 0 < den) (k : Nat) :
    apart (nearest num den * den) num ≤ apart (k * den) num := by
  have hrest := Nat.mod_lt num hden
  have hsplit := Nat.div_add_mod' num den
  have hk : k * den ≤ num / den * den ∨ num / den * den + den ≤ k * den := by
    rcases Nat.lt_or_ge (num / den) k with hlt | hle
    · have hmul := Nat.mul_le_mul_right den hlt
      rw [Nat.succ_mul] at hmul
      exact .inr hmul
    · exact .inl (Nat.mul_le_mul_right den hle)
  simp only [nearest, apart]
  split
  · rw [Nat.succ_mul]
    omega
  · omega

/-- Of two integers equally near, the even one is taken. -/
theorem nearest_even (hden : 0 < den) {k : Nat}
    (htie : apart (k * den) num = apart (nearest num den * den) num) (hne : k ≠ nearest num den) :
    nearest num den % 2 = 0 := by
  have hrest := Nat.mod_lt num hden
  have hsplit := Nat.div_add_mod' num den
  -- `k` is one of the two neighbours of the quotient, or at least one step further off
  have hk : k = num / den ∨ k = num / den + 1 ∨ k * den + den ≤ num / den * den ∨
      num / den * den + den + den ≤ k * den := by
    rcases Nat.lt_trichotomy k (num / den) with hlt | heq | hgt
    · have hmul := Nat.mul_le_mul_right den hlt
      rw [Nat.succ_mul] at hmul
      exact .inr (.inr (.inl hmul))
    · exact .inl heq
    · rcases Nat.eq_or_lt_of_le hgt with heq | hlt
      · exact .inr (.inl heq.symm)
      · have hmul := Nat.mul_le_mul_right den hlt
        rw [Nat.succ_mul, Nat.succ_mul] at hmul
        exact .inr (.inr (.inr hmul))
  simp only [nearest, apart] at htie hne ⊢
  -- a tie makes `k` the other neighbour, and of the two the even one was taken
  split at htie
  · next hup =>
    rw [if_pos hup] at hne ⊢
    rw [Nat.succ_mul] at htie
    rcases hk with rfl | rfl | hk | hk <;> omega
  · next hdown =>
    rw [if_neg hdown] at hne ⊢
    rcases hk with rfl | rfl | hk | hk
    · omega
    · rw [Nat.succ_mul] at htie
      omega
    · omega
    · omega

theorem le_nearest {low : Nat} (hden : 0 < den) (h : low * den ≤ num) : low ≤ nearest num den := by
  have hlow := (Nat.le_div_iff_mul_le hden).2 h
  simp only [nearest]
  split <;> omega

theorem nearest_le {high : Nat} (hden : 0 < den) (h : num < high * den) :
    nearest num den ≤ high := by
  have hhigh := (Nat.div_lt_iff_lt_mul hden).2 h
  simp only [nearest]
  split <;> omega

end

/-! ## Powers of two -/

theorem twoPow_pos (e : Int) : 0 < (twoPow e).1 ∧ 0 < (twoPow e).2 := by
  have htwo : ∀ k, 0 < Nat.pow 2 k := fun k => Nat.pow_pos Nat.two_pos
  unfold twoPow
  split
  · exact ⟨htwo _, Nat.one_pos⟩
  · exact ⟨Nat.one_pos, htwo _⟩

/-- A power of two as a quotient, brought to a common denominator. -/
theorem twoPow_mul {e : Int} {c : Nat} (h : -c ≤ e) :
    (twoPow e).1 * 2 ^ c = (twoPow e).2 * 2 ^ (e + c).toNat := by
  unfold twoPow
  split
  · rw [Nat.one_mul, Nat.pow_eq, ← Nat.pow_add]
    congr 1
    omega
  · rw [Nat.one_mul, Nat.pow_eq, ← Nat.pow_add]
    congr 1
    omega

section
variable {n : Nat} (hn : 0 < n)
include hn

theorem exponentFor_one : exponentFor n 1 = (Nat.log2 n : Int) - 52 := by
  have hlog : Nat.log2 1 = 0 := by decide
  have hscale := twoPow_mul (e := (Nat.log2 n : Int) - 53) (c := 53) (by omega)
  rw [show ((Nat.log2 n : Int) - 53 + (53 : Nat)).toNat = Nat.log2 n by omega] at hscale
  have hle : 2 ^ Nat.log2 n ≤ n := Nat.log2_self_le (Nat.ne_of_gt hn)
  have hfits : 0x20_0000_0000_0000 * (1 * (twoPow ((Nat.log2 n : Int) - 53)).1) ≤
      n * (twoPow ((Nat.log2 n : Int) - 53)).2 := by
    calc 0x20_0000_0000_0000 * (1 * (twoPow ((Nat.log2 n : Int) - 53)).1)
      _ = (twoPow ((Nat.log2 n : Int) - 53)).1 * 2 ^ 53 := by
          rw [Nat.one_mul, Nat.mul_comm, show 0x20_0000_0000_0000 = 2 ^ 53 by rfl]
      _ = (twoPow ((Nat.log2 n : Int) - 53)).2 * 2 ^ Nat.log2 n := hscale
      _ ≤ (twoPow ((Nat.log2 n : Int) - 53)).2 * n := Nat.mul_le_mul_left _ hle
      _ = n * (twoPow ((Nat.log2 n : Int) - 53)).2 := Nat.mul_comm _ _
  simp only [exponentFor, hlog, Int.natCast_zero, Int.sub_zero]
  rw [if_pos hfits]
  omega

end

/-! ## Codes -/

/-- A code put together from an exponent and a mantissa of 53 bits, or one that has just outgrown
them. -/
theorem units_of_code {x : Binary64} {k q : Nat} (hcode : x.code = k * 0x10_0000_0000_0000 + q)
    (hlow : 0x10_0000_0000_0000 ≤ q) (hhigh : q ≤ 0x20_0000_0000_0000) :
    x.units = q * 2 ^ k ∧ (q % 2 = 0 → x.mantissa % 2 = 0) := by
  have hnormal : ¬ x.code < 0x10_0000_0000_0000 := by omega
  simp only [units, mantissa, exponent, if_neg hnormal]
  rcases Nat.eq_or_lt_of_le hhigh with rfl | hlt
  · have hdiv : x.code / 0x10_0000_0000_0000 = k + 2 := by omega
    have hmod : x.code % 0x10_0000_0000_0000 = 0 := by omega
    rw [hdiv, hmod, show ((k + 2 : Nat) - 1075 + 1074 : Int).toNat = k + 1 by omega]
    exact ⟨by rw [Nat.pow_succ]; ring, fun _ => rfl⟩
  · have hdiv : x.code / 0x10_0000_0000_0000 = k + 1 := by omega
    have hmod : x.code % 0x10_0000_0000_0000 = q - 0x10_0000_0000_0000 := by omega
    rw [hdiv, hmod, show ((k + 1 : Nat) - 1075 + 1074 : Int).toNat = k by omega]
    exact ⟨by rw [Nat.add_sub_cancel' hlow], fun heven => by omega⟩

/-- A double is a multiple of a power of two, or less than `2 ^ 52` of them. -/
theorem units_multiple (y : Binary64) (k : Nat) :
    (∃ m, y.units = m * 2 ^ k) ∨ y.units < 2 ^ 52 * 2 ^ k := by
  rcases Nat.lt_or_ge (y.exponent + 1074).toNat k with hlt | hle
  · right
    have hmantissa := y.mantissa_lt
    have hpow : 2 ^ ((y.exponent + 1074).toNat + 1) ≤ 2 ^ k :=
      Nat.pow_le_pow_right Nat.two_pos hlt
    calc y.units
      _ < 0x20_0000_0000_0000 * 2 ^ (y.exponent + 1074).toNat :=
          Nat.mul_lt_mul_of_pos_right hmantissa (Nat.pow_pos Nat.two_pos)
      _ = 2 ^ 52 * 2 ^ ((y.exponent + 1074).toNat + 1) := by rw [Nat.pow_succ]; ring
      _ ≤ 2 ^ 52 * 2 ^ k := Nat.mul_le_mul_left _ hpow
  · left
    refine ⟨y.mantissa * 2 ^ ((y.exponent + 1074).toNat - k), ?_⟩
    rw [units, Nat.mul_assoc, ← Nat.pow_add, Nat.sub_add_cancel hle]

/-! ## Whole numbers -/

section
variable {n a d k : Nat} (ha : 0 < a) (hd : 0 < d) (hscale : a * perOne = d * 2 ^ k)
include hscale

/-- Distances in units of the least positive magnitude, and in units of the mantissa. -/
theorem apart_units (m : Nat) :
    d * apart (m * 2 ^ k) (n * perOne) = perOne * apart (m * a) (n * d) := by
  have hm : d * (m * 2 ^ k) = perOne * (m * a) := by
    calc d * (m * 2 ^ k)
      _ = m * (d * 2 ^ k) := by ring
      _ = m * (a * perOne) := by rw [hscale]
      _ = perOne * (m * a) := by ring
  have hn : d * (n * perOne) = perOne * (n * d) := by ring
  rw [← apart_mul, ← apart_mul, hm, hn]

include ha hd

theorem closest_multiple (m : Nat) :
    apart (nearest (n * d) a * 2 ^ k) (n * perOne) ≤ apart (m * 2 ^ k) (n * perOne) := by
  refine Nat.le_of_mul_le_mul_left ?_ hd
  rw [apart_units hscale, apart_units hscale]
  exact Nat.mul_le_mul_left _ (nearest_closest ha m)

/-- What is less than the least mantissa of 53 bits is farther away. -/
theorem closest_small (hlow : 2 ^ 52 * a ≤ n * d) {u : Nat} (hu : u < 2 ^ 52 * 2 ^ k) :
    apart (nearest (n * d) a * 2 ^ k) (n * perOne) < apart u (n * perOne) := by
  have hbelow : 2 ^ 52 * 2 ^ k ≤ n * perOne := by
    refine Nat.le_of_mul_le_mul_left ?_ hd
    calc d * (2 ^ 52 * 2 ^ k)
      _ = 2 ^ 52 * (d * 2 ^ k) := by ring
      _ = perOne * (2 ^ 52 * a) := by rw [← hscale]; ring
      _ ≤ perOne * (n * d) := Nat.mul_le_mul_left _ hlow
      _ = d * (n * perOne) := by ring
  have hnear := closest_multiple (n := n) ha hd hscale (2 ^ 52)
  simp only [apart] at hnear ⊢
  omega

theorem nearest_of_units {x : Binary64} (hlow : 2 ^ 52 * a ≤ n * d)
    (hunits : x.units = nearest (n * d) a * 2 ^ k)
    (heven : nearest (n * d) a % 2 = 0 → x.mantissa % 2 = 0) : x.Nearest n where
  closest y := by
    rw [hunits]
    rcases y.units_multiple k with ⟨m, hm⟩ | hsmall
    · rw [hm]
      exact closest_multiple ha hd hscale m
    · exact Nat.le_of_lt (closest_small ha hd hscale hlow hsmall)
  even y htie hne := by
    rw [hunits] at htie hne
    rcases y.units_multiple k with ⟨m, hm⟩ | hsmall
    · rw [hm] at htie hne
      -- measured on that grid a tie of doubles is a tie of whole numbers
      have hscaled := congrArg (d * ·) htie
      simp only [apart_units hscale] at hscaled
      have hpos : 0 < perOne := by
        refine Nat.pos_of_ne_zero fun hzero => ?_
        rw [hzero, Nat.mul_zero] at hscale
        exact absurd hscale (Nat.ne_of_lt (Nat.mul_pos hd (Nat.two_pow_pos k)))
      have htie := Nat.eq_of_mul_eq_mul_left hpos hscaled
      refine heven (nearest_even ha htie fun hsame => ?_)
      rw [hsame] at hne
      exact hne rfl
    · have hfar := closest_small ha hd hscale hlow hsmall
      omega

end

theorem nearest_zero : (zero false).Nearest 0 := by
  have hunits : (zero false).units = 0 := Nat.zero_mul _
  constructor
  · intro y
    rw [hunits, Nat.zero_mul]
    exact Nat.zero_le _
  · exact fun _ _ _ => rfl

theorem ofNat?_of_code {n : Nat} (hn : 0 < n)
    (h : (Nat.log2 n + 1022) * 0x10_0000_0000_0000 +
      nearest (n * (twoPow ((Nat.log2 n : Int) - 52)).2) (twoPow ((Nat.log2 n : Int) - 52)).1 <
        magnitudes) : ofNat? n = some ⟨false, _, h⟩ := by
  have hexponent : ((Nat.log2 n : Int) - 52 + 1074).toNat = Nat.log2 n + 1022 := by omega
  simp only [ofNat?, round, if_neg (Nat.ne_of_gt hn), exponentFor_one hn, Nat.one_mul, hexponent]
  exact dif_pos h

/-- **Every natural number of 64 bits has a double**, and it is the nearest. -/
theorem ofNat?_nearest {n : Nat} (hn : n < 2 ^ 64) :
    ∃ x, ofNat? n = some x ∧ x.negative = false ∧ x.Nearest n := by
  rcases Nat.eq_zero_or_pos n with rfl | hpos
  · exact ⟨zero false, rfl, rfl, nearest_zero⟩
  have hlog : Nat.log2 n < 64 := (Nat.log2_lt (Nat.ne_of_gt hpos)).2 hn
  have hscale := twoPow_mul (e := (Nat.log2 n : Int) - 52) (c := 1074) (by omega)
  have hmantissa := twoPow_mul (e := (Nat.log2 n : Int) - 52) (c := 52) (by omega)
  rw [show ((Nat.log2 n : Int) - 52 + (1074 : Nat)).toNat = Nat.log2 n + 1022 by omega] at hscale
  rw [show ((Nat.log2 n : Int) - 52 + (52 : Nat)).toNat = Nat.log2 n by omega] at hmantissa
  obtain ⟨ha, hd⟩ := twoPow_pos ((Nat.log2 n : Int) - 52)
  have hfound := ofNat?_of_code hpos
  generalize (twoPow ((Nat.log2 n : Int) - 52)).1 = a at hscale hmantissa ha hfound
  generalize (twoPow ((Nat.log2 n : Int) - 52)).2 = d at hscale hmantissa hd hfound
  have hlow : 2 ^ 52 * a ≤ n * d := by
    rw [Nat.mul_comm, hmantissa, Nat.mul_comm]
    exact Nat.mul_le_mul_right _ (Nat.log2_self_le (Nat.ne_of_gt hpos))
  have hhigh : n * d < 2 ^ 53 * a := by
    calc n * d
      _ < 2 ^ (Nat.log2 n + 1) * d := Nat.mul_lt_mul_of_pos_right Nat.lt_log2_self hd
      _ = 2 * (d * 2 ^ Nat.log2 n) := by ring
      _ = 2 ^ 53 * a := by rw [← hmantissa]; ring
  have hq := le_nearest ha hlow
  have hq' := nearest_le ha hhigh
  -- below `2 ^ 64` the code is that of a finite double, even if it is rounded up
  have hcode : (Nat.log2 n + 1022) * 0x10_0000_0000_0000 + nearest (n * d) a < magnitudes := by
    simp only [magnitudes]
    omega
  obtain ⟨hunits, heven⟩ := units_of_code (x := ⟨false, _, hcode⟩) rfl hq hq'
  exact ⟨_, hfound hcode, rfl, nearest_of_units ha hd hscale hlow hunits heven⟩

end Binary64

end Inquest.Decimal

import Inquest.Proofs.Json.Lexing
import Mathlib.Algebra.Group.Int.Defs

/-! # Numbers, and what ends them

A number ends where a text follows that cannot go on it (`EndsNumber`). Up to there it is scanned as
if nothing followed, and so every scanner of a part of a number has a lemma that puts a text after
it.

* `scanNumber_append`: a number is scanned alike wherever it stands.
* `tokens_intDigits`: whole numbers of 64 bits are read as they are written.
-/

namespace Inquest.Json

open Decimal

/-! ## Numbers -/

/-- A text that cannot go on a number. -/
def EndsNumber (rest : List Char) : Prop :=
  ∀ c ∈ rest.head?, digitValue? c = none ∧ c ≠ '.' ∧ c ≠ 'e' ∧ c ≠ 'E'

section
variable {rest : List Char} (hrest : EndsNumber rest)
include hrest

theorem growSignificand_append (n taken : Nat) (s : List Char) :
    growSignificand n taken (s ++ rest) =
      ((growSignificand n taken s).1, (growSignificand n taken s).2.1,
        (growSignificand n taken s).2.2 ++ rest) := by
  induction s generalizing n taken with
  | nil =>
    cases rest with
    | nil => rfl
    | cons c rest => simp [growSignificand, (hrest c rfl).1]
  | cons c s ih =>
    rw [List.cons_append, growSignificand, growSignificand]
    cases digitValue? c with
    | none => rfl
    | some d =>
      simp only
      split
      · exact ih _ _
      · rfl

theorem countDigits_append (count : Nat) (s : List Char) :
    countDigits count (s ++ rest) = ((countDigits count s).1, (countDigits count s).2 ++ rest) := by
  induction s generalizing count with
  | nil =>
    cases rest with
    | nil => rfl
    | cons c rest => simp [countDigits, (hrest c rfl).1]
  | cons c s ih =>
    rw [List.cons_append, countDigits, countDigits]
    split
    · exact ih _
    · rfl

theorem takeNumber_append (n : Nat) (s : List Char) :
    takeNumber n (s ++ rest) = ((takeNumber n s).1, (takeNumber n s).2 ++ rest) := by
  induction s generalizing n with
  | nil =>
    cases rest with
    | nil => rfl
    | cons c rest => simp [takeNumber, (hrest c rfl).1]
  | cons c s ih =>
    rw [List.cons_append, takeNumber, takeNumber]
    cases digitValue? c with
    | none => rfl
    | some d => exact ih _

variable {negative : Bool} {n : Nat} {power : Int} {v : Option Number} {s later : List Char}

theorem exponentDigits_append {down : Bool}
    (h : exponentDigits negative n power down s = (.ok v, later)) :
    exponentDigits negative n power down (s ++ rest) = (.ok v, later ++ rest) := by
  cases s with
  | nil => cases h
  | cons c s =>
    rw [exponentDigits] at h
    rw [List.cons_append, exponentDigits]
    split at h
    · cases h
    · rename_i hc
      rw [if_neg hc, ← List.cons_append, takeNumber_append hrest]
      cases h
      rfl

omit hrest in
theorem exponentSign_append (c : Char) (s rest : List Char) :
    exponentSign (c :: s ++ rest) =
      ((exponentSign (c :: s)).1, (exponentSign (c :: s)).2 ++ rest) := by
  by_cases hplus : c = '+'
  · subst hplus
    rfl
  by_cases hminus : c = '-'
  · subst hminus
    rfl
  · simp [exponentSign, hplus, hminus]

theorem scanExponent_append (h : scanExponent negative n power s = (.ok v, later)) :
    scanExponent negative n power (s ++ rest) = (.ok v, later ++ rest) := by
  cases s with
  | nil => cases h
  | cons c s =>
    rw [scanExponent, exponentSign_append]
    exact exponentDigits_append hrest h

omit hrest in
theorem scanExponentPart_of_none {t : List Char} (ht : ∀ c ∈ t.head?, c ≠ 'e' ∧ c ≠ 'E') :
    scanExponentPart negative n power t = scaledNumber negative n power t := by
  rw [scanExponentPart.eq_def]
  split
  · exact absurd rfl (ht 'e' rfl).1
  · exact absurd rfl (ht 'E' rfl).2
  · rfl

theorem scanExponentPart_append (h : scanExponentPart negative n power s = (.ok v, later)) :
    scanExponentPart negative n power (s ++ rest) = (.ok v, later ++ rest) := by
  by_cases hs : ∀ c ∈ s.head?, c ≠ 'e' ∧ c ≠ 'E'
  · have hboth : ∀ c ∈ (s ++ rest).head?, c ≠ 'e' ∧ c ≠ 'E' := by
      cases s with
      | nil => exact fun c hc => (hrest c hc).2.2
      | cons c s => exact hs
    rw [scanExponentPart_of_none hs] at h
    rw [scanExponentPart_of_none hboth]
    cases h
    rfl
  · cases s with
    | nil => exact absurd nofun hs
    | cons c s =>
      have he : c = 'e' ∨ c = 'E' := by
        by_cases he : c = 'e'
        · exact .inl he
        by_cases hE : c = 'E'
        · exact .inr hE
        · exact absurd (fun d hd => by cases hd; exact ⟨he, hE⟩) hs
      rcases he with rfl | rfl
      · exact scanExponent_append hrest h
      · exact scanExponent_append hrest h

theorem scanFraction_append (h : scanFraction negative n power s = (.ok v, later)) :
    scanFraction negative n power (s ++ rest) = (.ok v, later ++ rest) := by
  rw [scanFraction, growSignificand_append hrest]
  rw [scanFraction] at h
  rcases hg : growSignificand n 0 s with ⟨grown, taken, _ | ⟨c, after⟩⟩
  · simp only [hg, List.nil_append] at h ⊢
    split at h
    · cases h
    · rename_i htaken
      have hpart := scanExponentPart_append hrest h
      cases rest with
      | nil => rwa [if_neg htaken]
      | cons c rest =>
        simp only [(hrest c rfl).1, Option.isSome_none, Bool.false_eq_true, if_false]
        rwa [if_neg htaken]
  · simp only [hg, List.cons_append] at h ⊢
    split at h
    · rename_i hc
      rw [if_pos hc, ← List.cons_append, countDigits_append hrest]
      exact scanExponentPart_append hrest h
    · rename_i hc
      rw [if_neg hc]
      split at h
      · cases h
      · rename_i htaken
        rw [if_neg htaken]
        exact scanExponentPart_append hrest h

omit hrest in
theorem scanTail_of_none {t : List Char} (ht : ∀ c ∈ t.head?, c ≠ '.' ∧ c ≠ 'e' ∧ c ≠ 'E') :
    scanTail negative n t = (.ok (integerNumber negative n), t) := by
  rw [scanTail.eq_def]
  split
  · exact absurd rfl (ht '.' rfl).1
  · exact absurd rfl (ht 'e' rfl).2.1
  · exact absurd rfl (ht 'E' rfl).2.2
  · rfl

theorem scanTail_append (h : scanTail negative n s = (.ok v, later)) :
    scanTail negative n (s ++ rest) = (.ok v, later ++ rest) := by
  rcases s with _ | ⟨c, s⟩
  · cases h
    exact scanTail_of_none fun c hc => (hrest c hc).2
  by_cases hpoint : c = '.'
  · subst hpoint
    exact scanFraction_append hrest h
  by_cases he : c = 'e'
  · subst he
    exact scanExponent_append hrest h
  by_cases hE : c = 'E'
  · subst hE
    exact scanExponent_append hrest h
  have hs : ∀ d ∈ (c :: s).head?, d ≠ '.' ∧ d ≠ 'e' ∧ d ≠ 'E' := by
    intro d hd
    cases hd
    exact ⟨hpoint, he, hE⟩
  rw [scanTail_of_none hs] at h
  rw [scanTail_of_none (show ∀ d ∈ (c :: s ++ rest).head?, _ from hs)]
  cases h
  rfl

omit hrest in
theorem scanLongTail_of_none {extra : Nat} {t : List Char} (ht : ∀ c ∈ t.head?, c ≠ '.') :
    scanLongTail negative n extra t = scanExponentPart negative n extra t := by
  rw [scanLongTail.eq_def]
  split
  · exact absurd rfl (ht '.' rfl)
  · rfl

theorem scanLongTail_append {extra : Nat} (h : scanLongTail negative n extra s = (.ok v, later)) :
    scanLongTail negative n extra (s ++ rest) = (.ok v, later ++ rest) := by
  rcases s with _ | ⟨c, s⟩
  · rw [scanLongTail_of_none (by simp)] at h
    rw [List.nil_append, scanLongTail_of_none fun c hc => (hrest c hc).2.1]
    exact scanExponentPart_append hrest h
  by_cases hpoint : c = '.'
  · subst hpoint
    exact scanFraction_append hrest h
  have hs : ∀ d ∈ (c :: s).head?, d ≠ '.' := by
    intro d hd
    cases hd
    exact hpoint
  rw [scanLongTail_of_none hs] at h
  rw [scanLongTail_of_none (show ∀ d ∈ (c :: s ++ rest).head?, _ from hs)]
  exact scanExponentPart_append hrest h

omit hrest in
theorem scanNumber_cons {c : Char} (hzero : c ≠ '0') (t : List Char) :
    scanNumber negative (c :: t) =
      if (digitValue? c).isNone then (.error .malformed, c :: t)
      else
        let (significand, _, rest) := growSignificand 0 0 (c :: t)
        match countDigits 0 rest with
        | (0, _) => scanTail negative significand rest
        | (extra, rest) => scanLongTail negative significand extra rest := by
  rw [scanNumber.eq_def]
  split
  · rename_i heq
    cases heq
  · rename_i heq
    cases heq
    exact absurd rfl hzero
  · rename_i heq
    cases heq
    rfl

omit hrest in
theorem scanNumber_zero (t : List Char) :
    scanNumber negative ('0' :: t) =
      match t with
      | c :: _ => if (digitValue? c).isSome then (.error .malformed, t) else scanTail negative 0 t
      | [] => scanTail negative 0 [] := rfl

/-- **A number is scanned alike wherever it stands**, if the text after it cannot go on it. -/
theorem scanNumber_append (h : scanNumber negative s = (.ok v, later)) :
    scanNumber negative (s ++ rest) = (.ok v, later ++ rest) := by
  rcases s with _ | ⟨c, s⟩
  · cases h
  -- after a leading zero no digit may follow, not even from `rest`
  by_cases hzero : c = '0'
  · subst hzero
    rw [scanNumber_zero] at h
    rw [List.cons_append, scanNumber_zero]
    rcases s with _ | ⟨d, s⟩
    · have htail := scanTail_append hrest h
      cases rest with
      | nil => exact htail
      | cons d rest =>
        simp only [List.nil_append, (hrest d rfl).1, Option.isSome_none,
          Bool.false_eq_true, if_false]
        exact htail
    · simp only [List.cons_append] at h ⊢
      split at h
      · cases h
      · rename_i hd
        rw [if_neg hd]
        exact scanTail_append hrest h
  rw [scanNumber_cons hzero] at h
  rw [List.cons_append, scanNumber_cons hzero, ← List.cons_append]
  split at h
  · cases h
  · rename_i hd
    rw [if_neg hd, growSignificand_append hrest]
    rcases hg : growSignificand 0 0 (c :: s) with ⟨grown, taken, after⟩
    simp only [hg] at h ⊢
    rw [countDigits_append hrest]
    rcases hn : countDigits 0 after with ⟨_ | extra, beyond⟩
    · simp only [hn] at h ⊢
      exact scanTail_append hrest h
    · simp only [hn] at h ⊢
      exact scanLongTail_append hrest h

end

/-! ## Whole numbers -/

theorem digitValue?_of_isDigit {c : Char} (h : c.isDigit = true) :
    digitValue? c = some (c.toNat - 48) := by
  rw [Char.isDigit, Bool.and_eq_true, decide_eq_true_eq, decide_eq_true_eq] at h
  exact if_pos h

theorem le_ofDigitChars (ds : List Char) (n : Nat) : n ≤ Nat.ofDigitChars 10 ds n := by
  rw [Nat.ofDigitChars_eq_ofDigitChars_zero]
  have hpos : 1 ≤ 10 ^ ds.length := Nat.one_le_pow _ _ (by decide)
  have hmul := Nat.mul_le_mul_right n hpos
  omega

theorem growSignificand_digits {rest : List Char} (hrest : EndsNumber rest) {ds : List Char}
    (hds : ∀ c ∈ ds, c.isDigit = true) {n : Nat} (taken : Nat)
    (hlimit : Nat.ofDigitChars 10 ds n < significandLimit) :
    growSignificand n taken (ds ++ rest) = (Nat.ofDigitChars 10 ds n, taken + ds.length, rest) := by
  induction ds generalizing n taken with
  | nil =>
    cases rest with
    | nil => rfl
    | cons c rest => simp [growSignificand, (hrest c rfl).1]
  | cons c ds ih =>
    rw [Nat.ofDigitChars_cons] at hlimit
    have hc := digitValue?_of_isDigit (hds c List.mem_cons_self)
    have hstep : n * 10 + (c.toNat - 48) = 10 * n + (c.toNat - '0'.toNat) := by
      rw [Nat.mul_comm]
      rfl
    have hle := le_ofDigitChars ds (10 * n + (c.toNat - '0'.toNat))
    rw [List.cons_append, growSignificand, hc]
    simp only [hstep]
    rw [if_pos (Nat.lt_of_le_of_lt hle hlimit),
      ih (fun d hd => hds d (List.mem_cons_of_mem _ hd)) _ hlimit, Nat.ofDigitChars_cons,
      List.length_cons, Nat.add_right_comm, Nat.add_assoc]

/-- The digits of a number other than zero do not start with zero. -/
theorem natDigits_cons {n : Nat} (hn : 0 < n) : ∃ c ds, natDigits n = c :: ds ∧ c ≠ '0' := by
  induction n using Nat.strongRecOn with
  | _ n ih =>
  rw [natDigits]
  by_cases hlt : n < 10
  · refine ⟨n.digitChar, [], Nat.toDigits_of_lt_base hlt, ?_⟩
    have hall : ∀ n < 10, 0 < n → n.digitChar ≠ '0' := by decide
    exact hall n hlt hn
  · obtain ⟨c, ds, hdigits, hc⟩ := ih (n / 10) (by omega) (by omega)
    rw [natDigits] at hdigits
    refine ⟨c, ds ++ [(n % 10).digitChar], ?_, hc⟩
    rw [Nat.toDigits_of_base_le (by decide) (by omega), hdigits, List.cons_append]

theorem isDigit_of_mem_natDigits {n : Nat} {c : Char} (h : c ∈ natDigits n) : c.isDigit = true :=
  Nat.isDigit_of_mem_toDigits (by decide) (by decide) h

theorem scanNumber_natDigits {rest : List Char} (hrest : EndsNumber rest) (negative : Bool)
    {n : Nat}
    (hn : n < significandLimit) :
    scanNumber negative (natDigits n ++ rest) = (.ok (integerNumber negative n), rest) := by
  have htail : scanTail negative n rest = (.ok (integerNumber negative n), rest) :=
    scanTail_of_none fun c hc => (hrest c hc).2
  by_cases hzero : n = 0
  · subst hzero
    have hdigits : natDigits 0 = ['0'] := Nat.toDigits_zero 10
    rw [hdigits, List.cons_append, List.nil_append, scanNumber_zero]
    cases rest with
    | nil => rfl
    | cons c rest =>
      simp only [(hrest c rfl).1, Option.isSome_none, Bool.false_eq_true, if_false]
      exact htail
  · obtain ⟨c, ds, hdigits, hc⟩ := natDigits_cons (Nat.pos_of_ne_zero hzero)
    have hall : ∀ d ∈ natDigits n, d.isDigit = true := fun d hd => isDigit_of_mem_natDigits hd
    have hvalue : Nat.ofDigitChars 10 (natDigits n) 0 = n := Nat.ofDigitChars_ten_toDigits
    have hgrown := growSignificand_digits hrest hall 0 (by rwa [hvalue])
    have hcount : countDigits 0 rest = (0, rest) := by
      cases rest with
      | nil => rfl
      | cons d rest => simp [countDigits, (hrest d rfl).1]
    rw [hdigits] at hall hgrown hvalue ⊢
    rw [List.cons_append] at hgrown ⊢
    rw [scanNumber_cons hc, if_neg (by simp [digitValue?_of_isDigit (hall c List.mem_cons_self)]),
      hgrown, hvalue]
    simp only [hcount]
    exact htail

theorem firstToken_digit {c : Char} (h : c.isDigit = true) (rest : List Char) :
    firstToken c rest = numberToken false (c :: rest) := by
  rw [firstToken.eq_def]
  split
  case h_12 => rw [if_pos (by simp [digitValue?_of_isDigit h])]
  all_goals cases h

theorem isSpace_digit {c : Char} (h : c.isDigit = true) : isSpace c = false := by
  cases hspace : isSpace c with
  | false => rfl
  | true =>
    simp only [isSpace, Bool.or_eq_true, beq_iff_eq] at hspace
    rcases hspace with ((rfl | rfl) | rfl) | rfl <;> cases h

theorem tokens_digit {c : Char} {s later rest : List Char} {t : Token} (hc : c.isDigit = true)
    (h : numberToken false (c :: s ++ rest) = (t, later)) :
    tokens (c :: s ++ rest) = t :: tokens later := by
  rw [List.cons_append] at h ⊢
  rw [tokens_cons (isSpace_digit hc), firstToken_digit hc, h]

theorem tokens_minus {s later rest : List Char} {t : Token}
    (h : numberToken true (s ++ rest) = (t, later)) :
    tokens ('-' :: s ++ rest) = t :: tokens later := by
  have htoken : firstToken '-' (s ++ rest) = (t, later) := h
  rw [List.cons_append, tokens_cons (by decide), htoken]

theorem tokens_intDigits {n : Int} (hlow : -2 ^ 63 ≤ n) (hhigh : n < 2 ^ 64) {rest : List Char}
    (hrest : EndsNumber rest) : tokens (intDigits n ++ rest) = .num (.int n) :: tokens rest := by
  have hlimit : n.natAbs < significandLimit := by
    simp only [significandLimit]
    omega
  unfold intDigits
  split
  · refine tokens_minus ?_
    have hrange : 0 < n.natAbs ∧ n.natAbs ≤ 0x8000_0000_0000_0000 := by omega
    have hvalue : -(n.natAbs : Int) = n := by omega
    rw [numberToken, scanNumber_natDigits hrest true hlimit, integerNumber, if_pos rfl,
      if_pos hrange, hvalue]
  · have hne : natDigits n.natAbs ≠ [] := Nat.toDigits_ne_nil
    obtain ⟨c, ds, hdigits⟩ := List.exists_cons_of_ne_nil hne
    have hc : c.isDigit = true := isDigit_of_mem_natDigits (hdigits ▸ List.mem_cons_self)
    have hvalue : (n.natAbs : Int) = n := by omega
    rw [hdigits]
    refine tokens_digit hc ?_
    rw [← hdigits, numberToken, scanNumber_natDigits hrest false hlimit, integerNumber,
      if_neg Bool.false_ne_true, hvalue]

end Inquest.Json

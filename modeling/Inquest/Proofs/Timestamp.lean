import Inquest.Proofs.Json.Numerals
import Inquest.Proofs.Json.Records
import Inquest.Timestamp
import Mathlib.Algebra.Group.Nat.Defs

/-! # Points in time are read as they are written

The form of RFC 3339 pads every part with zeros to a fixed width, so a part ends where its digits
do.

* `Proper`: a time of the calendar with a year of four digits.
* `parse?_rfc3339`: such a time is read back from its written form.
-/

namespace Inquest.Timestamp

open Json Text

/-- A time of the calendar in the years 0 to 9999. -/
structure Proper (t : Timestamp) : Prop where
  date : t.date.Valid
  year : 0 ≤ t.date.year ∧ t.date.year ≤ 9999
  hour : t.hour < 24
  minute : t.minute < 60
  second : t.second < 61
  nanos : t.nanos < 10 ^ 9

instance (t : Timestamp) : Decidable t.Proper :=
  decidable_of_iff (t.date.Valid ∧ (0 ≤ t.date.year ∧ t.date.year ≤ 9999) ∧ t.hour < 24 ∧
      t.minute < 60 ∧ t.second < 61 ∧ t.nanos < 10 ^ 9)
    ⟨fun ⟨h1, h2, h3, h4, h5, h6⟩ => ⟨h1, h2, h3, h4, h5, h6⟩,
      fun ⟨h1, h2, h3, h4, h5, h6⟩ => ⟨h1, h2, h3, h4, h5, h6⟩⟩

/-! ## Numbers of a fixed width -/

theorem isDigit_of_mem_padded {width n : Nat} {c : Char} (h : c ∈ padded width n) :
    c.isDigit = true := by
  rcases List.mem_append.1 h with h | h
  · rw [List.eq_of_mem_replicate h]
    rfl
  · exact isDigit_of_mem_natDigits h

theorem length_padded {width n : Nat} (hwidth : 0 < width) (hn : n < 10 ^ width) :
    (padded width n).length = width := by
  have hle : (Nat.toDigits 10 n).length ≤ width :=
    (Nat.length_toDigits_le_iff (by decide) hwidth).2 hn
  rw [padded, List.length_append, List.length_replicate]
  omega

theorem value_padded (width n : Nat) : Nat.ofDigitChars 10 (padded width n) 0 = n := by
  rw [padded, Nat.ofDigitChars_append, Nat.ofDigitChars_replicate_zero, Nat.mul_zero,
    Nat.ofDigitChars_ten_toDigits]

theorem digitsUpTo_append {ds : List Char} (hds : ∀ c ∈ ds, c.isDigit = true) {width value : Nat}
    {any : Bool} {rest : List Char} (hwidth : ds.length ≤ width)
    (hend : ds.length < width →
      (∀ c ∈ rest.head?, digitValue? c = none) ∧ (ds = [] → any = true)) :
    digitsUpTo width value any (ds ++ rest) = some (Nat.ofDigitChars 10 ds value, rest) := by
  induction ds generalizing width value any with
  | nil =>
    cases width with
    | zero => rfl
    | succ width =>
      obtain ⟨hrest, hany⟩ := hend (Nat.succ_pos width)
      rw [hany rfl]
      cases rest with
      | nil => rfl
      | cons c rest => simp [digitsUpTo, hrest c rfl]
  | cons c ds ih =>
    cases width with
    | zero => cases hwidth
    | succ width =>
      have hstep : value * 10 + (c.toNat - 48) = 10 * value + (c.toNat - '0'.toNat) := by
        rw [Nat.mul_comm]
        rfl
      rw [List.cons_append, digitsUpTo, digitValue?_of_isDigit (hds c List.mem_cons_self)]
      simp only [hstep]
      rw [Nat.ofDigitChars_cons]
      refine ih (fun d hd => hds d (List.mem_cons_of_mem _ hd)) (Nat.le_of_succ_le_succ hwidth)
        fun hlt => ?_
      exact ⟨(hend (Nat.succ_lt_succ hlt)).1, fun _ => rfl⟩

theorem isBlankChar_digit {c : Char} (h : c.isDigit = true) : isBlankChar c = false := by
  rw [Char.isDigit, Bool.and_eq_true, decide_eq_true_eq, decide_eq_true_eq] at h
  have hlow : 48 ≤ c.toNat := h.1
  have hhigh : c.toNat ≤ 57 := h.2
  simp only [isBlankChar, Bool.or_eq_false_iff, Bool.and_eq_false_iff, decide_eq_false_iff_not,
    beq_eq_false_iff_ne]
  omega

/-- Blanks are looked for in vain before a digit. -/
theorem trimStartChars_digits {ds rest : List Char} (hds : ∀ c ∈ ds, c.isDigit = true)
    (hne : ds ≠ []) : trimStartChars (ds ++ rest) = ds ++ rest := by
  cases ds with
  | nil => exact absurd rfl hne
  | cons c ds =>
    exact trimStartChars_of_not_blank_head (isBlankChar_digit (hds c List.mem_cons_self))

/-- A number in its full width needs no mark after it. -/
theorem digitsUpTo_padded {width n : Nat} (hwidth : 0 < width) (hn : n < 10 ^ width)
    (rest : List Char) :
    digitsUpTo width 0 false (padded width n ++ rest) = some (n, rest) := by
  have hlength := length_padded hwidth hn
  rw [digitsUpTo_append (fun c => isDigit_of_mem_padded) (Nat.le_of_eq hlength)
    (fun h => absurd h (by omega)), value_padded]

theorem padded_ne_nil {width n : Nat} (hwidth : 0 < width) (hn : n < 10 ^ width) :
    padded width n ≠ [] := by
  have hlength := length_padded hwidth hn
  rintro h
  rw [h, List.length_nil] at hlength
  omega

theorem number?_padded {n : Nat} (hn : n < 100) (rest : List Char) :
    number? 2 (padded 2 n ++ rest) = some (n, rest) := by
  rw [number?, trimStartChars_digits (fun c => isDigit_of_mem_padded)
    (padded_ne_nil (by decide) hn)]
  exact digitsUpTo_padded (by decide) hn rest

theorem year?_yearText {year : Int} (h : 0 ≤ year ∧ year ≤ 9999) (rest : List Char) :
    year? (yearText year ++ rest) = some (year, rest) := by
  have hn : year.toNat < 10 ^ 4 := by omega
  have hdigits : ∀ c ∈ padded 4 year.toNat, c.isDigit = true := fun c => isDigit_of_mem_padded
  rw [yearText, if_pos h, year?, trimStartChars_digits hdigits (padded_ne_nil (by decide) hn)]
  cases hp : padded 4 year.toNat with
  | nil => exact absurd hp (padded_ne_nil (by decide) hn)
  | cons c ds =>
    have hc : c.isDigit = true := hdigits c (hp ▸ List.mem_cons_self)
    have hread := digitsUpTo_padded (by decide) hn rest
    rw [hp] at hread
    rw [List.cons_append]
    split
    · next h => cases h; cases hc
    · next h => cases h; cases hc
    · rw [← List.cons_append, hread]
      show some ((year.toNat : Int), rest) = _
      rw [Int.toNat_of_nonneg h.1]

theorem mark?_cons {c : Char} (hc : isBlankChar c = false) (rest : List Char) :
    mark? c (c :: rest) = some rest := by
  rw [mark?, trimStartChars_of_not_blank_head hc]
  exact if_pos rfl

/-! ## The fraction of a second -/

theorem fraction?_padded {width n : Nat} (hwidth : 0 < width ∧ width ≤ 9) (hn : n < 10 ^ width) :
    fraction? ('.' :: padded width n ++ ['Z']) = some (n * 10 ^ (9 - width), ['Z']) := by
  have hlength := length_padded hwidth.1 hn
  have hread : digitsUpTo 9 0 false (padded width n ++ ['Z']) = some (n, ['Z']) := by
    rw [digitsUpTo_append (fun c => isDigit_of_mem_padded) (by omega), value_padded]
    intro _
    refine ⟨fun c hc => ?_, fun h => absurd h (padded_ne_nil hwidth.1 hn)⟩
    cases hc
    rfl
  have htaken : (padded width n ++ ['Z']).length - ['Z'].length = width := by
    rw [List.length_append, hlength, Nat.add_sub_cancel]
  rw [List.cons_append, fraction?, hread]
  show some (n * 10 ^ (9 - ((padded width n ++ ['Z']).length - ['Z'].length)), _) = _
  rw [htaken]
  rfl

theorem fraction?_fractionText {nanos : Nat} (h : nanos < 10 ^ 9) :
    fraction? (fractionText nanos ++ ['Z']) = some (nanos, ['Z']) := by
  unfold fractionText
  split
  · next hzero => rw [hzero]; rfl
  · split
    · next hmilli =>
      rw [fraction?_padded (by decide) (by omega)]
      congr 2
      omega
    · split
      · next hmicro =>
        rw [fraction?_padded (by decide) (by omega)]
        congr 2
        omega
      · rw [fraction?_padded (by decide) h, Nat.sub_self, Nat.pow_zero, Nat.mul_one]

/-! ## A whole time -/

theorem Proper.month_lt {t : Timestamp} (h : t.Proper) : t.date.month < 100 := by
  have := h.date.2.1
  omega

theorem daysInMonth_le (year : Int) (month : Nat) : daysInMonth year month ≤ 31 := by
  unfold daysInMonth
  split
  · split <;> omega
  all_goals omega

theorem Proper.day_lt {t : Timestamp} (h : t.Proper) : t.date.day < 100 := by
  have hday := h.date.2.2.2
  have hmonth := daysInMonth_le t.date.year t.date.month
  omega

/-- **A time is read as it is written.** -/
theorem parse?_rfc3339 {t : Timestamp} (h : t.Proper) : parse? t.rfc3339 = some t := by
  have hhour := h.hour
  have hminute := h.minute
  have hsecond := h.second
  have hyear := h.year
  have hin : yearInRange t.date.year = true := by
    rw [yearInRange, Bool.and_eq_true, decide_eq_true_eq, decide_eq_true_eq]
    omega
  have hvalid : ¬ (trimStartChars ([] : List Char) ≠ [] ∨
      ¬ (⟨t.date.year, t.date.month, t.date.day⟩ : Date).Valid ∨
      yearInRange t.date.year = false) := by
    rintro (hrest | hdate | hrange)
    · exact hrest rfl
    · exact hdate h.date
    · rw [hin] at hrange
      cases hrange
  have hclock : ¬ (24 ≤ t.hour ∨ 60 ≤ t.minute ∨ 61 ≤ t.second ∨ 1440 ≤ (0 : Int).natAbs) := by
    rw [Int.natAbs_zero]
    omega
  have heta : (⟨⟨t.date.year, t.date.month, t.date.day⟩, t.hour, t.minute, t.second, t.nanos⟩ :
      Timestamp) = t := rfl
  rw [parse?, rfc3339, String.toList_ofList, parseChars, dateText, clockText]
  simp only [List.append_assoc, List.cons_append]
  -- part by part, each read from the front of what is left
  refine Option.bind_eq_some_iff.2 ⟨_, year?_yearText h.year _, ?_⟩
  refine Option.bind_eq_some_iff.2 ⟨_, mark?_cons (by decide) _, ?_⟩
  refine Option.bind_eq_some_iff.2 ⟨_, number?_padded h.month_lt _, ?_⟩
  refine Option.bind_eq_some_iff.2 ⟨_, mark?_cons (by decide) _, ?_⟩
  refine Option.bind_eq_some_iff.2 ⟨_, number?_padded h.day_lt _, ?_⟩
  refine Option.bind_eq_some_iff.2 ⟨_, rfl, ?_⟩
  refine Option.bind_eq_some_iff.2 ⟨_, number?_padded (by omega) _, ?_⟩
  refine Option.bind_eq_some_iff.2 ⟨_, mark?_cons (by decide) _, ?_⟩
  refine Option.bind_eq_some_iff.2 ⟨_, number?_padded (by omega) _, ?_⟩
  refine Option.bind_eq_some_iff.2 ⟨_, mark?_cons (by decide) _, ?_⟩
  refine Option.bind_eq_some_iff.2 ⟨_, number?_padded (by omega) _, ?_⟩
  refine Option.bind_eq_some_iff.2 ⟨_, fraction?_fractionText h.nanos, ?_⟩
  refine Option.bind_eq_some_iff.2 ⟨_, show offset? (trimStartChars ['Z']) = some (0, []) by decide, ?_⟩
  refine (if_neg hvalid).trans ((if_neg hclock).trans ?_)
  dsimp only
  rw [heta, shift_zero h.hour h.minute, if_pos hin]

/-- **A time in data is read as it is written.** -/
theorem decoded {t : Timestamp} (h : t.Proper) (room : Nat) : Decoded decode room t.toJson t := by
  have htext : text room (toDoc t.toJson) = .ok t.rfc3339 := rfl
  show decode room (toDoc t.toJson) = .ok t
  rw [decode, htext]
  simp only [bind, Except.bind, parse?_rfc3339 h]
  rfl

end Inquest.Timestamp

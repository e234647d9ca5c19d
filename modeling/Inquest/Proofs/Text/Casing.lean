import Inquest.Text.Blank
import Inquest.Text.Casing

/-! # Small letters stay small

Of a text in small letters everything is small already: the small form of a character is never a
capital letter, and neither form of `Σ` is one. So it does not matter how often a text is put into small
letters, and none of that makes or removes a blank.

* `apart_smalls`: the tables of capital letters, small letters and blanks, compared range by range.
* `small_of_mem_smallForm`, `not_blank_of_mem_smallForm`: one character.
* `lowercaseChars_lowercaseChars`, `trimChars_lowercaseChars`: texts.
-/

namespace Inquest.Text

/-! ## Ranges -/

/-- Two ranges have no code point in common: one ends before the other begins, or one holds even and the
other odd code points. -/
def CodeRange.apart (r s : CodeRange) : Bool :=
  Nat.blt r.last s.first || Nat.blt s.last r.first ||
    (r.step % 2 == 0 || r.first == r.last) && (s.step % 2 == 0 || s.first == s.last) &&
      r.first % 2 != s.first % 2

variable {r s : CodeRange} {n : Nat} {c d : Char}

theorem CodeRange.has_iff : r.has n = true ↔ r.first ≤ n ∧ n ≤ r.last ∧ r.step ∣ n - r.first := by
  simp [has, Nat.dvd_iff_mod_eq_zero, and_assoc]

/-- A range of even steps, or of one code point, is all even or all odd. -/
theorem CodeRange.parity (h : r.has n = true) (hr : r.step % 2 = 0 ∨ r.first = r.last) :
    n % 2 = r.first % 2 := by
  obtain ⟨hfirst, hlast, hstep⟩ := has_iff.1 h
  rcases hr with hr | hr
  · have htwo : 2 ∣ n - r.first := Nat.dvd_trans (Nat.dvd_of_mod_eq_zero hr) hstep
    omega
  · rw [show n = r.first by omega]

theorem CodeRange.not_has_of_apart (h : r.apart s = true) (hr : r.has n = true) :
    s.has n = false := by
  rw [Bool.eq_false_iff]
  intro hs
  obtain ⟨hr₁, hr₂, -⟩ := has_iff.1 hr
  obtain ⟨hs₁, hs₂, -⟩ := has_iff.1 hs
  simp only [apart, Nat.blt_eq, Bool.or_eq_true, Bool.and_eq_true, beq_iff_eq, bne_iff_ne] at h
  rcases h with (h | h) | ⟨⟨heven, heven'⟩, hparity⟩
  · omega
  · omega
  · exact hparity ((parity hr heven).symm.trans (parity hs heven'))

/-! ## The tables -/

/-- The small letters of a range of capitals. -/
def CaseShift.smalls (s : CaseShift) : CodeRange :=
  ⟨((s.capitals.first : Int) + s.distance).toNat, ((s.capitals.last : Int) + s.distance).toNat,
    s.capitals.step⟩

/-- The capital letters whose small form is one character, those of ASCII among them. -/
def letterShifts : List CaseShift := ⟨⟨0x41, 0x5A, 1⟩, 0x20⟩ :: caseShifts

/-- The characters that have another small form. -/
def capitalTable : CodeTable := ⟨0x130, 0x130, 1⟩ :: letterShifts.map CaseShift.capitals

/-- The blanks. -/
def blankTable : CodeTable :=
  [⟨0x9, 0xD, 1⟩, ⟨0x20, 0x20, 1⟩, ⟨0x85, 0x85, 1⟩, ⟨0xA0, 0xA0, 1⟩, ⟨0x1680, 0x1680, 1⟩,
    ⟨0x2000, 0x200A, 1⟩, ⟨0x2028, 0x2029, 1⟩, ⟨0x202F, 0x202F, 1⟩, ⟨0x205F, 0x205F, 1⟩,
    ⟨0x3000, 0x3000, 1⟩]

/-- The code points that stand for no character. -/
def surrogates : CodeRange := ⟨0xD800, 0xDFFF, 1⟩

/-- **No small letter of the table is a capital letter or a blank**, and all of them are characters. -/
theorem apart_smalls : ∀ s ∈ letterShifts,
    (0 ≤ (s.capitals.first : Int) + s.distance ∧ s.smalls.last < 0x110000) ∧
      (surrogates :: capitalTable ++ blankTable).all s.smalls.apart = true := by
  decide +kernel

theorem isBlankChar_eq (c : Char) : isBlankChar c = blankTable.has c := by
  rw [Bool.eq_iff_iff]
  simp [isBlankChar, blankTable, CodeTable.has, CodeRange.has, Nat.mod_one]
  omega

theorem CodeTable.has_eq_false_iff {t : CodeTable} :
    t.has c = false ↔ ∀ r ∈ t, r.has c.toNat = false := by
  simp [has]

theorem CaseShift.smalls_has {s : CaseShift} (hs : s ∈ letterShifts)
    (h : s.capitals.has n = true) : s.smalls.has ((n : Int) + s.distance).toNat = true := by
  obtain ⟨⟨hfirst, -⟩, -⟩ := apart_smalls s hs
  obtain ⟨h₁, h₂, h₃⟩ := CodeRange.has_iff.1 h
  have hsame : ((n : Int) + s.distance).toNat - s.smalls.first = n - s.capitals.first := by
    simp only [smalls]
    omega
  refine CodeRange.has_iff.2 ⟨?_, ?_, hsame ▸ h₃⟩ <;> simp only [smalls] <;> omega

/-! ## One character -/

theorem toLower_of_not_upper (h : ¬ (0x41 ≤ c.toNat ∧ c.toNat ≤ 0x5A)) : c.toLower = c := by
  have hupper : ¬ (c.val ≥ 'A'.val ∧ c.val ≤ 'Z'.val) := by simpa [UInt32.le_iff_toNat_le] using h
  exact dif_neg hupper

theorem toNat_toLower_of_upper (h : 0x41 ≤ c.toNat ∧ c.toNat ≤ 0x5A) :
    c.toLower.toNat = c.toNat + 0x20 := by
  have hupper : c.val ≥ 'A'.val ∧ c.val ≤ 'Z'.val := by simpa [UInt32.le_iff_toNat_le] using h
  have hval : c.toLower.val = c.val + 0x20 := congrArg Char.val (dif_pos hupper)
  show c.toLower.val.toNat = c.val.toNat + 0x20
  have hle : c.val.toNat ≤ 0x5A := h.2
  rw [hval, UInt32.toNat_add]
  simp
  omega

/-- A character that is its own small form. -/
def Small (c : Char) : Prop := smallForm c = [c]

instance : Decidable (Small c) := inferInstanceAs (Decidable (smallForm c = [c]))

/-- What is not in the table of capital letters is small. -/
theorem small_of_not_has (h : capitalTable.has c = false) : Small c := by
  rw [CodeTable.has_eq_false_iff] at h
  unfold Small smallForm
  split
  · have hascii : ¬ (0x41 ≤ c.toNat ∧ c.toNat ≤ 0x5A) := by
      intro hc
      have hno := h ⟨0x41, 0x5A, 1⟩ (by simp [capitalTable, letterShifts])
      rw [CodeRange.has_iff.2 ⟨hc.1, hc.2, Nat.one_dvd _⟩] at hno
      cases hno
    rw [toLower_of_not_upper hascii]
  · have hdotted : c.toNat ≠ 0x130 := by
      intro hc
      have hno := h ⟨0x130, 0x130, 1⟩ List.mem_cons_self
      rw [hc] at hno
      cases hno
    have hsame : smallCode c.toNat = c.toNat := by
      have hnone : caseShifts.find? (fun s => s.capitals.has c.toNat) = none := by
        refine List.find?_eq_none.2 fun s hs => ?_
        rw [h s.capitals (List.mem_cons_of_mem _ (List.mem_map_of_mem (List.mem_cons_of_mem _ hs)))]
        exact Bool.false_ne_true
      rw [smallCode, hnone]
    rw [if_neg hdotted, hsame, Char.ofNat_toNat]

/-- A small letter of the table is a character, is small, and is no blank. -/
theorem small_of_smalls_has {s : CaseShift} (hs : s ∈ letterShifts) (h : s.smalls.has n = true) :
    Small (Char.ofNat n) ∧ isBlankChar (Char.ofNat n) = false := by
  obtain ⟨⟨-, hlast⟩, hall⟩ := apart_smalls s hs
  have hapart {r : CodeRange} (hr : r ∈ surrogates :: capitalTable ++ blankTable) :
      r.has n = false :=
    CodeRange.not_has_of_apart (List.all_eq_true.1 hall r hr) h
  have hcode : (Char.ofNat n).toNat = n := by
    have hsurrogate : ¬ (0xD800 ≤ n ∧ n ≤ 0xDFFF) := by
      intro hn
      have hno : surrogates.has n = false := hapart List.mem_cons_self
      rw [CodeRange.has_iff.2 ⟨hn.1, hn.2, Nat.one_dvd _⟩] at hno
      cases hno
    have hle := (CodeRange.has_iff.1 h).2.1
    have hvalid : n.isValidChar := by
      rw [Nat.isValidChar]
      omega
    rw [Char.ofNat, dif_pos hvalid]
    rfl
  constructor
  · refine small_of_not_has (CodeTable.has_eq_false_iff.2 fun r hr => ?_)
    rw [hcode]
    exact hapart (List.mem_append_left _ (List.mem_cons_of_mem _ hr))
  · rw [isBlankChar_eq, CodeTable.has_eq_false_iff, hcode]
    exact fun r hr => hapart (List.mem_append_right _ hr)

/-- The small form of a character: itself, the two characters of a dotted capital, or a small letter of
the table. -/
theorem smallForm_cases (c : Char) :
    Small c ∨ smallForm c = ['i', Char.ofNat 0x307] ∨
      ∃ s ∈ letterShifts, ∃ n, s.smalls.has n = true ∧ smallForm c = [Char.ofNat n] := by
  unfold Small smallForm
  split
  · by_cases hascii : 0x41 ≤ c.toNat ∧ c.toNat ≤ 0x5A
    · refine .inr (.inr ⟨_, List.mem_cons_self, _,
        CaseShift.smalls_has List.mem_cons_self
          (CodeRange.has_iff.2 ⟨hascii.1, hascii.2, Nat.one_dvd _⟩), ?_⟩)
      rw [← Char.ofNat_toNat c.toLower, toNat_toLower_of_upper hascii]
      rfl
    · rw [toLower_of_not_upper hascii]
      exact .inl rfl
  · split
    · exact .inr (.inl rfl)
    · rw [smallCode]
      split
      · next s hs =>
        have hmem : s ∈ letterShifts := List.mem_cons_of_mem _ (List.mem_of_find?_eq_some hs)
        have hhas : s.capitals.has c.toNat = true :=
          List.find?_some (p := fun s : CaseShift => s.capitals.has c.toNat) hs
        exact .inr (.inr ⟨s, hmem, _, CaseShift.smalls_has hmem hhas, rfl⟩)
      · rw [Char.ofNat_toNat]
        exact .inl rfl

theorem smallForm_ne_nil (c : Char) : smallForm c ≠ [] := by
  rcases smallForm_cases c with h | h | ⟨_, _, _, _, h⟩ <;> rw [h] <;> exact List.cons_ne_nil _ _

/-- **A small form is small.** -/
theorem small_of_mem_smallForm (h : d ∈ smallForm c) : Small d := by
  rcases smallForm_cases c with hc | hc | ⟨s, hs, n, hn, hc⟩ <;> rw [hc] at h
  · rwa [List.mem_singleton.1 h]
  · simp only [List.mem_cons, List.not_mem_nil, or_false] at h
    rcases h with rfl | rfl <;> decide +kernel
  · rw [List.mem_singleton.1 h]
    exact (small_of_smalls_has hs hn).1

/-- No blank comes of making a character small. -/
theorem not_blank_of_mem_smallForm (hc : isBlankChar c = false) (h : d ∈ smallForm c) :
    isBlankChar d = false := by
  rcases smallForm_cases c with hform | hform | ⟨s, hs, n, hn, hform⟩ <;> rw [hform] at h
  · rwa [List.mem_singleton.1 h]
  · simp only [List.mem_cons, List.not_mem_nil, or_false] at h
    rcases h with rfl | rfl <;> rfl
  · rw [List.mem_singleton.1 h]
    exact (small_of_smalls_has hs hn).2

/-! ## Texts -/

variable {before after t : List Char}

/-- The one letter with two small forms is not small. -/
theorem Small.ne_sigma (h : Small c) : c.toNat ≠ 0x3A3 := by
  intro hc
  have hsigma : ¬ Small (Char.ofNat 0x3A3) := by decide +kernel
  rw [← hc, Char.ofNat_toNat] at hsigma
  exact hsigma h

/-- What a character becomes in a text: at least one character, all of them small, and no blank of a
character that is none. -/
theorem lowercaseFrom_cons (before : List Char) (c : Char) (s : List Char) :
    ∃ small, small ≠ [] ∧ lowercaseFrom before (c :: s) = small ++ lowercaseFrom (c :: before) s ∧
      (∀ d ∈ small, Small d) ∧
      (isBlankChar c = false → ∀ d ∈ small, isBlankChar d = false) := by
  by_cases hc : c.toNat = 0x3A3
  · have hform : ∀ n ∈ [0x3C2, 0x3C3],
        Small (Char.ofNat n) ∧ isBlankChar (Char.ofNat n) = false := by decide +kernel
    simp only [lowercaseFrom, hc, if_true]
    split
    · exact ⟨_, List.cons_ne_nil _ _, rfl, by simpa using (hform 0x3C2 (by decide)).1,
        fun _ => by simpa using (hform 0x3C2 (by decide)).2⟩
    · exact ⟨_, List.cons_ne_nil _ _, rfl, by simpa using (hform 0x3C3 (by decide)).1,
        fun _ => by simpa using (hform 0x3C3 (by decide)).2⟩
  · refine ⟨smallForm c, smallForm_ne_nil c, ?_, fun _ => small_of_mem_smallForm,
      fun hblank _ => not_blank_of_mem_smallForm hblank⟩
    simp only [lowercaseFrom, hc, if_false]

theorem small_of_mem_lowercaseFrom (h : d ∈ lowercaseFrom before t) : Small d := by
  induction t generalizing before with
  | nil => cases h
  | cons c t ih =>
    obtain ⟨small, -, hcons, hsmall, -⟩ := lowercaseFrom_cons before c t
    rw [hcons, List.mem_append] at h
    exact h.elim (hsmall d) ih

theorem lowercaseFrom_of_small (h : ∀ c ∈ t, Small c) : lowercaseFrom before t = t := by
  induction t generalizing before with
  | nil => rfl
  | cons c t ih =>
    have hc : Small c := h c List.mem_cons_self
    rw [lowercaseFrom, if_neg hc.ne_sigma, hc, ih fun d hd => h d (List.mem_cons_of_mem c hd)]
    rfl

/-- **A text in small letters is in small letters already.** -/
theorem lowercaseChars_lowercaseChars (t : List Char) :
    lowercaseChars (lowercaseChars t) = lowercaseChars t :=
  lowercaseFrom_of_small fun _ => small_of_mem_lowercaseFrom

/-- The last character of a text becomes the last ones of the text in small letters. -/
theorem lowercaseFrom_concat (before s : List Char) (hc : isBlankChar c = false) :
    ∃ first d, lowercaseFrom before (s ++ [c]) = first ++ [d] ∧ isBlankChar d = false := by
  induction s generalizing before with
  | nil =>
    obtain ⟨small, hne, hcons, -, hblank⟩ := lowercaseFrom_cons before c []
    refine ⟨small.dropLast, small.getLast hne, ?_, hblank hc _ (List.getLast_mem hne)⟩
    rw [List.nil_append, hcons, List.dropLast_concat_getLast]
    exact List.append_nil _
  | cons b s ih =>
    obtain ⟨small, -, hcons, -, -⟩ := lowercaseFrom_cons before b (s ++ [c])
    obtain ⟨first, d, hlast, hd⟩ := ih (b :: before)
    exact ⟨small ++ first, d, by rw [List.cons_append, hcons, hlast, List.append_assoc], hd⟩

theorem trimStartChars_cases (t : List Char) :
    trimStartChars t = [] ∨ ∃ c s, trimStartChars t = c :: s ∧ isBlankChar c = false := by
  cases h : trimStartChars t with
  | nil => exact .inl rfl
  | cons c s =>
    have hhead := List.head?_dropWhile_not isBlankChar t
    rw [show t.dropWhile isBlankChar = c :: s from h] at hhead
    exact .inr ⟨c, s, rfl, hhead⟩

/-- A trimmed text is empty, or has no blank at either end. -/
theorem trimChars_cases (t : List Char) :
    trimChars t = [] ∨ (∃ c s, trimChars t = c :: s ∧ isBlankChar c = false) ∧
      ∃ s c, trimChars t = s ++ [c] ∧ isBlankChar c = false := by
  rcases trimStartChars_cases t with h | ⟨c, s, h, hc⟩
  · exact .inl (by rw [trimChars, h]; rfl)
  · rcases trimStartChars_cases (c :: s).reverse with hnil | ⟨d, u, hend, hd⟩
    · have hall := trimStartChars_eq_nil_iff.1 hnil
      simp [hc] at hall
    · have htrim : trimChars t = u.reverse ++ [d] := by
        rw [trimChars, h, trimEndChars, show (c :: s).reverse.dropWhile isBlankChar = d :: u from hend,
          List.reverse_cons]
      have hpre : u.reverse ++ [d] <+: c :: s := by
        rw [← List.reverse_cons, ← hend, ← List.reverse_suffix, List.reverse_reverse]
        exact List.dropWhile_suffix isBlankChar
      refine .inr ⟨?_, u.reverse, d, htrim, hd⟩
      obtain ⟨first, rest, hfirst⟩ : ∃ first rest, u.reverse ++ [d] = first :: rest :=
        List.exists_cons_of_ne_nil (by simp)
      rw [hfirst] at hpre
      exact ⟨first, rest, htrim.trans hfirst, (List.cons_prefix_cons.1 hpre).1 ▸ hc⟩

/-- **A trimmed text in small letters is trimmed.** -/
theorem trimChars_lowercaseChars (t : List Char) :
    trimChars (lowercaseChars (trimChars t)) = lowercaseChars (trimChars t) := by
  rcases trimChars_cases t with h | ⟨⟨c, s, hfirst, hc⟩, u, e, hlast, he⟩
  · rw [h]
    rfl
  · have hstart : trimStartChars (lowercaseChars (trimChars t)) = lowercaseChars (trimChars t) := by
      obtain ⟨small, hne, hcons, -, hblank⟩ := lowercaseFrom_cons [] c s
      obtain ⟨d, small, rfl⟩ := List.exists_cons_of_ne_nil hne
      rw [lowercaseChars, hfirst, hcons, List.cons_append]
      exact trimStartChars_of_not_blank_head (hblank hc d List.mem_cons_self)
    have hend : trimEndChars (lowercaseChars (trimChars t)) = lowercaseChars (trimChars t) := by
      obtain ⟨first, d, hconcat, hd⟩ := lowercaseFrom_concat [] u he
      rw [lowercaseChars, hlast, hconcat]
      exact trimEndChars_of_not_blank_last hd
    exact (congrArg trimEndChars hstart).trans hend

/-- Trimming and making small is done once and for all. -/
theorem lowercase_trim_lowercase_trim (t : String) :
    lowercase (trim (lowercase (trim t))) = lowercase (trim t) := by
  simp only [lowercase, trim, String.toList_ofList, trimChars_lowercaseChars,
    lowercaseChars_lowercaseChars]

end Inquest.Text

import Inquest.Proofs.Text.Search

/-! # Offsets in bytes

A text can be searched and cut by offsets into its bytes. Only an offset at the border of a character
can be cut at (`cutAt?`), and what is found bytewise always begins and ends at one: a pattern begins
with the first byte of a character, which no character has further on.

* `prefix_of_bytes_prefix`: texts whose bytes begin alike begin alike.
* `bytes_found`: where the bytes of a pattern stand in those of a text, there the pattern stands.
* `offset?_eq`: the first offset of a pattern is that of its first occurrence.
-/

namespace Inquest.Text

/-- The bytes of a text. -/
def bytes (s : List Char) : List UInt8 := s.flatMap String.utf8EncodeChar

/-- The first offset at which the bytes of `pat` stand in those of `s`. -/
def offset? (pat s : List Char) : Option Nat :=
  (List.range ((bytes s).length + 1)).find? fun k => (bytes pat).isPrefixOf ((bytes s).drop k)

/-- The text before and after an offset; nothing if it is within a character or behind the end. -/
def cutAt? : (offset : Nat) → List Char → Option (List Char × List Char)
  | 0, s => some ([], s)
  | _ + 1, [] => none
  | k + 1, c :: s =>
    if (String.utf8EncodeChar c).length ≤ k + 1 then
      (cutAt? (k + 1 - (String.utf8EncodeChar c).length) s).map fun (before, after) =>
        (c :: before, after)
    else none

variable {pat s before after : List Char} {c : Char} {k : Nat}

theorem bytes_cons (c : Char) (s : List Char) :
    bytes (c :: s) = String.utf8EncodeChar c ++ bytes s := rfl

theorem bytes_append (s t : List Char) : bytes (s ++ t) = bytes s ++ bytes t :=
  List.flatMap_append

theorem length_utf8EncodeChar_pos (c : Char) : 0 < (String.utf8EncodeChar c).length := by
  rw [String.length_utf8EncodeChar]
  exact c.utf8Size_pos

theorem cutAt?_bytes (before after : List Char) :
    cutAt? (bytes before).length (before ++ after) = some (before, after) := by
  induction before with
  | nil => simp [bytes, cutAt?]
  | cons c before ih =>
    have hpos := length_utf8EncodeChar_pos c
    have hlength : (bytes (c :: before)).length =
        (String.utf8EncodeChar c).length + (bytes before).length := by
      rw [bytes_cons, List.length_append]
    obtain ⟨k, hk⟩ : ∃ k, (bytes (c :: before)).length = k + 1 :=
      ⟨(bytes (c :: before)).length - 1, by omega⟩
    have hrest : k + 1 - (String.utf8EncodeChar c).length = (bytes before).length := by omega
    rw [hk, List.cons_append, cutAt?, if_pos (by omega), hrest, ih]
    rfl

/-! ## What is found bytewise -/

theorem prefix_of_bytes_prefix (h : bytes pat <+: bytes s) : pat <+: s := by
  obtain ⟨rest, hrest⟩ := h
  apply List.isPrefix_of_utf8Encode_append_eq_utf8Encode rest.toByteArray
  rw [List.utf8Encode, List.utf8Encode, ← List.toByteArray_append]
  exact congrArg List.toByteArray hrest

/-- A pattern does not begin within a character. -/
theorem not_prefix_within (hpat : pat ≠ []) (hk : 0 < k)
    (hlt : k < (String.utf8EncodeChar c).length) (rest : List UInt8) :
    ¬ bytes pat <+: (String.utf8EncodeChar c).drop k ++ rest := by
  intro h
  obtain ⟨p, pat, rfl⟩ := List.exists_cons_of_ne_nil hpat
  have hp := length_utf8EncodeChar_pos p
  have hfirst : (String.utf8EncodeChar p)[0] = (String.utf8EncodeChar c)[k] := by
    have hpos : 0 < (bytes (p :: pat)).length := by
      rw [bytes_cons, List.length_append]
      omega
    have hhead := h.getElem hpos
    simp only [bytes_cons] at hhead
    rw [List.getElem_append_left hp,
      List.getElem_append_left (by rw [List.length_drop]; omega)] at hhead
    simpa using hhead
  -- the pattern begins with a first byte, and a character has only one, at its front
  have hbyte : (String.utf8EncodeChar c)[k].IsUTF8FirstByte := by
    rw [← hfirst]
    exact UInt8.isUTF8FirstByte_getElem_zero_utf8EncodeChar
  have hzero : k = 0 := UInt8.isUTF8FirstByte_getElem_utf8EncodeChar.1 hbyte
  omega

/-- **Where the bytes of a pattern stand in those of a text, there the pattern stands.** -/
theorem bytes_found (hpat : pat ≠ []) (h : bytes pat <+: (bytes s).drop k) :
    ∃ before after, s = before ++ pat ++ after ∧ (bytes before).length = k := by
  induction s generalizing k with
  | nil =>
    have hpre : pat <+: [] := prefix_of_bytes_prefix (by simpa [bytes] using h)
    exact absurd (List.prefix_nil.1 hpre) hpat
  | cons c s ih =>
    rcases Nat.eq_zero_or_pos k with rfl | hk
    · obtain ⟨after, hafter⟩ := prefix_of_bytes_prefix h
      exact ⟨[], after, hafter.symm, rfl⟩
    · rw [bytes_cons] at h
      by_cases hlt : k < (String.utf8EncodeChar c).length
      · rw [List.drop_append_of_le_length (by omega)] at h
        exact absurd h (not_prefix_within hpat hk hlt _)
      · rw [List.drop_append, List.drop_eq_nil_of_le (by omega), List.nil_append] at h
        obtain ⟨before, after, rfl, hlength⟩ := ih h
        refine ⟨c :: before, after, rfl, ?_⟩
        rw [bytes_cons, List.length_append]
        omega

theorem bytes_prefix_drop (before pat after : List Char) :
    bytes pat <+: (bytes (before ++ pat ++ after)).drop (bytes before).length := by
  rw [List.append_assoc, bytes_append, List.drop_left, bytes_append]
  exact List.prefix_append _ _

/-- Texts that begin one text take up more bytes the longer they are. -/
theorem bytes_length_le {a b : List Char} (ha : a <+: s) (hb : b <+: s) (h : a.length ≤ b.length) :
    (bytes a).length ≤ (bytes b).length := by
  obtain ⟨rest, rfl⟩ := List.prefix_of_prefix_length_le ha hb h
  rw [bytes_append, List.length_append]
  omega

/-- **The first offset of a pattern is that of its first occurrence.** -/
theorem offset?_eq (hpat : pat ≠ []) (s : List Char) :
    offset? pat s = (splitAt? pat s).map fun (before, _) => (bytes before).length := by
  cases hfound : splitAt? pat s with
  | none =>
    have hno := splitAt?_eq_none_iff.1 hfound
    rw [offset?, List.find?_eq_none.2 fun k _ hk => ?_]
    · rfl
    · obtain ⟨before, after, rfl, -⟩ := bytes_found hpat (List.isPrefixOf_iff_prefix.1 hk)
      exact hno ⟨before, after, rfl⟩
  | some parts =>
    obtain ⟨before, after⟩ := parts
    obtain ⟨rfl, hfirst⟩ := splitAt?_eq_some_iff_firstAt.1 hfound
    refine List.find?_range_eq_some.2 ⟨?_, ?_, fun j hj => ?_⟩
    · exact List.isPrefixOf_iff_prefix.2 (bytes_prefix_drop before pat after)
    · rw [List.mem_range, List.append_assoc, bytes_append, List.length_append]
      exact Nat.lt_succ_of_le (Nat.le_add_right _ _)
    · rw [Bool.not_eq_true', Bool.eq_false_iff]
      intro hp
      obtain ⟨b, a, hwhole, rfl⟩ := bytes_found hpat (List.isPrefixOf_iff_prefix.1 hp)
      have hle : (bytes before).length ≤ (bytes b).length := by
        apply bytes_length_le (s := before ++ pat ++ after) _ _ (hfirst b a hwhole)
        · rw [List.append_assoc]
          exact List.prefix_append _ _
        · rw [hwhole, List.append_assoc]
          exact List.prefix_append _ _
      exact Nat.not_lt_of_le hle hj

end Inquest.Text

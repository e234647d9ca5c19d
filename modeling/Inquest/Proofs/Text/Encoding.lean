import Inquest.Text.Utf8
import Mathlib.Tactic.SplitIfs

/-! # Text and its bytes

The decoding machine takes a text's bytes back to the text, and takes nothing else to a text.

* `run_encodeChar`: the bytes of a character, whatever bytes follow.
* `run_first`: what is read first was written as its bytes.
* `decode?_eq_some_iff`: bytes are text just where they are a text's bytes.
-/

namespace Inquest.Text.Utf8

/-! ## From characters to bytes and back -/

/-- What a byte after the first of a character holds: a mark and six bits. -/
theorem toNat_continuation (n : Nat) : (UInt8.ofNat (n % 64 + 128)).toNat = n % 64 + 128 :=
  UInt8.toNat_ofNat_of_lt' (show _ < 256 by omega)

section
variable {bad : List Char → Option (List Char)} {b : UInt8} {due low high bits : Nat}

theorem run_opens {p : Partial} (h : start b = .opens p) (rest : List UInt8) :
    run bad none (b :: rest) = run bad (some p) rest := by
  rw [run, h]

/-- The last byte of a character. -/
theorem run_end (h : low ≤ b.toNat ∧ b.toNat ≤ high) (rest : List UInt8) :
    run bad (some ⟨1, low, high, bits⟩) (b :: rest) =
      (run bad none rest).map (Char.ofNat (bits * 0x40 + b.toNat % 0x40) :: ·) := by
  rw [run, if_pos h]

/-- A byte of a character, but not its last. -/
theorem run_next (h : low ≤ b.toNat ∧ b.toNat ≤ high) (rest : List UInt8) :
    run bad (some ⟨due + 2, low, high, bits⟩) (b :: rest) =
      run bad (some ⟨due + 1, 0x80, 0xBF, bits * 0x40 + b.toNat % 0x40⟩) rest := by
  rw [run, if_pos h]

end

section
variable (bad : List Char → Option (List Char)) (rest : List UInt8) {n : Nat}

theorem run_one (h : n < 0x80) :
    run bad none (UInt8.ofNat n :: rest) = (run bad none rest).map (Char.ofNat n :: ·) := by
  have hn : (UInt8.ofNat n).toNat = n := UInt8.toNat_ofNat_of_lt' (show _ < 256 by omega)
  rw [run, start, hn, if_pos h]

theorem run_two (h : 0x80 ≤ n) (h' : n < 0x800) :
    run bad none (UInt8.ofNat (n / 64 % 32 + 192) :: UInt8.ofNat (n % 64 + 128) :: rest) =
      (run bad none rest).map (Char.ofNat n :: ·) := by
  have h₀ : (UInt8.ofNat (n / 64 % 32 + 192)).toNat = n / 64 + 192 := by
    rw [UInt8.toNat_ofNat_of_lt' (show _ < 256 by omega)]
    omega
  have h₁ := toNat_continuation n
  have hstart : start (UInt8.ofNat (n / 64 % 32 + 192)) = .opens ⟨1, 0x80, 0xBF, n / 64⟩ := by
    rw [start, h₀]
    grind
  have hbits : n / 64 * 0x40 + (n % 64 + 128) % 0x40 = n := by omega
  rw [run_opens hstart, run_end (by omega), h₁, hbits]

theorem run_three (h : 0x800 ≤ n) (h' : n < 0x10000) (hv : n < 0xD800 ∨ 0xDFFF < n) :
    run bad none (UInt8.ofNat (n / 4096 % 16 + 224) :: UInt8.ofNat (n / 64 % 64 + 128) ::
        UInt8.ofNat (n % 64 + 128) :: rest) =
      (run bad none rest).map (Char.ofNat n :: ·) := by
  have h₀ : (UInt8.ofNat (n / 4096 % 16 + 224)).toNat = n / 4096 + 224 := by
    rw [UInt8.toNat_ofNat_of_lt' (show _ < 256 by omega)]
    omega
  have h₁ := toNat_continuation (n / 64)
  have h₂ := toNat_continuation n
  -- the second byte is bounded more narrowly where it would spell a shorter character or a surrogate
  obtain ⟨low, high, hstart, hfits⟩ : ∃ low high,
      start (UInt8.ofNat (n / 4096 % 16 + 224)) = .opens ⟨2, low, high, n / 4096⟩ ∧
        low ≤ n / 64 % 64 + 128 ∧ n / 64 % 64 + 128 ≤ high := by
    rw [start, h₀]
    by_cases hlow : n / 4096 = 0
    · exact ⟨0xA0, 0xBF, by grind, by omega⟩
    by_cases hhigh : n / 4096 = 13
    · exact ⟨0x80, 0x9F, by grind, by omega⟩
    · exact ⟨0x80, 0xBF, by grind, by omega⟩
  have hbits : (n / 4096 * 0x40 + (n / 64 % 64 + 128) % 0x40) * 0x40 + (n % 64 + 128) % 0x40 = n := by
    omega
  rw [run_opens hstart, run_next (by rwa [h₁]), run_end (by omega), h₁, h₂, hbits]

theorem run_four (h : 0x10000 ≤ n) (h' : n < 0x110000) :
    run bad none (UInt8.ofNat (n / 262144 % 8 + 240) :: UInt8.ofNat (n / 4096 % 64 + 128) ::
        UInt8.ofNat (n / 64 % 64 + 128) :: UInt8.ofNat (n % 64 + 128) :: rest) =
      (run bad none rest).map (Char.ofNat n :: ·) := by
  have h₀ : (UInt8.ofNat (n / 262144 % 8 + 240)).toNat = n / 262144 + 240 := by
    rw [UInt8.toNat_ofNat_of_lt' (show _ < 256 by omega)]
    omega
  have h₁ := toNat_continuation (n / 4096)
  have h₂ := toNat_continuation (n / 64)
  have h₃ := toNat_continuation n
  -- likewise where it would spell a shorter character or one past the last
  obtain ⟨low, high, hstart, hfits⟩ : ∃ low high,
      start (UInt8.ofNat (n / 262144 % 8 + 240)) = .opens ⟨3, low, high, n / 262144⟩ ∧
        low ≤ n / 4096 % 64 + 128 ∧ n / 4096 % 64 + 128 ≤ high := by
    rw [start, h₀]
    by_cases hlow : n / 262144 = 0
    · exact ⟨0x90, 0xBF, by grind, by omega⟩
    by_cases hhigh : n / 262144 = 4
    · exact ⟨0x80, 0x8F, by grind, by omega⟩
    · exact ⟨0x80, 0xBF, by grind, by omega⟩
  have hbits : ((n / 262144 * 0x40 + (n / 4096 % 64 + 128) % 0x40) * 0x40 +
      (n / 64 % 64 + 128) % 0x40) * 0x40 + (n % 64 + 128) % 0x40 = n := by
    omega
  rw [run_opens hstart, run_next (by rwa [h₁]), run_next (by omega), run_end (by omega), h₁, h₂, h₃,
    hbits]

/-- The bytes of a character are read as the character. -/
theorem run_encodeChar (c : Char) :
    run bad none (String.utf8EncodeChar c ++ rest) = (run bad none rest).map (c :: ·) := by
  have hc : Char.ofNat c.val.toNat = c := Char.ofNat_toNat c
  have hv : c.val.toNat < 0xD800 ∨ 0xDFFF < c.val.toNat ∧ c.val.toNat < 0x110000 := c.valid
  unfold String.utf8EncodeChar
  simp only
  split
  · next h =>
    simpa only [hc, List.cons_append, List.nil_append] using
      run_one bad rest (n := c.val.toNat) (by omega)
  split
  · next h h' =>
    simpa only [hc, List.cons_append, List.nil_append] using
      run_two bad rest (n := c.val.toNat) (by omega) (by omega)
  split
  · next h h' h'' =>
    simpa only [hc, List.cons_append, List.nil_append] using
      run_three bad rest (n := c.val.toNat) (by omega) (by omega) (by omega)
  · next h h' h'' =>
    simpa only [hc, List.cons_append, List.nil_append] using
      run_four bad rest (n := c.val.toNat) (by omega) (by omega)

theorem run_encodeChars (s : List Char) :
    run bad none (s.flatMap String.utf8EncodeChar ++ rest) = (run bad none rest).map (s ++ ·) := by
  induction s with
  | nil => simp
  | cons c s ih =>
    rw [List.flatMap_cons, List.append_assoc, run_encodeChar, ih, Option.map_map]
    rfl

end

/-- The bytes of an array from a place on, after those already taken. -/
theorem toList_loop (bytes : ByteArray) (i : Nat) (taken : List UInt8) :
    ByteArray.toList.loop bytes i taken = taken.reverse ++ bytes.data.toList.drop i := by
  fun_induction ByteArray.toList.loop bytes i taken with
  | case1 i taken hi ih =>
    have hi' : i < bytes.data.toList.length := by simpa using hi
    have hget : bytes.get! i = bytes.data.toList[i] := by
      simp only [ByteArray.get!, Array.getElem_toList]
      exact getElem!_pos bytes.data i hi
    rw [ih, List.drop_eq_getElem_cons hi', hget, List.reverse_cons, List.append_assoc,
      List.singleton_append]
  | case2 i taken hi =>
    have hi' : bytes.data.toList.length ≤ i := by simpa using hi
    rw [List.drop_eq_nil_of_le hi', List.append_nil]

/-- A text's bytes are those of its characters, one after the other. -/
theorem encode_eq_flatMap (s : String) : encode s = s.toList.flatMap String.utf8EncodeChar := by
  have hbytes : s.toUTF8.data.toList = s.toList.flatMap String.utf8EncodeChar := by
    change s.toByteArray.data.toList = _
    rw [← String.utf8Encode_toList, List.utf8Encode, List.toList_data_toByteArray]
  rw [encode, ByteArray.toList, toList_loop, hbytes]
  rfl

theorem encode_append (s t : String) : encode (s ++ t) = encode s ++ encode t := by
  rw [encode_eq_flatMap, encode_eq_flatMap, encode_eq_flatMap, String.toList_append,
    List.flatMap_append]

/-- An ASCII byte of a character is that character. -/
theorem toNat_of_mem_encodeChar {c : Char} {b : UInt8} (hb : b.toNat < 0x80)
    (h : b ∈ String.utf8EncodeChar c) : c.toNat = b.toNat := by
  have hc : c.toNat = c.val.toNat := rfl
  unfold String.utf8EncodeChar at h
  simp only at h
  split at h
  · rw [List.mem_singleton.1 h, UInt8.toNat_ofNat_of_lt' (show _ < 256 by omega), hc]
  · -- the bytes of a longer character are all past ASCII
    exfalso
    split_ifs at h <;>
      simp only [List.mem_cons, List.not_mem_nil, or_false] at h <;>
      rcases h with rfl | rfl | rfl | rfl <;>
      rw [UInt8.toNat_ofNat'] at hb <;> omega

/-- An ASCII byte of a text stands for itself. -/
theorem mem_of_mem_encode {s : String} {b : UInt8} (hb : b.toNat < 0x80) (h : b ∈ encode s) :
    ∃ c ∈ s.toList, c.toNat = b.toNat := by
  rw [encode_eq_flatMap] at h
  obtain ⟨c, hc, hbyte⟩ := List.mem_flatMap.1 h
  exact ⟨c, hc, toNat_of_mem_encodeChar hb hbyte⟩

theorem run_encode (bad : List Char → Option (List Char)) (s : String) :
    run bad none (encode s) = some s.toList := by
  have h := run_encodeChars bad [] s.toList
  rw [List.append_nil] at h
  rw [encode_eq_flatMap, h]
  simp [run]

/-- The bytes of a text are read as the text. -/
theorem decode?_encode (s : String) : decode? (encode s) = some s.toList := run_encode _ s

theorem decodeLossy_encode (s : String) : decodeLossy (encode s) = s.toList := by
  rw [decodeLossy, run_encode, Option.getD_some]

/-! ## From bytes to characters and back -/

theorem toNat_ofNat_of_valid {n : Nat} (hv : n < 0xD800 ∨ 0xDFFF < n ∧ n < 0x110000) :
    (Char.ofNat n).val.toNat = n := by
  rw [Char.ofNat, dif_pos hv]
  rfl

/-- The numbers of a character's bytes. -/
def units (n : Nat) : List Nat :=
  if n ≤ 127 then [n]
  else if n ≤ 2047 then [n / 64 % 32 + 192, n % 64 + 128]
  else if n ≤ 65535 then [n / 4096 % 16 + 224, n / 64 % 64 + 128, n % 64 + 128]
  else [n / 262144 % 8 + 240, n / 4096 % 64 + 128, n / 64 % 64 + 128, n % 64 + 128]

theorem encodeChar_eq {n : Nat} (bytes : List UInt8) (hv : n < 0xD800 ∨ 0xDFFF < n ∧ n < 0x110000)
    (h : units n = bytes.map UInt8.toNat) : String.utf8EncodeChar (Char.ofNat n) = bytes := by
  have hunits : String.utf8EncodeChar (Char.ofNat n) = (units n).map UInt8.ofNat := by
    simp only [String.utf8EncodeChar, toNat_ofNat_of_valid hv, units]
    split_ifs <;> rfl
  rw [hunits, h, List.map_map]
  exact (List.map_congr_left fun b _ => UInt8.ofNat_toNat).trans (List.map_id bytes)

theorem start_eq_whole_iff {b : UInt8} {c : Char} :
    start b = .whole c ↔ b.toNat < 0x80 ∧ c = Char.ofNat b.toNat := by
  unfold start
  grind

/-- What a byte that opens a character of two, three or four bytes tells of it. -/
theorem start_eq_opens {b : UInt8} {p : Partial} (h : start b = .opens p) :
    (p.due = 1 ∧ b.toNat = p.bits + 192 ∧ 2 ≤ p.bits ∧ p.bits < 32 ∧ p.low = 0x80 ∧ p.high = 0xBF) ∨
    (p.due = 2 ∧ b.toNat = p.bits + 224 ∧ p.bits < 16 ∧ 0x80 ≤ p.low ∧ p.high ≤ 0xBF ∧
      (p.bits = 0 → 0xA0 ≤ p.low) ∧ (p.bits = 13 → p.high ≤ 0x9F)) ∨
    (p.due = 3 ∧ b.toNat = p.bits + 240 ∧ p.bits < 5 ∧ 0x80 ≤ p.low ∧ p.high ≤ 0xBF ∧
      (p.bits = 0 → 0x90 ≤ p.low) ∧ (p.bits = 4 → p.high ≤ 0x8F)) := by
  unfold start at h
  simp only at h
  repeat' split at h
  all_goals cases h
  all_goals
    simp
    omega

/-- Nothing is made up for bytes that cannot be read. -/
def refuse (_ : List Char) : Option (List Char) := none

section
variable {due low high bits : Nat} {bytes : List UInt8} {s : List Char}

/-- In the middle of a character, the next byte fits. -/
theorem run_some (h : run refuse (some ⟨due, low, high, bits⟩) bytes = some s) :
    ∃ b rest, bytes = b :: rest ∧ low ≤ b.toNat ∧ b.toNat ≤ high := by
  have hnone : ∀ o : Option (List Char), o.bind refuse ≠ some s := by
    intro o ho
    obtain ⟨_, -, ho⟩ := Option.bind_eq_some_iff.1 ho
    cases ho
  cases bytes with
  | nil => cases h
  | cons b rest =>
    rw [run] at h
    split at h
    · next hfits => exact ⟨b, rest, rfl, hfits.1, hfits.2⟩
    · cases hb : start b <;> simp only [hb] at h <;> exact absurd h (hnone _)

theorem run_last (h : run refuse (some ⟨1, low, high, bits⟩) bytes = some s) :
    ∃ b rest s', bytes = b :: rest ∧ low ≤ b.toNat ∧ b.toNat ≤ high ∧
      s = Char.ofNat (bits * 0x40 + b.toNat % 0x40) :: s' ∧ run refuse none rest = some s' := by
  obtain ⟨b, rest, rfl, hlow, hhigh⟩ := run_some h
  rw [run_end ⟨hlow, hhigh⟩] at h
  obtain ⟨s', hs', rfl⟩ := Option.map_eq_some_iff.1 h
  exact ⟨b, rest, s', rfl, hlow, hhigh, rfl, hs'⟩

theorem run_more (h : run refuse (some ⟨due + 2, low, high, bits⟩) bytes = some s) :
    ∃ b rest, bytes = b :: rest ∧ low ≤ b.toNat ∧ b.toNat ≤ high ∧
      run refuse (some ⟨due + 1, 0x80, 0xBF, bits * 0x40 + b.toNat % 0x40⟩) rest = some s := by
  obtain ⟨b, rest, rfl, hlow, hhigh⟩ := run_some h
  rw [run_next ⟨hlow, hhigh⟩] at h
  exact ⟨b, rest, rfl, hlow, hhigh, h⟩

/-- What is read first was written as its bytes. -/
theorem run_first {b : UInt8} {rest : List UInt8} (h : run refuse none (b :: rest) = some s) :
    ∃ c s' rest', s = c :: s' ∧ b :: rest = String.utf8EncodeChar c ++ rest' ∧
      run refuse none rest' = some s' := by
  rw [run] at h
  -- a first byte says how many follow; what they spell is encoded by those very bytes
  cases hb : start b with
  | whole c =>
    obtain ⟨hlt, rfl⟩ := start_eq_whole_iff.1 hb
    simp only [hb, Option.map_eq_some_iff] at h
    obtain ⟨s', hs', rfl⟩ := h
    refine ⟨_, s', rest, rfl, ?_, hs'⟩
    rw [encodeChar_eq [b] (by omega) (if_pos (by omega)), List.singleton_append]
  | opens p =>
    simp only [hb] at h
    obtain ⟨due, low, high, bits⟩ := p
    obtain ⟨rfl, hp⟩ | ⟨rfl, hp⟩ | ⟨rfl, hp⟩ := start_eq_opens hb <;> simp only at hp
    · obtain ⟨b₁, rest₁, s', rfl, hlow, hhigh, rfl, hs'⟩ := run_last h
      refine ⟨_, s', rest₁, rfl, ?_, hs'⟩
      rw [encodeChar_eq [b, b₁] (by omega) ?_]
      · rfl
      · rw [units, if_neg (by omega), if_pos (by omega)]
        simp only [List.map_cons, List.map_nil, List.cons.injEq, and_true]
        omega
    · obtain ⟨b₁, rest₁, rfl, hlow, hhigh, h₁⟩ := run_more h
      obtain ⟨b₂, rest₂, s', rfl, hlow', hhigh', rfl, hs'⟩ := run_last h₁
      refine ⟨_, s', rest₂, rfl, ?_, hs'⟩
      rw [encodeChar_eq [b, b₁, b₂] (by omega) ?_]
      · rfl
      · rw [units, if_neg (by omega), if_neg (by omega), if_pos (by omega)]
        simp only [List.map_cons, List.map_nil, List.cons.injEq, and_true]
        omega
    · obtain ⟨b₁, rest₁, rfl, hlow, hhigh, h₁⟩ := run_more h
      obtain ⟨b₂, rest₂, rfl, hlow', hhigh', h₂⟩ := run_more h₁
      obtain ⟨b₃, rest₃, s', rfl, hlow'', hhigh'', rfl, hs'⟩ := run_last h₂
      refine ⟨_, s', rest₃, rfl, ?_, hs'⟩
      rw [encodeChar_eq [b, b₁, b₂, b₃] (by omega) ?_]
      · rfl
      · rw [units, if_neg (by omega), if_neg (by omega), if_neg (by omega)]
        simp only [List.map_cons, List.map_nil, List.cons.injEq, and_true]
        omega
  | refused =>
    simp only [hb] at h
    obtain ⟨_, -, ho⟩ := Option.bind_eq_some_iff.1 h
    cases ho

end

/-- **Bytes are text just where they are a text's bytes.** -/
theorem decode?_eq_some_iff {bytes : List UInt8} {s : List Char} :
    decode? bytes = some s ↔ bytes = encode (String.ofList s) := by
  constructor
  · intro h
    rw [encode_eq_flatMap, String.toList_ofList]
    change run refuse none bytes = some s at h
    induction s generalizing bytes with
    | nil =>
      cases bytes with
      | nil => rfl
      | cons b rest =>
        obtain ⟨c, s', rest', hs, -⟩ := run_first h
        cases hs
    | cons c s ih =>
      cases bytes with
      | nil => cases h
      | cons b rest =>
        obtain ⟨c', s', rest', hs, hbytes, hrest⟩ := run_first h
        cases hs
        rw [hbytes, List.flatMap_cons, ih hrest]
  · rintro rfl
    rw [decode?_encode, String.toList_ofList]

end Inquest.Text.Utf8

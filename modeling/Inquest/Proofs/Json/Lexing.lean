import Inquest.Json.Document
import Inquest.Json.Printer

/-! # Tokens, one by one

Cutting a text into tokens never runs out of fuel (`tokens_cons`), so that tokens can be taken off
the front one by one. What is written as a word or in quotes is one token.

* `firstToken_length`: no token gives back more text than it was found in.
* `tokens_nullWord`, `tokens_boolWord`, `tokens_quote`: words, and texts with their escapes.
-/

namespace Inquest.Json

open Decimal

/-! ## Every token takes up some of the text -/

theorem growSignificand_length (n taken : Nat) (s : List Char) :
    (growSignificand n taken s).2.2.length ≤ s.length := by
  fun_induction growSignificand n taken s with
  | case3 n taken c rest d hd hlt ih => exact Nat.le_succ_of_le ih
  | _ => exact Nat.le_refl _

theorem countDigits_length (count : Nat) (s : List Char) :
    (countDigits count s).2.length ≤ s.length := by
  fun_induction countDigits count s with
  | case2 count c rest hd ih => exact Nat.le_succ_of_le ih
  | _ => exact Nat.le_refl _

theorem takeNumber_length (n : Nat) (s : List Char) : (takeNumber n s).2.length ≤ s.length := by
  fun_induction takeNumber n s with
  | case3 n c rest d hd ih => exact Nat.le_succ_of_le ih
  | _ => exact Nat.le_refl _

theorem exponentSign_length (s : List Char) : (exponentSign s).2.length ≤ s.length := by
  rw [exponentSign.eq_def]
  split <;> simp

theorem exponentDigits_length (negative : Bool) (n : Nat) (power : Int) (down : Bool)
    (s : List Char) :
    (exponentDigits negative n power down s).2.length ≤ s.length := by
  rw [exponentDigits.eq_def]
  split
  · exact Nat.zero_le _
  · split
    · exact Nat.le_refl _
    · exact takeNumber_length 0 (_ :: _)

theorem scanExponent_length (negative : Bool) (n : Nat) (power : Int) (s : List Char) :
    (scanExponent negative n power s).2.length ≤ s.length :=
  Nat.le_trans (exponentDigits_length ..) (exponentSign_length s)

theorem scanExponentPart_length (negative : Bool) (n : Nat) (power : Int) (s : List Char) :
    (scanExponentPart negative n power s).2.length ≤ s.length := by
  rw [scanExponentPart.eq_def]
  split
  · exact Nat.le_succ_of_le (scanExponent_length ..)
  · exact Nat.le_succ_of_le (scanExponent_length ..)
  · exact Nat.le_refl _

theorem scanFraction_length (negative : Bool) (n : Nat) (power : Int) (s : List Char) :
    (scanFraction negative n power s).2.length ≤ s.length := by
  have hgrown := growSignificand_length n 0 s
  rw [scanFraction.eq_def]
  rcases hg : growSignificand n 0 s with ⟨grown, taken, _ | ⟨c, rest⟩⟩
  · simp only
    split
    · exact Nat.zero_le _
    · exact Nat.le_trans (scanExponentPart_length ..) (Nat.zero_le _)
  · rw [hg] at hgrown
    refine Nat.le_trans ?_ hgrown
    simp only
    split
    · exact Nat.le_trans (scanExponentPart_length ..) (countDigits_length ..)
    · split
      · exact Nat.le_refl _
      · exact scanExponentPart_length ..

theorem scanTail_length (negative : Bool) (n : Nat) (s : List Char) :
    (scanTail negative n s).2.length ≤ s.length := by
  rw [scanTail.eq_def]
  split
  · exact Nat.le_succ_of_le (scanFraction_length ..)
  · exact Nat.le_succ_of_le (scanExponent_length ..)
  · exact Nat.le_succ_of_le (scanExponent_length ..)
  · exact Nat.le_refl _

theorem scanLongTail_length (negative : Bool) (n extra : Nat) (s : List Char) :
    (scanLongTail negative n extra s).2.length ≤ s.length := by
  rw [scanLongTail.eq_def]
  split
  · exact Nat.le_succ_of_le (scanFraction_length ..)
  · exact scanExponentPart_length ..

theorem digitValue?_le {c : Char} {d : Nat} (h : digitValue? c = some d) : d ≤ 9 := by
  unfold digitValue? at h
  split at h
  · rename_i hc
    cases h
    have hle : c.toNat ≤ 57 := hc.2
    omega
  · cases h

/-- A first digit is always taken. -/
theorem growSignificand_digit {c : Char} {d : Nat} (h : digitValue? c = some d) (s : List Char) :
    growSignificand 0 0 (c :: s) = growSignificand d 1 s := by
  have hd := digitValue?_le h
  rw [growSignificand, h]
  simp only [Nat.zero_mul, Nat.zero_add]
  rw [if_pos (show d < significandLimit by simp only [significandLimit]; omega)]

theorem scanNumber_length {negative : Bool} {c : Char} {s rest : List Char} {v : Option Number}
    (h : scanNumber negative (c :: s) = (.ok v, rest)) : rest.length ≤ s.length := by
  rw [scanNumber.eq_def] at h
  split at h
  · cases h
  · rename_i heq
    cases heq
    split at h
    · split at h
      · cases h
      · exact (congrArg (fun r : Scanned => r.2.length) h) ▸ scanTail_length ..
    · exact (congrArg (fun r : Scanned => r.2.length) h) ▸ scanTail_length ..
  · rename_i c' s' _ heq
    cases heq
    split at h
    · cases h
    · rename_i hd
      obtain ⟨d, hd⟩ := Option.ne_none_iff_exists'.1 (by simpa using hd)
      -- each scanner takes from the front, so the lengths chain
      have hgrown := growSignificand_length d 1 s
      rw [growSignificand_digit hd] at h
      rcases hg : growSignificand d 1 s with ⟨grown, taken, later⟩
      rw [hg] at h hgrown
      refine Nat.le_trans ?_ hgrown
      have hcount := countDigits_length 0 later
      rcases hn : countDigits 0 later with ⟨extra, after⟩
      rw [hn] at hcount
      simp only [hn] at h
      split at h
      · exact (congrArg (fun r : Scanned => r.2.length) h) ▸ scanTail_length ..
      · rename_i heq
        cases heq
        refine Nat.le_trans ?_ hcount
        exact (congrArg (fun r : Scanned => r.2.length) h) ▸ scanLongTail_length ..

theorem numberToken_length (negative : Bool) (c : Char) (s : List Char) :
    (numberToken negative (c :: s)).2.length ≤ s.length := by
  rw [numberToken.eq_def]
  split
  · rename_i hscan
    exact scanNumber_length hscan
  · rename_i hscan
    exact scanNumber_length hscan
  · exact Nat.zero_le _

theorem scanText_length {s rest : List Char} (h : (scanText s).2 = .ok rest) :
    rest.length ≤ s.length := by
  fun_induction scanText s with
  | case11 a b c d later n _ ps r hscan ih =>
    have hlater := ih (by rw [hscan]; exact h)
    simp only [List.length_cons]
    omega
  | _ => grind

theorem textToken_length (s : List Char) : (textToken s).2.length ≤ s.length := by
  rw [textToken.eq_def]
  split
  · rename_i hscan
    have hrest := scanText_length (congrArg Prod.snd hscan)
    split
    · exact hrest
    · exact hrest
  · split
    · exact Nat.zero_le _
    · exact Nat.zero_le _

theorem wordToken_length (word : List Char) (token : Token) (s : List Char) :
    (wordToken word token s).2.length ≤ s.length := by
  induction word generalizing s with
  | nil => exact Nat.le_refl s.length
  | cons w word ih =>
    cases s with
    | nil => simp [wordToken]
    | cons c s =>
      rw [wordToken]
      split
      · exact Nat.le_succ_of_le (ih s)
      · exact Nat.zero_le _

/-- A token leaves no more than what follows its first character. -/
theorem firstToken_length (c : Char) (s : List Char) : (firstToken c s).2.length ≤ s.length := by
  rw [firstToken.eq_def]
  split
  case h_7 => exact textToken_length s
  case h_8 =>
    cases s with
    | nil => exact Nat.le_refl _
    | cons d s => exact Nat.le_succ_of_le (numberToken_length ..)
  case h_9 => exact wordToken_length ..
  case h_10 => exact wordToken_length ..
  case h_11 => exact wordToken_length ..
  case h_12 =>
    split
    · exact numberToken_length ..
    · exact Nat.zero_le _
  all_goals exact Nat.le_refl _

/-- More fuel than characters changes nothing. -/
theorem tokensFor_eq {fuel fuel' : Nat} {s : List Char} (h : s.length ≤ fuel)
    (h' : s.length ≤ fuel') :
    tokensFor fuel s = tokensFor fuel' s := by
  induction fuel generalizing fuel' s with
  | zero =>
    rw [List.eq_nil_of_length_eq_zero (Nat.le_zero.1 h)]
    cases fuel' <;> rfl
  | succ fuel ih =>
    cases s with
    | nil => cases fuel' <;> rfl
    | cons c rest =>
      cases fuel' with
      | zero => cases h'
      | succ fuel' =>
        have hle : rest.length ≤ fuel := Nat.le_of_succ_le_succ h
        have hle' : rest.length ≤ fuel' := Nat.le_of_succ_le_succ h'
        have htoken := firstToken_length c rest
        simp only [tokensFor]
        split
        · exact ih hle hle'
        · exact congrArg _ (ih (Nat.le_trans htoken hle) (Nat.le_trans htoken hle'))

theorem tokens_space {c : Char} (hc : isSpace c = true) (rest : List Char) :
    tokens (c :: rest) = tokens rest := by
  rw [tokens, List.length_cons, tokensFor, if_pos hc]
  rfl

theorem tokens_cons {c : Char} (hc : isSpace c = false) (rest : List Char) :
    tokens (c :: rest) = (firstToken c rest).1 :: tokens (firstToken c rest).2 := by
  rw [tokens, List.length_cons, tokensFor, if_neg (by simp [hc])]
  exact congrArg _ (tokensFor_eq (firstToken_length c rest) (Nat.le_refl _))

/-- Blanks are passed over. -/
theorem tokens_spaces {blanks : List Char} (h : blanks.all isSpace = true) (rest : List Char) :
    tokens (blanks ++ rest) = tokens rest := by
  induction blanks with
  | nil => rfl
  | cons c blanks ih =>
    rw [List.all_cons, Bool.and_eq_true] at h
    rw [List.cons_append, tokens_space h.1, ih h.2]

theorem tokens_newLine (level : Nat) (rest : List Char) :
    tokens (newLine level ++ rest) = tokens rest := by
  refine tokens_spaces ?_ rest
  rw [newLine, List.all_cons, List.all_replicate]
  cases 2 * level <;> rfl

/-! ## Words -/

theorem wordToken_append (word : List Char) (token : Token) (rest : List Char) :
    wordToken word token (word ++ rest) = (token, rest) := by
  induction word with
  | nil => cases rest <;> rfl
  | cons w word ih => simp [wordToken, ih]

theorem tokens_nullWord (rest : List Char) : tokens (nullWord ++ rest) = .null :: tokens rest := by
  have htoken : firstToken 'n' (['u', 'l', 'l'] ++ rest) = (.null, rest) :=
    wordToken_append _ _ rest
  rw [nullWord, List.cons_append, tokens_cons (by decide), htoken]

theorem tokens_boolWord (b : Bool) (rest : List Char) :
    tokens (boolWord b ++ rest) = .bool b :: tokens rest := by
  cases b with
  | true =>
    have htoken : firstToken 't' (['r', 'u', 'e'] ++ rest) = (.bool true, rest) :=
      wordToken_append _ _ rest
    rw [boolWord, if_pos rfl, List.cons_append, tokens_cons (by decide), htoken]
  | false =>
    have htoken : firstToken 'f' (['a', 'l', 's', 'e'] ++ rest) = (.bool false, rest) :=
      wordToken_append _ _ rest
    rw [boolWord, if_neg (by decide), List.cons_append, tokens_cons (by decide), htoken]

/-! ## Texts in quotes -/

/-- What a character inside quotes is scanned as. -/
def pieceOf (c : Char) : Piece :=
  if c.toNat < 0x20 ∧ c ≠ '\n' ∧ c ≠ '\t' ∧ c ≠ '\r' ∧ c.toNat ≠ 0x8 ∧ c.toNat ≠ 0xC then
    .unit c.toNat
  else .char c

theorem hexUnit?_hexDigit {n : Nat} (h : n < 0x20) :
    hexUnit? '0' '0' (hexDigit (n / 16)) (hexDigit (n % 16)) = some n := by
  have hall : ∀ n < 0x20, hexUnit? '0' '0' (hexDigit (n / 16)) (hexDigit (n % 16)) = some n := by
    decide
  exact hall n h

theorem scanText_plain {c : Char} (hquote : c ≠ '"') (hslash : c ≠ '\\') (hc : ¬ c.toNat < 0x20)
    (rest : List Char) :
    scanText (c :: rest) = (.char c :: (scanText rest).1, (scanText rest).2) := by
  simp [scanText, hslash, hc]

theorem scanText_escapeChar (c : Char) (rest : List Char) :
    scanText (escapeChar c ++ rest) = (pieceOf c :: (scanText rest).1, (scanText rest).2) := by
  by_cases hquote : c = '"'
  · subst hquote
    rfl
  by_cases hslash : c = '\\'
  · subst hslash
    rfl
  by_cases hc : c.toNat < 0x20
  · by_cases hn : c = '\n'
    · subst hn
      rfl
    by_cases ht : c = '\t'
    · subst ht
      rfl
    by_cases hr : c = '\r'
    · subst hr
      rfl
    by_cases hb : c.toNat = 0x8
    · have h : c = '\x08' := Char.toNat_inj.1 hb
      subst h
      rfl
    by_cases hf : c.toNat = 0xC
    · have h : c = '\x0c' := Char.toNat_inj.1 hf
      subst h
      rfl
    · rw [escapeChar, if_neg hquote, if_neg hslash, if_pos hc, if_neg hn, if_neg ht, if_neg hr,
        if_neg hb, if_neg hf, pieceOf, if_pos ⟨hc, hn, ht, hr, hb, hf⟩]
      simp [scanText, hexUnit?_hexDigit hc]
  · rw [escapeChar, if_neg hquote, if_neg hslash, if_neg hc, pieceOf, if_neg (fun h => hc h.1)]
    exact scanText_plain hquote hslash hc rest

theorem scanText_escaped (cs rest : List Char) :
    scanText (cs.flatMap escapeChar ++ '"' :: rest) = (cs.map pieceOf, .ok rest) := by
  induction cs with
  | nil => rfl
  | cons c cs ih =>
    rw [List.flatMap_cons, List.append_assoc, scanText_escapeChar, ih, List.map_cons]

theorem joinPieces_unit (f : Fault) {n : Nat} (hn : n < 0xD800) (ps : List Piece) :
    joinPieces f (.unit n :: ps) = (joinPieces f ps).map (Char.ofNat n :: ·) := by
  have hlow : isLowSurrogate n = false := by
    simp only [isLowSurrogate, Bool.and_eq_false_iff, decide_eq_false_iff_not]
    omega
  have hhigh : isHighSurrogate n = false := by
    simp only [isHighSurrogate, Bool.and_eq_false_iff, decide_eq_false_iff_not]
    omega
  rcases ps with _ | ⟨_ | _, ps⟩ <;> simp [joinPieces, hlow, hhigh]

theorem joinPieces_pieceOf (f : Fault) (cs : List Char) :
    joinPieces f (cs.map pieceOf) = .ok cs := by
  induction cs with
  | nil => rfl
  | cons c cs ih =>
    rw [List.map_cons, pieceOf]
    split
    · rename_i hc
      rw [joinPieces_unit f (by omega), ih, Char.ofNat_toNat]
      rfl
    · simp [joinPieces, ih, Except.map]

/-- A quoted text is one token, whatever characters it has. -/
theorem tokens_quote (s : String) (rest : List Char) :
    tokens (quote s ++ rest) = .text s :: tokens rest := by
  have htoken : firstToken '"' (s.toList.flatMap escapeChar ++ '"' :: rest) = (.text s, rest) := by
    show textToken _ = _
    simp only [textToken, scanText_escaped, joinPieces_pieceOf, String.ofList_toList]
  rw [quote, List.cons_append, List.append_assoc, tokens_cons (by decide)]
  rw [show ['"'] ++ rest = '"' :: rest from rfl, htoken]

end Inquest.Json

import Inquest.Proofs.Json.Generic
import Inquest.Proofs.Json.Reading

/-! # The compact text of a value

A value written without blanks has the tokens of the value (`tokens_write`). If it is in order, its
whole numbers have 64 bits and its doubles read back, then its text is read as that value again
(`parse_compact`).
-/

namespace Inquest.Json

/-! ## Tokens -/

mutual

theorem readable_of_numbers {j : Json} (hrange : ∀ n ∈ numbers j, InRange n)
    (hback : ∀ x, .double x ∈ numbers j → ReadsBack x) : Readable j := by
  match j with
  | .null | .bool _ | .str _ => trivial
  | .num (.int n) => exact hrange _ (List.mem_singleton_self _)
  | .num (.double x) => exact hback x (List.mem_singleton_self _)
  | .arr items => exact readableItems_of_numbers hrange hback
  | .obj fields => exact readableFields_of_numbers hrange hback

theorem readableItems_of_numbers {items : List Json} (hrange : ∀ n ∈ itemsNumbers items, InRange n)
    (hback : ∀ x, .double x ∈ itemsNumbers items → ReadsBack x) : ReadableItems items := by
  match items with
  | [] => trivial
  | j :: rest =>
    obtain ⟨hrange, hrest⟩ := List.forall_mem_append.1 hrange
    exact ⟨readable_of_numbers hrange fun x hx => hback x (List.mem_append_left _ hx),
      readableItems_of_numbers hrest fun x hx => hback x (List.mem_append_right _ hx)⟩

theorem readableFields_of_numbers {fields : List (String × Json)}
    (hrange : ∀ n ∈ fieldsNumbers fields, InRange n)
    (hback : ∀ x, .double x ∈ fieldsNumbers fields → ReadsBack x) : ReadableFields fields := by
  match fields with
  | [] => trivial
  | (k, j) :: rest =>
    obtain ⟨hrange, hrest⟩ := List.forall_mem_append.1 hrange
    exact ⟨readable_of_numbers hrange fun x hx => hback x (List.mem_append_left _ hx),
      readableFields_of_numbers hrest fun x hx => hback x (List.mem_append_right _ hx)⟩

end

theorem endsNumber_closeArray (rest : List Char) : EndsNumber (']' :: rest) :=
  endsNumber_cons (by decide) rest

theorem endsNumber_closeObject (rest : List Char) : EndsNumber ('\x7d' :: rest) :=
  endsNumber_cons (by decide) rest

mutual

/-- **The tokens of a value written without blanks**, and of whatever follows it. -/
theorem tokens_write (j : Json) (hj : Readable j) {rest : List Char} (hrest : EndsNumber rest) :
    tokens (write j ++ rest) = tokensOf j ++ tokens rest := by
  match j with
  | .null => exact tokens_nullWord rest
  | .bool b => exact tokens_boolWord b rest
  | .num (.int n) => exact tokens_intDigits hj.1 hj.2 hrest
  | .num (.double x) => exact tokens_double hj hrest
  | .str s => exact tokens_quote s rest
  | .arr items =>
    have hitems := tokens_writeItems items hj (endsNumber_closeArray rest)
    simp only [write, tokensOf, List.cons_append, List.append_assoc, List.nil_append,
      tokens_openArray, hitems, tokens_closeArray]
  | .obj fields =>
    have hfields := tokens_writeFields fields hj (endsNumber_closeObject rest)
    simp only [write, tokensOf, List.cons_append, List.append_assoc, List.nil_append,
      tokens_openObject, hfields, tokens_closeObject]

theorem tokens_writeItems (items : List Json) (hitems : ReadableItems items) {rest : List Char}
    (hrest : EndsNumber rest) :
    tokens (writeItems items ++ rest) = tokensOfItems items ++ tokens rest := by
  match items with
  | [] => rfl
  | [j] => exact tokens_write j hitems.1 hrest
  | j :: i :: items =>
    have hvalue := tokens_write j hitems.1 (endsNumber_comma (writeItems (i :: items) ++ rest))
    have hlater := tokens_writeItems (i :: items) hitems.2 hrest
    show tokens (write j ++ ',' :: writeItems (i :: items) ++ rest) =
      tokensOf j ++ .comma :: tokensOfItems (i :: items) ++ tokens rest
    rw [List.append_assoc, List.cons_append, hvalue, tokens_comma, hlater, List.append_assoc,
      List.cons_append]

theorem tokens_writeFields (fields : List (String × Json)) (hfields : ReadableFields fields)
    {rest : List Char} (hrest : EndsNumber rest) :
    tokens (writeFields fields ++ rest) = tokensOfFields fields ++ tokens rest := by
  match fields with
  | [] => rfl
  | [(k, j)] =>
    show tokens (quote k ++ ':' :: write j ++ rest) = .text k :: .colon :: tokensOf j ++ tokens rest
    rw [List.append_assoc, List.cons_append, tokens_quote, tokens_colon,
      tokens_write j hfields.1 hrest, List.cons_append, List.cons_append]
  | (k, j) :: f :: fields =>
    have hvalue := tokens_write j hfields.1 (endsNumber_comma (writeFields (f :: fields) ++ rest))
    have hlater := tokens_writeFields (f :: fields) hfields.2 hrest
    have htext : writeFields ((k, j) :: f :: fields) ++ rest =
        quote k ++ ':' :: (write j ++ ',' :: (writeFields (f :: fields) ++ rest)) := by
      show quote k ++ ':' :: write j ++ ',' :: writeFields (f :: fields) ++ rest = _
      simp only [List.append_assoc, List.cons_append]
    show _ = .text k :: .colon :: (tokensOf j ++ .comma :: tokensOfFields (f :: fields)) ++
      tokens rest
    rw [htext, tokens_quote, tokens_colon, hvalue, tokens_comma, hlater]
    simp only [List.append_assoc, List.cons_append]

end

/-! ## Values -/

/-- The compact text of a value is read as that value, with nothing after it. -/
theorem read_compact {j : Json} (hj : Readable j) : read j.compact = ⟨toDoc j, false⟩ := by
  have htokens := tokens_write j hj endsNumber_nil
  rw [List.append_nil, tokens_nil, List.append_nil] at htokens
  rw [read, compact, String.toList_ofList, readChars_tokensOf htokens]

/-- **The compact text of a value is the value again.** -/
theorem parse_compact {j : Json} (h : Fits InRange nestingLimit j)
    (hback : ∀ x, .double x ∈ numbers j → ReadsBack x) : parse j.compact = .ok j := by
  have hread := read_compact (readable_of_numbers h.numbers hback)
  refine parse_eq_ok.2 ⟨?_, ?_⟩
  · rw [hread]
    exact value_toDoc h.normal
  · rw [hread]

end Inquest.Json

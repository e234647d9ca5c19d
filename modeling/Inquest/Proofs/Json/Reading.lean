import Inquest.Proofs.Json.Writing

/-! # Written values are read as they were

The reader keeps a stack of open arrays and objects. Given the tokens of a value it delivers that
value into the innermost of them (`readTokens_tokensOf`); hence the indented text of a value is read
as that value, with nothing after it (`read_pretty`).
-/

namespace Inquest.Json

/-! ## From tokens -/

theorem readTokens_firstItem (j : Json) (rest : List Token) (frames : List Frame) :
    readTokens (tokensOf j ++ rest) .firstItem frames =
      readTokens (tokensOf j ++ rest) .value frames := by
  cases j <;> rfl

theorem readTokens_firstItems (j : Json) (items : List Json) (rest : List Token)
    (frames : List Frame) :
    readTokens (tokensOfItems (j :: items) ++ rest) .firstItem frames =
      readTokens (tokensOfItems (j :: items) ++ rest) .value frames := by
  cases items with
  | nil => exact readTokens_firstItem j rest frames
  | cons i items =>
    show readTokens (tokensOf j ++ .comma :: tokensOfItems (i :: items) ++ rest) _ _ =
      readTokens (tokensOf j ++ .comma :: tokensOfItems (i :: items) ++ rest) _ _
    rw [List.append_assoc]
    exact readTokens_firstItem j _ frames

mutual

/-- **The tokens of a value deliver it** into the innermost open array or object. -/
theorem readTokens_tokensOf (j : Json) (rest : List Token) (frames : List Frame) :
    readTokens (tokensOf j ++ rest) .value frames =
      readTokens rest (deliver (toDoc j) frames).1 (deliver (toDoc j) frames).2 := by
  match j with
  | .null => rfl
  | .bool b => rfl
  | .num n => rfl
  | .str s => rfl
  | .arr [] => rfl
  | .arr (i :: items) =>
    -- the items go into a frame of their own, which the bracket closes
    have hitems := readTokens_tokensOfItems (i :: items) (List.cons_ne_nil _ _)
      (.closeArray :: rest) []
      frames
    rw [← readTokens_firstItems, List.append_nil] at hitems
    rw [tokensOf, List.cons_append, List.append_assoc]
    refine Eq.trans hitems ?_
    show readTokens rest (deliver (.arr (toDocs (i :: items)).reverse.reverse none) frames).1
      (deliver (.arr (toDocs (i :: items)).reverse.reverse none) frames).2 = _
    rw [List.reverse_reverse, toDoc]
  | .obj [] => rfl
  | .obj ((k, j) :: fields) =>
    obtain ⟨key, hfields⟩ := readTokens_tokensOfFields ((k, j) :: fields) (List.cons_ne_nil _ _)
      (.closeObject :: rest) [] frames
    rw [List.append_nil] at hfields
    have hfirst : readTokens (tokensOfFields ((k, j) :: fields) ++ .closeObject :: rest) .firstName
        (.fields [] "" :: frames) =
        readTokens (tokensOfFields ((k, j) :: fields) ++ .closeObject :: rest) (.name [])
          frames := by
      cases fields <;> rfl
    rw [tokensOf, List.cons_append, List.append_assoc]
    refine Eq.trans (hfirst.trans hfields) ?_
    show readTokens rest
      (deliver (.obj (toDocFields ((k, j) :: fields)).reverse.reverse none) frames).1
      (deliver (.obj (toDocFields ((k, j) :: fields)).reverse.reverse none) frames).2 = _
    rw [List.reverse_reverse, toDoc]

theorem readTokens_tokensOfItems (items : List Json) (hitems : items ≠ []) (rest : List Token)
    (done : List Doc) (frames : List Frame) :
    readTokens (tokensOfItems items ++ rest) .value (.items done :: frames) =
      readTokens rest .more (.items ((toDocs items).reverse ++ done) :: frames) := by
  match items with
  | [] => exact absurd rfl hitems
  | [j] => exact readTokens_tokensOf j rest (.items done :: frames)
  | j :: i :: items =>
    have hvalue := readTokens_tokensOf j (.comma :: tokensOfItems (i :: items) ++ rest)
      (.items done :: frames)
    have hlater := readTokens_tokensOfItems (i :: items) (List.cons_ne_nil _ _)
      rest (toDoc j :: done)
      frames
    show readTokens (tokensOf j ++ .comma :: tokensOfItems (i :: items) ++ rest) _ _ =
      readTokens rest .more (.items ((toDoc j :: toDocs (i :: items)).reverse ++ done) :: frames)
    rw [List.append_assoc, List.reverse_cons, List.append_assoc, List.singleton_append]
    exact hvalue.trans hlater

theorem readTokens_tokensOfFields (fields : List (String × Json)) (hfields : fields ≠ [])
    (rest : List Token) (done : List (String × Doc)) (frames : List Frame) :
    ∃ key, readTokens (tokensOfFields fields ++ rest) (.name done) frames =
      readTokens rest .more (.fields ((toDocFields fields).reverse ++ done) key :: frames) := by
  match fields with
  | [] => exact absurd rfl hfields
  | [(k, j)] => exact ⟨k, readTokens_tokensOf j rest (.fields done k :: frames)⟩
  | (k, j) :: f :: fields =>
    have hvalue := readTokens_tokensOf j (.comma :: tokensOfFields (f :: fields) ++ rest)
      (.fields done k :: frames)
    obtain ⟨key, hlater⟩ := readTokens_tokensOfFields (f :: fields) (List.cons_ne_nil _ _) rest
      ((k, toDoc j) :: done) frames
    refine ⟨key, ?_⟩
    show readTokens (.text k :: .colon :: (tokensOf j ++ .comma :: tokensOfFields (f :: fields)) ++
      rest) _ _ = readTokens rest .more
        (.fields (((k, toDoc j) :: toDocFields (f :: fields)).reverse ++ done) key :: frames)
    rw [List.cons_append, List.cons_append, List.append_assoc, List.reverse_cons, List.append_assoc,
      List.singleton_append]
    exact hvalue.trans hlater

end

/-- A text with the tokens of a value is read as that value, with nothing after it. -/
theorem readChars_tokensOf {s : List Char} {j : Json} (h : tokens s = tokensOf j) :
    readChars s = ⟨toDoc j, false⟩ := by
  have hread := readTokens_tokensOf j [] []
  rw [List.append_nil] at hread
  rw [readChars, h, hread]
  rfl

/-- **The indented text of a value is read as that value**, with nothing after it. -/
theorem read_pretty {j : Json} (hj : Readable j) : read j.pretty = ⟨toDoc j, false⟩ := by
  have htokens := tokens_writePretty 0 j hj endsNumber_nil
  rw [List.append_nil, tokens_nil, List.append_nil] at htokens
  rw [read, pretty, String.toList_ofList, readChars_tokensOf htokens]

/-- What is decoded from the indented text of a value. -/
theorem decodeText_pretty {α : Type} (decoder : Decoder α) {j : Json} (hj : Readable j) :
    decodeText decoder j.pretty = decoder nestingLimit (toDoc j) := by
  rw [decodeText, read_pretty hj, Reading.decode]
  cases decoder nestingLimit (toDoc j) <;> rfl

end Inquest.Json

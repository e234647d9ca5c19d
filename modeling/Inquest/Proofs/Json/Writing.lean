import Inquest.Proofs.Json.Scanning

/-! # The tokens of a written value

A value is written with indentation, which is blank. Its tokens are those of its parts with marks
between them (`tokensOf`).

* `Readable`: the numbers of a value are read as they are written.
* `tokens_writePretty`: the text of such a value is cut into the tokens of the value.
-/

namespace Inquest.Json

open Decimal

/-! ## Whole values -/

mutual

/-- Whether the numbers of a value are read as they are written: whole numbers of 64 bits, and
doubles that read back. -/
def Readable : Json → Prop
  | .num (.int n) => -2 ^ 63 ≤ n ∧ n < 2 ^ 64
  | .num (.double x) => ReadsBack x
  | .arr items => ReadableItems items
  | .obj fields => ReadableFields fields
  | _ => True

@[inherit_doc Readable]
def ReadableItems : List Json → Prop
  | [] => True
  | j :: rest => Readable j ∧ ReadableItems rest

@[inherit_doc Readable]
def ReadableFields : List (String × Json) → Prop
  | [] => True
  | (_, j) :: rest => Readable j ∧ ReadableFields rest

end

theorem readable_arr {α : Type} {f : α → Json} {as : List α} (h : ∀ a ∈ as, Readable (f a)) :
    Readable (.arr (as.map f)) := by
  show ReadableItems (as.map f)
  induction as with
  | nil => trivial
  | cons a as ih => exact ⟨h a List.mem_cons_self, ih fun b hb => h b (List.mem_cons_of_mem _ hb)⟩

mutual

/-- The tokens of a value. -/
def tokensOf : Json → List Token
  | .null => [.null]
  | .bool b => [.bool b]
  | .num n => [.num n]
  | .str s => [.text s]
  | .arr items => .openArray :: (tokensOfItems items ++ [.closeArray])
  | .obj fields => .openObject :: (tokensOfFields fields ++ [.closeObject])

/-- The tokens of items, commas between them. -/
def tokensOfItems : List Json → List Token
  | [] => []
  | [j] => tokensOf j
  | j :: rest => tokensOf j ++ .comma :: tokensOfItems rest

/-- The tokens of fields, commas between them. -/
def tokensOfFields : List (String × Json) → List Token
  | [] => []
  | [(k, j)] => .text k :: .colon :: tokensOf j
  | (k, j) :: rest => .text k :: .colon :: (tokensOf j ++ .comma :: tokensOfFields rest)

end

theorem endsNumber_nil : EndsNumber [] := nofun

/-- A mark ends a number. -/
theorem endsNumber_cons {c : Char} (hc : digitValue? c = none ∧ c ≠ '.' ∧ c ≠ 'e' ∧ c ≠ 'E')
    (rest : List Char) : EndsNumber (c :: rest) := by
  rintro d ⟨⟩
  exact hc

theorem endsNumber_newLine (level : Nat) (rest : List Char) :
    EndsNumber (newLine level ++ rest) :=
  endsNumber_cons (by decide) _

theorem endsNumber_comma (rest : List Char) : EndsNumber (',' :: rest) :=
  endsNumber_cons (by decide) rest

theorem tokens_nil : tokens [] = [] := rfl

theorem tokens_openArray (rest : List Char) : tokens ('[' :: rest) = .openArray :: tokens rest :=
  tokens_cons (by decide) rest

theorem tokens_closeArray (rest : List Char) : tokens (']' :: rest) = .closeArray :: tokens rest :=
  tokens_cons (by decide) rest

theorem tokens_openObject (rest : List Char) :
    tokens ('\x7b' :: rest) = .openObject :: tokens rest :=
  tokens_cons (by decide) rest

theorem tokens_closeObject (rest : List Char) :
    tokens ('\x7d' :: rest) = .closeObject :: tokens rest :=
  tokens_cons (by decide) rest

theorem tokens_comma (rest : List Char) : tokens (',' :: rest) = .comma :: tokens rest :=
  tokens_cons (by decide) rest

theorem tokens_colon (rest : List Char) : tokens (':' :: rest) = .colon :: tokens rest :=
  tokens_cons (by decide) rest

/-- The tokens of a field: its name, a colon and what its value has. -/
theorem tokens_field (level : Nat) (key : String) (value : List Char) :
    tokens (newLine level ++ quote key ++ ':' :: ' ' :: value) =
      .text key :: .colon :: tokens value := by
  rw [List.append_assoc, tokens_newLine, tokens_quote, tokens_colon, tokens_space (by decide)]

mutual

/-- **The tokens of a written value**, and of whatever follows it. -/
theorem tokens_writePretty (level : Nat) (j : Json) (hj : Readable j) {rest : List Char}
    (hrest : EndsNumber rest) :
    tokens (writePretty level j ++ rest) = tokensOf j ++ tokens rest := by
  match j with
  | .null => exact tokens_nullWord rest
  | .bool b => exact tokens_boolWord b rest
  | .num (.int n) => exact tokens_intDigits hj.1 hj.2 hrest
  | .num (.double x) => exact tokens_double hj hrest
  | .str s => exact tokens_quote s rest
  | .arr [] => rw [writePretty, List.cons_append, tokens_openArray, List.singleton_append,
      tokens_closeArray]; rfl
  | .arr (i :: items) =>
    have hitems := tokens_writePrettyItems (level + 1) (i :: items) hj
      (endsNumber_newLine level (']' :: rest))
    simp only [writePretty, List.cons_append, List.append_assoc, List.nil_append, tokens_openArray,
      hitems, tokens_newLine, tokens_closeArray, tokensOf]
  | .obj [] => rw [writePretty, List.cons_append, tokens_openObject, List.singleton_append,
      tokens_closeObject]; rfl
  | .obj (f :: fields) =>
    have hfields := tokens_writePrettyFields (level + 1) (f :: fields) hj
      (endsNumber_newLine level ('\x7d' :: rest))
    simp only [writePretty, List.cons_append, List.append_assoc, List.nil_append, tokens_openObject,
      hfields, tokens_newLine, tokens_closeObject, tokensOf]

theorem tokens_writePrettyItems (level : Nat) (items : List Json) (hitems : ReadableItems items)
    {rest : List Char} (hrest : EndsNumber rest) :
    tokens (writePrettyItems level items ++ rest) = tokensOfItems items ++ tokens rest := by
  match items with
  | [] => rfl
  | [j] =>
    rw [writePrettyItems, List.append_assoc, tokens_newLine,
      tokens_writePretty level j hitems.1 hrest, tokensOfItems]
  | j :: k :: items =>
    have hvalue := tokens_writePretty level j hitems.1
      (endsNumber_comma (writePrettyItems level (k :: items) ++ rest))
    have hlater := tokens_writePrettyItems level (k :: items) hitems.2 hrest
    show tokens (newLine level ++ writePretty level j ++ ',' ::
      writePrettyItems level (k :: items) ++
      rest) = tokensOf j ++ .comma :: tokensOfItems (k :: items) ++ tokens rest
    rw [List.append_assoc, List.append_assoc, tokens_newLine, List.cons_append, hvalue,
      tokens_comma,
      hlater, List.append_assoc, List.cons_append]

theorem tokens_writePrettyFields (level : Nat) (fields : List (String × Json))
    (hfields : ReadableFields fields) {rest : List Char} (hrest : EndsNumber rest) :
    tokens (writePrettyFields level fields ++ rest) = tokensOfFields fields ++ tokens rest := by
  match fields with
  | [] => rfl
  | [(k, j)] =>
    show tokens (newLine level ++ quote k ++ ':' :: ' ' :: writePretty level j ++ rest) =
      .text k :: .colon :: tokensOf j ++ tokens rest
    rw [List.append_assoc, List.cons_append, List.cons_append, tokens_field,
      tokens_writePretty level j hfields.1 hrest, List.cons_append, List.cons_append]
  | (k, j) :: f :: fields =>
    have hvalue := tokens_writePretty level j hfields.1
      (endsNumber_comma (writePrettyFields level (f :: fields) ++ rest))
    have hlater := tokens_writePrettyFields level (f :: fields) hfields.2 hrest
    have hfield : writePrettyFields level ((k, j) :: f :: fields) ++ rest =
        newLine level ++ quote k ++ ':' :: ' ' ::
          (writePretty level j ++ ',' :: (writePrettyFields level (f :: fields) ++ rest)) := by
      show newLine level ++ quote k ++ ':' :: ' ' :: writePretty level j ++ ',' ::
        writePrettyFields level (f :: fields) ++ rest = _
      simp only [List.append_assoc, List.cons_append]
    show _ = .text k :: .colon :: (tokensOf j ++ .comma :: tokensOfFields (f :: fields)) ++
      tokens rest
    rw [hfield, tokens_field, hvalue, tokens_comma, hlater]
    simp only [List.append_assoc, List.cons_append]

end

end Inquest.Json

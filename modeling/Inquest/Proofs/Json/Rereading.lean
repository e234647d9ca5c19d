import Inquest.Proofs.Json.Compact

/-! # Any written value is read whole

The compact text of any value is read to its end, whatever numbers the value holds and however its
fields are ordered. Wherever a value is due the reader takes it for one document (`ReadAs`), and with
room enough that document has the same data, or none because a number is out of range (`Settled`).

* `reads_write`, `reads_object`: the text of a value, and of an object.
* `printable_write`: the text stands on one line.
-/

namespace Inquest.Json

/-! ## Texts where a value is due -/

/-- What is read once a value has been delivered to the innermost open array or object. -/
def resume (rest : List Char) (d : Doc) (frames : List Frame) : Reading :=
  readTokens (tokens rest) (deliver d frames).1 (deliver d frames).2

/-- A text that is read as a document where a value is due, whatever ends it. -/
structure ReadAs (s : List Char) (d : Doc) : Prop where
  value {rest : List Char} (hrest : EndsNumber rest) (frames : List Frame) :
    readTokens (tokens (s ++ rest)) .value frames = resume rest d frames
  firstItem {rest : List Char} (hrest : EndsNumber rest) (frames : List Frame) :
    readTokens (tokens (s ++ rest)) .firstItem frames = readTokens (tokens (s ++ rest)) .value frames

/-- A text that is read as the items of an array up to its end. -/
structure ItemsReadAs (s : List Char) (ds : List Doc) : Prop where
  value (rest : List Char) (done : List Doc) (frames : List Frame) :
    readTokens (tokens (s ++ ']' :: rest)) .value (.items done :: frames) =
      resume rest (.arr (done.reverse ++ ds) none) frames
  firstItem (rest : List Char) (frames : List Frame) :
    readTokens (tokens (s ++ ']' :: rest)) .firstItem frames =
      readTokens (tokens (s ++ ']' :: rest)) .value frames

/-- A text that is read as the fields of an object up to its end. -/
structure FieldsReadAs (s : List Char) (ds : List (String × Doc)) : Prop where
  name (rest : List Char) (done : List (String × Doc)) (frames : List Frame) :
    readTokens (tokens (s ++ '\x7d' :: rest)) (.name done) frames =
      resume rest (.obj (done.reverse ++ ds) none) frames
  firstName (rest : List Char) (frames : List Frame) :
    readTokens (tokens (s ++ '\x7d' :: rest)) .firstName (.fields [] "" :: frames) =
      readTokens (tokens (s ++ '\x7d' :: rest)) (.name []) frames

theorem takeValue_scalar {t : Token} {d : Doc} (hd : scalar? t = some d) (hfatal : t.isFatal = false)
    (frames : List Frame) : takeValue t frames = .ok (deliver d frames) := by
  unfold takeValue
  split
  · cases hd
  · cases hd
  · simp only [hd, hfatal, Bool.false_eq_true, if_false]

/-- A text of one token that can be read. -/
theorem ReadAs.scalar {s : List Char} {t : Token} {d : Doc} (hd : scalar? t = some d)
    (hfatal : t.isFatal = false)
    (h : ∀ rest, EndsNumber rest → tokens (s ++ rest) = t :: tokens rest) : ReadAs s d where
  value hrest frames := by
    rw [h _ hrest, readTokens]
    · simp only [takeToken, takeValue_scalar hd hfatal, resume]
    · simp
  firstItem hrest frames := by
    have hclose : t ≠ .closeArray := by
      rintro rfl
      cases hd
    rw [h _ hrest, readTokens, readTokens]
    · simp only [takeToken]
    · simp
    · simp

section
variable {s t : List Char} {d : Doc}

theorem ItemsReadAs.single (h : ReadAs s d) : ItemsReadAs s [d] where
  value rest done frames := by
    rw [h.value (endsNumber_closeArray rest), resume, tokens_closeArray, ← List.reverse_cons]
    rfl
  firstItem rest frames := h.firstItem (endsNumber_closeArray rest) frames

theorem ItemsReadAs.cons {ds : List Doc} (h : ReadAs s d) (hs : ItemsReadAs t ds) :
    ItemsReadAs (s ++ ',' :: t) (d :: ds) where
  value rest done frames := by
    have hrest := hs.value rest (d :: done) frames
    rw [List.reverse_cons, List.append_assoc, List.singleton_append] at hrest
    rw [List.append_assoc, List.cons_append, h.value (endsNumber_comma _), resume, tokens_comma]
    exact hrest
  firstItem rest frames := by
    rw [List.append_assoc, List.cons_append]
    exact h.firstItem (endsNumber_comma _) frames

theorem ItemsReadAs.array {ds : List Doc} (h : ItemsReadAs s ds) :
    ReadAs ('[' :: (s ++ [']'])) (.arr ds none) where
  value {rest} _ frames := by
    have hitems := h.value rest [] frames
    rw [← h.firstItem] at hitems
    rw [List.cons_append, List.append_assoc, tokens_openArray]
    exact hitems
  firstItem _ frames := by
    rw [List.cons_append, tokens_openArray]
    rfl

/-- The name of a field is read, and then its value. -/
theorem readTokens_field (h : ReadAs s d) (k : String) {rest : List Char} (hrest : EndsNumber rest)
    (done : List (String × Doc)) (frames : List Frame) :
    readTokens (tokens (quote k ++ ':' :: (s ++ rest))) (.name done) frames =
      readTokens (tokens rest) .more (.fields ((k, d) :: done) k :: frames) := by
  rw [tokens_quote, tokens_colon]
  exact h.value hrest (.fields done k :: frames)

theorem FieldsReadAs.single (h : ReadAs s d) (k : String) :
    FieldsReadAs (quote k ++ ':' :: s) [(k, d)] where
  name rest done frames := by
    rw [List.append_assoc, List.cons_append, readTokens_field h k (endsNumber_closeObject rest),
      tokens_closeObject, ← List.reverse_cons]
    rfl
  firstName rest frames := by
    rw [List.append_assoc, tokens_quote]
    rfl

theorem FieldsReadAs.cons {ds : List (String × Doc)} (h : ReadAs s d) (k : String)
    (hs : FieldsReadAs t ds) : FieldsReadAs (quote k ++ ':' :: s ++ ',' :: t) ((k, d) :: ds) where
  name rest done frames := by
    have hrest := hs.name rest ((k, d) :: done) frames
    rw [List.reverse_cons, List.append_assoc, List.singleton_append] at hrest
    rw [List.append_assoc, List.append_assoc, List.cons_append, List.cons_append,
      readTokens_field h k (endsNumber_comma _), tokens_comma]
    exact hrest
  firstName rest frames := by
    rw [List.append_assoc, List.append_assoc, tokens_quote]
    rfl

theorem FieldsReadAs.object {ds : List (String × Doc)} (h : FieldsReadAs s ds) :
    ReadAs ('\x7b' :: (s ++ ['\x7d'])) (.obj ds none) where
  value {rest} _ frames := by
    have hfields := h.name rest [] frames
    rw [← h.firstName] at hfields
    rw [List.cons_append, List.append_assoc, tokens_openObject]
    exact hfields
  firstItem _ frames := by
    rw [List.cons_append, tokens_openObject]
    rfl

end

theorem readAs_emptyArray : ReadAs ['[', ']'] (.arr [] none) where
  value {rest} _ frames := by
    rw [List.cons_append, List.singleton_append, tokens_openArray, tokens_closeArray]
    rfl
  firstItem _ frames := by
    rw [List.cons_append, tokens_openArray]
    rfl

theorem readAs_emptyObject : ReadAs ['\x7b', '\x7d'] (.obj [] none) where
  value {rest} _ frames := by
    rw [List.cons_append, List.singleton_append, tokens_openObject, tokens_closeObject]
    rfl
  firstItem _ frames := by
    rw [List.cons_append, tokens_openObject]
    rfl

/-- A text read as a document is read as it alone, with nothing after it. -/
theorem ReadAs.readChars {s : List Char} {d : Doc} (h : ReadAs s d) : readChars s = ⟨d, false⟩ := by
  have hread := h.value endsNumber_nil []
  rw [List.append_nil] at hread
  rw [Json.readChars, hread]
  rfl

/-- What is decoded from a text that is read as a document. -/
theorem ReadAs.decodeText {α : Type} {s : List Char} {d : Doc} (h : ReadAs s d)
    (decoder : Decoder α) : decodeText decoder (String.ofList s) = decoder nestingLimit d := by
  rw [Json.decodeText, read, String.toList_ofList, h.readChars, Reading.decode]
  cases decoder nestingLimit d <;> rfl

/-! ## Data with room enough -/

/-- The data, or the fault of a text that has none. -/
def orMalformed {α : Type} : Option α → Except Fault α
  | some a => .ok a
  | none => .error .malformed

/-- With room for `n` levels or more a document has the same data, or is malformed. -/
def Settled (n : Nat) (d : Doc) : Prop :=
  ∃ o, ∀ room, n ≤ room → d.value room = orMalformed o

@[inherit_doc Settled]
def SettledItems (n : Nat) (ds : List Doc) : Prop :=
  ∃ o, ∀ room, n ≤ room → Doc.values room ds = orMalformed o

@[inherit_doc Settled]
def SettledFields (n : Nat) (ds : List (String × Doc)) : Prop :=
  ∃ o, ∀ room, n ≤ room → Doc.fieldValues room ds = orMalformed o

section
variable {n m : Nat} {d : Doc}

theorem SettledItems.nil : SettledItems n [] := ⟨some [], fun _ _ => rfl⟩

theorem SettledItems.cons {ds : List Doc} (h : Settled n d) (hs : SettledItems m ds) :
    SettledItems (max n m) (d :: ds) := by
  obtain ⟨o, ho⟩ := h
  obtain ⟨os, hos⟩ := hs
  refine ⟨o.bind fun j => os.map (j :: ·), fun room hroom => ?_⟩
  rw [Doc.values, ho room (by omega), hos room (by omega)]
  cases o <;> cases os <;> rfl

theorem SettledFields.nil : SettledFields n [] := ⟨some [], fun _ _ => rfl⟩

theorem SettledFields.cons {ds : List (String × Doc)} (h : Settled n d) (k : String)
    (hs : SettledFields m ds) : SettledFields (max n m) ((k, d) :: ds) := by
  obtain ⟨o, ho⟩ := h
  obtain ⟨os, hos⟩ := hs
  refine ⟨o.bind fun j => os.map ((k, j) :: ·), fun room hroom => ?_⟩
  rw [Doc.fieldValues, ho room (by omega), hos room (by omega)]
  cases o <;> cases os <;> rfl

theorem SettledItems.array {ds : List Doc} (h : SettledItems n ds) :
    Settled (n + 1) (.arr ds none) := by
  obtain ⟨o, ho⟩ := h
  refine ⟨o.map .arr, fun room hroom => ?_⟩
  rw [Doc.value, if_neg (by omega), ho (room - 1) (by omega)]
  cases o <;> rfl

/-- The data of an object is an object. -/
theorem SettledFields.value {ds : List (String × Doc)} (h : SettledFields n ds) :
    ∃ o : Option (List (String × Json)), ∀ room, n + 1 ≤ room →
      (Doc.obj ds none).value room = orMalformed (o.map Json.obj) := by
  obtain ⟨o, ho⟩ := h
  refine ⟨o.map ofFields, fun room hroom => ?_⟩
  rw [Doc.value, if_neg (by omega), ho (room - 1) (by omega)]
  cases o <;> rfl

theorem SettledFields.object {ds : List (String × Doc)} (h : SettledFields n ds) :
    Settled (n + 1) (.obj ds none) := by
  obtain ⟨o, ho⟩ := h.value
  exact ⟨_, ho⟩

end

/-! ## Written values -/

theorem reads_number (n : Number) : ∃ d, ReadAs n.write d ∧ Settled 0 d := by
  obtain ⟨t, d, htoken, htokens⟩ := tokens_number n
  refine ⟨d, ?_⟩
  cases htoken with
  | inRange m => exact ⟨.scalar rfl rfl htokens, some (.num m), fun _ _ => rfl⟩
  | outOfRange => exact ⟨.scalar rfl rfl htokens, none, fun _ _ => rfl⟩

-- The induction follows the printer: a single item or field, or the first of several and a comma.
mutual

/-- **The text of a value is read whole**, and as the same data whatever room there is. -/
theorem reads_write (j : Json) : ∃ d, ReadAs (write j) d ∧ Settled (depth j) d := by
  match j with
  | .null =>
    exact ⟨.null, .scalar rfl rfl fun rest _ => tokens_nullWord rest, some .null, fun _ _ => rfl⟩
  | .bool b =>
    exact ⟨.bool b, .scalar rfl rfl fun rest _ => tokens_boolWord b rest, some (.bool b),
      fun _ _ => rfl⟩
  | .num n => exact reads_number n
  | .str s =>
    exact ⟨.str s, .scalar rfl rfl fun rest _ => tokens_quote s rest, some (.str s), fun _ _ => rfl⟩
  | .arr [] => exact ⟨_, readAs_emptyArray, SettledItems.nil.array⟩
  | .arr (j :: items) =>
    obtain ⟨ds, hread, hsettled⟩ := reads_writeItems (j :: items) (List.cons_ne_nil _ _)
    exact ⟨_, hread.array, hsettled.array⟩
  | .obj [] => exact ⟨_, readAs_emptyObject, SettledFields.nil.object⟩
  | .obj (f :: fields) =>
    obtain ⟨ds, hread, hsettled⟩ := reads_writeFields (f :: fields) (List.cons_ne_nil _ _)
    exact ⟨_, hread.object, hsettled.object⟩

theorem reads_writeItems (items : List Json) (hitems : items ≠ []) :
    ∃ ds, ItemsReadAs (writeItems items) ds ∧ SettledItems (itemsDepth items) ds := by
  match items with
  | [] => exact absurd rfl hitems
  | [j] =>
    obtain ⟨d, hread, hsettled⟩ := reads_write j
    exact ⟨_, .single hread, .cons hsettled .nil⟩
  | j :: i :: items =>
    obtain ⟨d, hread, hsettled⟩ := reads_write j
    obtain ⟨ds, hreads, hsettleds⟩ := reads_writeItems (i :: items) (List.cons_ne_nil _ _)
    exact ⟨_, .cons hread hreads, .cons hsettled hsettleds⟩

theorem reads_writeFields (fields : List (String × Json)) (hfields : fields ≠ []) :
    ∃ ds, FieldsReadAs (writeFields fields) ds ∧ SettledFields (fieldsDepth fields) ds := by
  match fields with
  | [] => exact absurd rfl hfields
  | [(k, j)] =>
    obtain ⟨d, hread, hsettled⟩ := reads_write j
    exact ⟨_, .single hread k, .cons hsettled k .nil⟩
  | (k, j) :: f :: fields =>
    obtain ⟨d, hread, hsettled⟩ := reads_write j
    obtain ⟨ds, hreads, hsettleds⟩ := reads_writeFields (f :: fields) (List.cons_ne_nil _ _)
    exact ⟨_, .cons hread k hreads, .cons hsettled k hsettleds⟩

end

/-- **The text of an object is read as an object.** -/
theorem reads_object (fields : List (String × Json)) :
    ∃ ds, ReadAs (write (.obj fields)) (.obj ds none) ∧ SettledFields (fieldsDepth fields) ds := by
  cases fields with
  | nil => exact ⟨_, readAs_emptyObject, .nil⟩
  | cons f fields =>
    obtain ⟨ds, hread, hsettled⟩ := reads_writeFields (f :: fields) (List.cons_ne_nil _ _)
    exact ⟨ds, hread.object, hsettled⟩

/-! ## One line -/

/-- A text without control characters. -/
def Printable (s : List Char) : Prop := ∀ c ∈ s, 0x20 ≤ c.toNat

instance (s : List Char) : Decidable (Printable s) := List.decidableBAll _ s

section
variable {s t : List Char}

theorem Printable.append (hs : Printable s) (ht : Printable t) : Printable (s ++ t) :=
  List.forall_mem_append.2 ⟨hs, ht⟩

theorem Printable.cons {c : Char} (hc : 0x20 ≤ c.toNat) (hs : Printable s) : Printable (c :: s) :=
  List.forall_mem_cons.2 ⟨hc, hs⟩

theorem printable_digits (h : ∀ c ∈ s, c.isDigit = true) : Printable s := by
  intro c hc
  have hdigit := h c hc
  rw [Char.isDigit, Bool.and_eq_true, decide_eq_true_eq, decide_eq_true_eq] at hdigit
  have hlow : 48 ≤ c.toNat := hdigit.1
  omega

theorem Unsigned.printable (h : Unsigned s) : Printable s := by
  obtain ⟨hwhole, hfraction, hexponent⟩ := h
  refine .append ?_ (.append ?_ ?_)
  · cases hwhole with
    | zero => decide
    | leading h => exact printable_digits h.digits.2
  · cases hfraction with
    | none => exact List.forall_mem_nil _
    | digits h => exact .cons (by decide) (printable_digits h.2)
  · cases hexponent with
    | none => exact List.forall_mem_nil _
    | digits hsign h =>
      refine .cons (by decide) (.cons ?_ (printable_digits h.2))
      rcases hsign with rfl | rfl <;> decide

theorem printable_number (n : Number) : Printable n.write := by
  obtain ⟨s, hs, hwrite | hwrite⟩ := unsigned_write n
  · rw [hwrite]
    exact hs.printable
  · rw [hwrite]
    exact .cons (by decide) hs.printable

theorem printable_escapeChar (c : Char) : Printable (escapeChar c) := by
  have hhex : ∀ n < 16, 0x20 ≤ (hexDigit n).toNat := by decide
  unfold escapeChar
  split_ifs with hquote hslash hcontrol
  iterate 7 decide
  · have hlong : Printable ['\\', 'u', '0', '0'] := by decide
    have hdigits : Printable [hexDigit (c.toNat / 16), hexDigit (c.toNat % 16)] :=
      .cons (hhex _ (by omega)) (.cons (hhex _ (by omega)) (List.forall_mem_nil _))
    exact hlong.append hdigits
  · exact .cons (by omega) (List.forall_mem_nil _)

theorem printable_quote (s : String) : Printable (quote s) := by
  refine .cons (by decide) (.append (fun c hc => ?_) (by decide))
  obtain ⟨d, -, hd⟩ := List.mem_flatMap.1 hc
  exact printable_escapeChar d c hd

end

mutual

/-- **The compact text of a value has no control characters**, so it stands on one line. -/
theorem printable_write (j : Json) : Printable (write j) := by
  match j with
  | .null => rw [write, nullWord]; decide
  | .bool b => rw [write]; cases b <;> decide
  | .num n => exact printable_number n
  | .str s => exact printable_quote s
  | .arr items => exact .cons (by decide) (.append (printable_writeItems items) (by decide))
  | .obj fields => exact .cons (by decide) (.append (printable_writeFields fields) (by decide))

theorem printable_writeItems (items : List Json) : Printable (writeItems items) := by
  match items with
  | [] => exact List.forall_mem_nil _
  | [j] => exact printable_write j
  | j :: i :: items =>
    exact .append (printable_write j) (.cons (by decide) (printable_writeItems (i :: items)))

theorem printable_writeFields (fields : List (String × Json)) : Printable (writeFields fields) := by
  match fields with
  | [] => exact List.forall_mem_nil _
  | [(k, j)] => exact .append (printable_quote k) (.cons (by decide) (printable_write j))
  | (k, j) :: f :: fields =>
    exact .append (.append (printable_quote k) (.cons (by decide) (printable_write j)))
      (.cons (by decide) (printable_writeFields (f :: fields)))

end

end Inquest.Json

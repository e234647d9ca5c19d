import Inquest.Json.Decode

/-! # Records are decoded as they are written

A record is written as an object with its fields in the order of their declaration. `Decoded` says
that a decoder takes a value for what was written.

* `fieldsOf_among`: the known fields of an object are found, if each passes its own check.
* `fieldsOf_written`: all fields of a written record are found.
* `decoded_listOf`, `decoded_nullable`: lists of values, and values that may be absent.
-/

namespace Inquest

theorem ok_bind {α β ε : Type} (a : α) (f : α → Except ε β) : (Except.ok a >>= f) = f a := rfl

theorem bind_eq_ok {α β ε : Type} {x : Except ε α} {f : α → Except ε β} {b : β} :
    x >>= f = .ok b ↔ ∃ a, x = .ok a ∧ f a = .ok b := by
  cases x <;> simp [bind, Except.bind]

namespace Json

/-- With room for `room` levels of nesting the decoder takes the value for `a`. -/
def Decoded {α : Type} (decoder : Decoder α) (room : Nat) (j : Json) (a : α) : Prop :=
  decoder room (toDoc j) = .ok a

theorem Decoded.eq {α : Type} {decoder : Decoder α} {room : Nat} {j : Json} {a : α}
    (h : Decoded decoder room j a) : decoder room (toDoc j) = .ok a := h

theorem decoded_text (room : Nat) (s : String) : Decoded text room (.str s) s := rfl

theorem decoded_truth (room : Nat) (b : Bool) : Decoded truth room (.bool b) b := rfl

theorem decoded_natBelow (room : Nat) {limit n : Nat} (h : n < limit) :
    Decoded (natBelow limit) room (.nat n) n := by
  have hrange : 0 ≤ (n : Int) ∧ (n : Int) < limit := by omega
  show natBelow limit room (.num (.int n)) = .ok n
  rw [natBelow, if_pos hrange]
  rfl

theorem decoded_nullable {α : Type} {decoder : Decoder α} {f : α → Json} {room : Nat} {o : Option α}
    (hnull : ∀ a, toDoc (f a) ≠ .null) (h : ∀ a ∈ o, Decoded decoder room (f a) a) :
    Decoded (nullable decoder) room (optional f o) o := by
  cases o with
  | none => rfl
  | some a =>
    show nullable decoder room (toDoc (f a)) = .ok (some a)
    rw [nullable, (h a rfl).eq]
    · rfl
    · exact hnull a

theorem decodeItems_written {α : Type} {decoder : Decoder α} {f : α → Json} {room : Nat}
    {as : List α}
    (h : ∀ a ∈ as, Decoded decoder room (f a) a) :
    decodeItems (decoder room) (toDocs (as.map f)) = .ok as := by
  induction as with
  | nil => rfl
  | cons a as ih =>
    rw [List.map_cons, toDocs, decodeItems, (h a List.mem_cons_self).eq,
      ih fun b hb => h b (List.mem_cons_of_mem _ hb)]
    rfl

theorem decoded_listOf {α : Type} {decoder : Decoder α} {f : α → Json} {room : Nat} {as : List α}
    (h : ∀ a ∈ as, Decoded decoder room (f a) a) :
    Decoded (listOf decoder) (room + 1) (.arr (as.map f)) as := by
  show listOf decoder (room + 1) (.arr (toDocs (as.map f)) none) = .ok as
  rw [listOf, Nat.add_sub_cancel, decodeItems_written h]
  rfl

/-! ## The fields of a record -/

theorem Decoded.check {α : Type} {decoder : Decoder α} {room : Nat} {j : Json} {a : α}
    (h : Decoded decoder room j a) (name : String) (optional : Bool) :
    (Field.of name decoder optional).check room (toDoc j) = .ok () := by
  show (decoder room (toDoc j)).map (fun _ => ()) = .ok ()
  rw [h.eq]
  rfl

theorem Decoded.get {α : Type} {decoder : Decoder α} {room : Nat} {j : Json} {a : α}
    (h : Decoded decoder room j a) {found : Found} {name : String}
    (hfound : found.lookup name = some (toDoc j)) : found.get (room + 1) name decoder = .ok a := by
  rw [Found.get, hfound]
  exact h

theorem Decoded.getD {α : Type} {decoder : Decoder α} {room : Nat} {j : Json} {a : α}
    (h : Decoded decoder room j a) {found : Found} {name : String} {default : α}
    (hfound : found.lookup name = some (toDoc j)) :
    found.getD (room + 1) name decoder default = .ok a := by
  rw [Found.getD, hfound]
  exact h

mutual

/-- A value without faults is passed over without one. -/
theorem skipFault_toDoc (j : Json) : (toDoc j).skipFault = none := by
  match j with
  | .null => rfl
  | .bool _ => rfl
  | .num _ => rfl
  | .str _ => rfl
  | .arr items => exact Option.or_none.trans (skipItems_toDocs items)
  | .obj fields => exact Option.or_none.trans (skipFields_toDocFields fields)

theorem skipItems_toDocs (items : List Json) : Doc.skipItems (toDocs items) = none := by
  match items with
  | [] => rfl
  | j :: rest =>
    rw [toDocs, Doc.skipItems, skipFault_toDoc j, skipItems_toDocs rest]
    rfl

theorem skipFields_toDocFields (fields : List (String × Json)) :
    Doc.skipFields (toDocFields fields) = none := by
  match fields with
  | [] => rfl
  | (_, j) :: rest =>
    rw [toDocFields, Doc.skipFields, skipFault_toDoc j, skipFields_toDocFields rest]
    rfl

end

/-- The field of a schema that has a name. -/
def known? (schema : List Field) (name : String) : Option Field :=
  schema.find? fun f => f.name == name

/-- A field passes its check, if the schema knows it. -/
def Passes (schema : List Field) (room : Nat) (f : String × Json) : Prop :=
  match known? schema f.1 with
  | some known => known.check room (toDoc f.2) = .ok ()
  | none => True

/-- The known fields are found among others. -/
theorem findNamed_among {schema : List Field} {room : Nat} {fields : List (String × Json)}
    {found : Found} (hfields : ∀ f ∈ fields, Passes schema room f)
    (hnames : (found.map Prod.fst ++ fields.map Prod.fst).Nodup) :
    findNamed schema room found (toDocFields fields) =
      .ok (found ++ toDocFields (fields.filter fun f => (known? schema f.1).isSome)) := by
  induction fields generalizing found with
  | nil => rw [toDocFields, findNamed, List.filter_nil, toDocFields, List.append_nil]
  | cons f fields ih =>
    obtain ⟨k, j⟩ := f
    have hpasses := hfields (k, j) List.mem_cons_self
    have hlater := fun f hf => hfields f (List.mem_cons_of_mem _ hf)
    rw [toDocFields, findNamed]
    -- an unknown field is passed over; a known one is checked, and is the first of its name
    rcases hk : schema.find? fun g => g.name == k with _ | known
    · have hrest : (found.map Prod.fst ++ fields.map Prod.fst).Nodup :=
        hnames.sublist ((List.sublist_cons_self ..).append_left _)
      rw [hk, List.filter_cons_of_neg (by simp [known?, hk]), ← ih hlater hrest]
      simp only [skipFault_toDoc, stopped]
      rfl
    · have hcheck : known.check room (toDoc j) = .ok () := by
        simpa [Passes, known?, hk] using hpasses
      have hnew : found.lookup k = none := by
        refine List.lookup_eq_none_iff.2 fun p hp => ?_
        rw [bne_iff_ne]
        intro h
        exact (List.nodup_append.1 hnames).2.2 k (h ▸ List.mem_map_of_mem hp) k
          List.mem_cons_self rfl
      have hfound : findNamed schema room (found ++ [(k, toDoc j)]) (toDocFields fields) = _ :=
        ih hlater (by simpa using hnames)
      rw [hk, List.filter_cons_of_pos (by simp [known?, hk]), toDocFields]
      simp only [hnew, Option.isSome_none, Bool.false_eq_true, if_false, hcheck]
      rw [List.append_assoc, List.singleton_append] at hfound
      exact hfound

/-- What is found under a name that the schema knows is what stands under it. -/
theorem lookup_findNamed {schema : List Field} {room : Nat} {found out : Found}
    {docs : List (String × Doc)} (h : findNamed schema room found docs = .ok out) {name : String}
    (hname : (known? schema name).isSome = true) :
    out.lookup name = (found.lookup name).or (docs.lookup name) := by
  induction docs generalizing found with
  | nil =>
    cases h
    rw [List.lookup_nil, Option.or_none]
  | cons f docs ih =>
    obtain ⟨k, d⟩ := f
    rw [findNamed] at h
    rcases hk : schema.find? fun g => g.name == k with _ | known
    · rw [hk] at h
      obtain ⟨-, -, hrest⟩ := bind_eq_ok.1 h
      have hne : (name == k) = false := by
        rw [beq_eq_false_iff_ne]
        rintro rfl
        rw [known?, hk] at hname
        cases hname
      rw [ih hrest, List.lookup_cons, hne]
    · rw [hk] at h
      simp only at h
      split at h
      · cases h
      · obtain ⟨-, -, hrest⟩ := bind_eq_ok.1 h
        rw [ih hrest, List.lookup_append, Option.or_assoc, List.lookup_cons, List.lookup_cons,
          List.lookup_nil]
        cases name == k <;> rfl

theorem lookup_toDocFields (fields : List (String × Json)) (name : String) :
    (toDocFields fields).lookup name = (fields.lookup name).map toDoc := by
  induction fields with
  | nil => rfl
  | cons f fields ih =>
    rw [toDocFields, List.lookup_cons, List.lookup_cons, ih]
    cases name == f.1 <;> rfl

/-- **A record is found among fields that nobody knows.** -/
theorem fieldsOf_among {room : Nat} {schema : List Field} {fields : List (String × Json)}
    (hfields : ∀ f ∈ fields, Passes schema room f) (hnames : (fields.map Prod.fst).Nodup) :
    fieldsOf schema (room + 1) (toDoc (.obj fields)) =
      .ok (toDocFields (fields.filter fun f => (known? schema f.1).isSome)) := by
  have hfound : findNamed schema room [] (toDocFields fields) = _ :=
    findNamed_among hfields hnames
  show (do
    if room + 1 = 0 then throw Fault.malformed
    let found ← findNamed schema (room + 1 - 1) [] (toDocFields fields)
    stopped none
    return found) = _
  rw [if_neg (Nat.succ_ne_zero room), Nat.add_sub_cancel, hfound]
  rfl

/-- The fields are those of the schema in its order, each passing its check. -/
def Fitting (room : Nat) : List Field → List (String × Json) → Prop
  | [], [] => True
  | f :: schema, (k, j) :: fields =>
    f.name = k ∧ f.check room (toDoc j) = .ok () ∧ Fitting room schema fields
  | _, _ => False

theorem Fitting.known {room : Nat} {schema : List Field} {fields : List (String × Json)}
    (h : Fitting room schema fields) (hnames : (fields.map Prod.fst).Nodup) :
    ∀ f ∈ fields, ∃ known, known? schema f.1 = some known ∧
      known.check room (toDoc f.2) = .ok () := by
  induction fields generalizing schema with
  | nil => exact nofun
  | cons f fields ih =>
    obtain ⟨k, j⟩ := f
    cases schema with
    | nil => exact h.elim
    | cons g schema =>
      obtain ⟨hname, hcheck, hlater⟩ := h
      rw [List.map_cons, List.nodup_cons] at hnames
      intro f hf
      rw [known?, List.find?_cons, hname]
      rcases List.mem_cons.1 hf with rfl | hf
      · exact ⟨g, by rw [beq_self_eq_true], hcheck⟩
      · have hne : k ≠ f.1 := by
          intro h
          rw [h] at hnames
          exact hnames.1 (List.mem_map.2 ⟨f, hf, rfl⟩)
        rw [beq_false_of_ne hne]
        exact ih hlater hnames.2 f hf

/-- **A record is found as it is written.** -/
theorem fieldsOf_written {room : Nat} {schema : List Field} {fields : List (String × Json)}
    (hfit : Fitting room schema fields) (hnames : (fields.map Prod.fst).Nodup) :
    fieldsOf schema (room + 1) (toDoc (.obj fields)) = .ok (toDocFields fields) := by
  have hknown := hfit.known hnames
  have hall : fields.filter (fun f => (known? schema f.1).isSome) = fields := by
    refine List.filter_eq_self.2 fun f hf => ?_
    obtain ⟨known, hk, -⟩ := hknown f hf
    rw [hk]
    rfl
  rw [fieldsOf_among _ hnames, hall]
  intro f hf
  obtain ⟨known, hk, hcheck⟩ := hknown f hf
  rw [Passes, hk]
  exact hcheck

end Json

end Inquest

import Inquest.Proofs.Json.Fields
import Inquest.Proofs.Json.Lexing
import Inquest.Proofs.Json.Records
import Mathlib.Algebra.Group.Int.Defs

/-! # What a text can hold as generic data

Generic data that is read from a text is in order: no deeper than the reader goes, and every object
with its names sorted, each once (`Normal`). Its whole numbers are those of 64 bits (`InRange`). A
value in order is kept as it is when it is put back into a document (`value_toDoc`).

* `fits_value`: the data of a document.
* `all_readTokens`: the numbers of a document stand in the text. `inRange_tokens`: those of a text.
* `fits_of_parse`: the data of a text.
-/

namespace Inquest.Json

/-! ## Data in order -/

mutual

/-- The numbers that a value holds. -/
def numbers : Json → List Number
  | .num n => [n]
  | .arr items => itemsNumbers items
  | .obj fields => fieldsNumbers fields
  | _ => []

@[inherit_doc numbers]
def itemsNumbers : List Json → List Number
  | [] => []
  | j :: rest => numbers j ++ itemsNumbers rest

@[inherit_doc numbers]
def fieldsNumbers : List (String × Json) → List Number
  | [] => []
  | (_, j) :: rest => numbers j ++ fieldsNumbers rest

end

mutual

/-- A value is nested at most `room` levels deep, and in every object the names are sorted, each
once. -/
def Normal (room : Nat) : Json → Prop
  | .arr items => 0 < room ∧ NormalItems (room - 1) items
  | .obj fields =>
    0 < room ∧ (fields.map Prod.fst).Pairwise (· < ·) ∧ NormalFields (room - 1) fields
  | _ => True

@[inherit_doc Normal]
def NormalItems (room : Nat) : List Json → Prop
  | [] => True
  | j :: rest => Normal room j ∧ NormalItems room rest

@[inherit_doc Normal]
def NormalFields (room : Nat) : List (String × Json) → Prop
  | [] => True
  | (_, j) :: rest => Normal room j ∧ NormalFields room rest

end

section
variable {room : Nat} {n : Number}

theorem mem_itemsNumbers {items : List Json} :
    n ∈ itemsNumbers items ↔ ∃ j ∈ items, n ∈ numbers j := by
  induction items with
  | nil => simp [itemsNumbers]
  | cons j rest ih => simp [itemsNumbers, ih]

theorem mem_fieldsNumbers {fields : List (String × Json)} :
    n ∈ fieldsNumbers fields ↔ ∃ f ∈ fields, n ∈ numbers f.2 := by
  induction fields with
  | nil => simp [fieldsNumbers]
  | cons f rest ih => simp [fieldsNumbers, ih]

theorem normalItems_iff {items : List Json} :
    NormalItems room items ↔ ∀ j ∈ items, Normal room j := by
  induction items with
  | nil => simp [NormalItems]
  | cons j rest ih => simp [NormalItems, ih]

theorem normalFields_iff {fields : List (String × Json)} :
    NormalFields room fields ↔ ∀ f ∈ fields, Normal room f.2 := by
  induction fields with
  | nil => simp [NormalFields]
  | cons f rest ih => simp [NormalFields, ih]

end

/-- A value is in order, and what is asked of numbers holds of its own. -/
structure Fits (P : Number → Prop) (room : Nat) (j : Json) : Prop where
  normal : Normal room j
  numbers : ∀ n ∈ numbers j, P n

section
variable {P : Number → Prop} {room : Nat}

theorem fits_arr {items : List Json} (h : ∀ j ∈ items, Fits P room j) :
    Fits P (room + 1) (.arr items) where
  normal := ⟨Nat.succ_pos room, normalItems_iff.2 fun j hj => (h j hj).normal⟩
  numbers n hn := by
    obtain ⟨j, hj, hn⟩ := mem_itemsNumbers.1 hn
    exact (h j hj).numbers n hn

theorem fits_obj {fields : List (String × Json)} (hsorted : (fields.map Prod.fst).Pairwise (· < ·))
    (h : ∀ f ∈ fields, Fits P room f.2) : Fits P (room + 1) (.obj fields) where
  normal := ⟨Nat.succ_pos room, hsorted, normalFields_iff.2 fun f hf => (h f hf).normal⟩
  numbers n hn := by
    obtain ⟨f, hf, hn⟩ := mem_fieldsNumbers.1 hn
    exact (h f hf).numbers n hn

end

/-! ## From documents -/

mutual

/-- What is asked of numbers holds of those of a document. -/
def Doc.All (P : Number → Prop) : Doc → Prop
  | .num n => P n
  | .arr items _ => Doc.AllItems P items
  | .obj fields _ => Doc.AllFields P fields
  | _ => True

@[inherit_doc Doc.All]
def Doc.AllItems (P : Number → Prop) : List Doc → Prop
  | [] => True
  | d :: rest => d.All P ∧ Doc.AllItems P rest

@[inherit_doc Doc.All]
def Doc.AllFields (P : Number → Prop) : List (String × Doc) → Prop
  | [] => True
  | (_, d) :: rest => d.All P ∧ Doc.AllFields P rest

end

mutual

/-- **The data of a document is in order.** -/
theorem fits_value {P : Number → Prop} {room : Nat} {d : Doc} {j : Json} (hd : d.All P)
    (h : d.value room = .ok j) : Fits P room j := by
  match d with
  | .null | .bool _ | .str _ =>
    cases h
    exact ⟨trivial, List.forall_mem_nil _⟩
  | .num n =>
    cases h
    exact ⟨trivial, fun m hm => List.mem_singleton.1 hm ▸ hd⟩
  | .arr items stop =>
    unfold Doc.value at h
    split at h
    · cases h
    · next hroom =>
      obtain ⟨room, rfl⟩ := Nat.exists_eq_succ_of_ne_zero hroom
      simp only [bind_eq_ok] at h
      obtain ⟨_, hvalues, _, _, hj⟩ := h
      cases hj
      exact fits_arr (fits_values hd hvalues)
  | .obj fields stop =>
    unfold Doc.value at h
    split at h
    · cases h
    · next hroom =>
      obtain ⟨room, rfl⟩ := Nat.exists_eq_succ_of_ne_zero hroom
      simp only [bind_eq_ok] at h
      obtain ⟨found, hvalues, _, _, hj⟩ := h
      cases hj
      have hfound := fits_fieldValues hd hvalues
      exact fits_obj (pairwise_ofFields found) fun f hf => hfound f (mem_ofFields hf)
  | .fault _ _ => cases h

theorem fits_values {P : Number → Prop} {room : Nat} {ds : List Doc} {items : List Json}
    (hds : Doc.AllItems P ds) (h : Doc.values room ds = .ok items) :
    ∀ j ∈ items, Fits P room j := by
  match ds with
  | [] =>
    cases h
    exact List.forall_mem_nil _
  | d :: ds =>
    simp only [Doc.values, bind_eq_ok] at h
    obtain ⟨j, hj, rest, hrest, hitems⟩ := h
    cases hitems
    exact List.forall_mem_cons.2 ⟨fits_value hds.1 hj, fits_values hds.2 hrest⟩

theorem fits_fieldValues {P : Number → Prop} {room : Nat} {ds : List (String × Doc)}
    {fields : List (String × Json)} (hds : Doc.AllFields P ds)
    (h : Doc.fieldValues room ds = .ok fields) : ∀ f ∈ fields, Fits P room f.2 := by
  match ds with
  | [] =>
    cases h
    exact List.forall_mem_nil _
  | (k, d) :: ds =>
    simp only [Doc.fieldValues, bind_eq_ok] at h
    obtain ⟨j, hj, rest, hrest, hfields⟩ := h
    cases hfields
    exact List.forall_mem_cons.2 ⟨fits_value hds.1 hj, fits_fieldValues hds.2 hrest⟩

end

/-- An object is read from a whole object, and from the values of its members. -/
theorem obj_of_value {room : Nat} {d : Doc} {fields : List (String × Json)}
    (h : d.value room = .ok (.obj fields)) :
    ∃ docs members, d = .obj docs none ∧ Doc.fieldValues (room - 1) docs = .ok members ∧
      fields = ofFields members := by
  cases d with
  | obj docs stop =>
    unfold Doc.value at h
    split at h
    · cases h
    · simp only [bind_eq_ok] at h
      obtain ⟨members, hmembers, _, hstop, hfields⟩ := h
      cases hfields
      cases stop with
      | none => exact ⟨docs, members, rfl, hmembers, rfl⟩
      | some f => cases hstop
  | arr docs stop =>
    unfold Doc.value at h
    split at h
    · cases h
    · simp only [bind_eq_ok] at h
      obtain ⟨_, _, _, _, hitems⟩ := h
      cases hitems
  | _ => cases h

mutual

/-- **A value in order is the data of its own document.** -/
theorem value_toDoc {room : Nat} {j : Json} (h : Normal room j) : (toDoc j).value room = .ok j := by
  match j with
  | .null | .bool _ | .num _ | .str _ => rfl
  | .arr items =>
    obtain ⟨hroom, hitems⟩ := h
    rw [toDoc, Doc.value, if_neg (Nat.ne_of_gt hroom), values_toDocs hitems]
    rfl
  | .obj fields =>
    obtain ⟨hroom, hsorted, hfields⟩ := h
    rw [toDoc, Doc.value, if_neg (Nat.ne_of_gt hroom), fieldValues_toDocFields hfields]
    exact congrArg (fun fields => Except.ok (Json.obj fields)) (ofFields_of_pairwise hsorted)

theorem values_toDocs {room : Nat} {items : List Json} (h : NormalItems room items) :
    Doc.values room (toDocs items) = .ok items := by
  match items with
  | [] => rfl
  | j :: rest =>
    rw [toDocs, Doc.values, value_toDoc h.1, values_toDocs h.2]
    rfl

theorem fieldValues_toDocFields {room : Nat} {fields : List (String × Json)}
    (h : NormalFields room fields) : Doc.fieldValues room (toDocFields fields) = .ok fields := by
  match fields with
  | [] => rfl
  | (k, j) :: rest =>
    rw [toDocFields, Doc.fieldValues, value_toDoc h.1, fieldValues_toDocFields h.2]
    rfl

end

mutual

theorem Normal.mono {room more : Nat} {j : Json} (hle : room ≤ more) (h : Normal room j) :
    Normal more j := by
  match j with
  | .null | .bool _ | .num _ | .str _ => trivial
  | .arr items =>
    exact ⟨Nat.lt_of_lt_of_le h.1 hle, NormalItems.mono (Nat.sub_le_sub_right hle 1) h.2⟩
  | .obj fields =>
    exact ⟨Nat.lt_of_lt_of_le h.1 hle, h.2.1, NormalFields.mono (Nat.sub_le_sub_right hle 1) h.2.2⟩

theorem NormalItems.mono {room more : Nat} {items : List Json} (hle : room ≤ more)
    (h : NormalItems room items) : NormalItems more items := by
  match items with
  | [] => trivial
  | j :: rest => exact ⟨Normal.mono hle h.1, NormalItems.mono hle h.2⟩

theorem NormalFields.mono {room more : Nat} {fields : List (String × Json)} (hle : room ≤ more)
    (h : NormalFields room fields) : NormalFields more fields := by
  match fields with
  | [] => trivial
  | (k, j) :: rest => exact ⟨Normal.mono hle h.1, NormalFields.mono hle h.2⟩

end

/-! ## From tokens -/

section
variable {P : Number → Prop} {d : Doc} {t : Token} {frames : List Frame}

theorem allItems_iff {ds : List Doc} : Doc.AllItems P ds ↔ ∀ d ∈ ds, d.All P := by
  induction ds with
  | nil => simp [Doc.AllItems]
  | cons d ds ih => simp [Doc.AllItems, ih]

theorem allFields_iff {ds : List (String × Doc)} : Doc.AllFields P ds ↔ ∀ f ∈ ds, f.2.All P := by
  induction ds with
  | nil => simp [Doc.AllFields]
  | cons f ds ih => simp [Doc.AllFields, ih]

/-- What is asked of numbers holds of those in an open array or object. -/
def Frame.All (P : Number → Prop) : Frame → Prop
  | .items done => ∀ d ∈ done, d.All P
  | .fields done _ => ∀ f ∈ done, f.2.All P

/-- What is asked of numbers holds of those that were read. -/
def Expects.All (P : Number → Prop) : Expects → Prop
  | .name done => ∀ f ∈ done, f.2.All P
  | .finished d => d.All P
  | _ => True

/-- What is asked of numbers still holds after a token. -/
def Kept (P : Number → Prop) : Except Doc (Expects × List Frame) → Prop
  | .ok (expects, frames) => expects.All P ∧ ∀ f ∈ frames, f.All P
  | .error d => d.All P

theorem all_arr_reverse {done : List Doc} {stop : Option Fault} (h : ∀ d ∈ done, d.All P) :
    (Doc.arr done.reverse stop).All P :=
  allItems_iff.2 fun d hd => h d (List.mem_reverse.1 hd)

theorem all_obj_reverse {done : List (String × Doc)} {stop : Option Fault}
    (h : ∀ f ∈ done, f.2.All P) : (Doc.obj done.reverse stop).All P :=
  allFields_iff.2 fun f hf => h f (List.mem_reverse.1 hf)

theorem all_unwind (hd : d.All P) (hframes : ∀ f ∈ frames, f.All P) : (unwind d frames).All P := by
  induction frames generalizing d with
  | nil => exact hd
  | cons frame frames ih =>
    obtain ⟨hframe, hrest⟩ := List.forall_mem_cons.1 hframes
    cases frame with
    | items done => exact ih (all_arr_reverse (List.forall_mem_cons.2 ⟨hd, hframe⟩)) hrest
    | fields done key => exact ih (all_obj_reverse (List.forall_mem_cons.2 ⟨hd, hframe⟩)) hrest

theorem all_unwind_fault (f : Fault) (hframes : ∀ f ∈ frames, f.All P) :
    (unwind (faultValue f) frames).All P := by
  have hfault : (faultValue f).All P := trivial
  exact all_unwind hfault hframes

theorem all_stopHere (f : Fault) (hframes : ∀ f ∈ frames, f.All P) : (stopHere f frames).All P := by
  cases frames with
  | nil => trivial
  | cons frame frames =>
    obtain ⟨hframe, hrest⟩ := List.forall_mem_cons.1 hframes
    cases frame with
    | items done => exact all_unwind (all_arr_reverse hframe) hrest
    | fields done key => exact all_unwind (all_obj_reverse hframe) hrest

theorem kept_deliver (hd : d.All P) (hframes : ∀ f ∈ frames, f.All P) :
    Kept P (.ok (deliver d frames)) := by
  cases frames with
  | nil => exact ⟨hd, List.forall_mem_nil _⟩
  | cons frame frames =>
    obtain ⟨hframe, hrest⟩ := List.forall_mem_cons.1 hframes
    cases frame with
    | items done =>
      have hitems : (Frame.items (d :: done)).All P := List.forall_mem_cons.2 ⟨hd, hframe⟩
      exact ⟨trivial, List.forall_mem_cons.2 ⟨hitems, hrest⟩⟩
    | fields done key =>
      have hfields : (Frame.fields ((key, d) :: done) key).All P :=
        List.forall_mem_cons.2 ⟨hd, hframe⟩
      exact ⟨trivial, List.forall_mem_cons.2 ⟨hfields, hrest⟩⟩

theorem kept_close (hframes : ∀ f ∈ frames, f.All P) : Kept P (.ok (close frames)) := by
  cases frames with
  | nil => exact ⟨trivial, List.forall_mem_nil _⟩
  | cons frame frames =>
    obtain ⟨hframe, hrest⟩ := List.forall_mem_cons.1 hframes
    cases frame with
    | items done => exact kept_deliver (all_arr_reverse hframe) hrest
    | fields done key => exact kept_deliver (all_obj_reverse hframe) hrest

theorem all_scalar (ht : ∀ n, t = .num n → P n) (h : scalar? t = some d) : d.All P := by
  cases t <;> cases h
  case num n => exact ht n rfl
  all_goals trivial

theorem kept_takeValue (ht : ∀ n, t = .num n → P n) (hframes : ∀ f ∈ frames, f.All P) :
    Kept P (takeValue t frames) := by
  unfold takeValue
  split
  · have hitems : (Frame.items []).All P := List.forall_mem_nil _
    exact ⟨trivial, List.forall_mem_cons.2 ⟨hitems, hframes⟩⟩
  · have hfields : (Frame.fields [] "").All P := List.forall_mem_nil _
    exact ⟨trivial, List.forall_mem_cons.2 ⟨hfields, hframes⟩⟩
  · split
    · next hd =>
      have hall := all_scalar ht hd
      split
      · exact all_unwind hall hframes
      · exact kept_deliver hall hframes
    · exact all_unwind_fault _ hframes

theorem kept_takeName {done : List (String × Doc)} (hdone : ∀ f ∈ done, f.2.All P)
    (hframes : ∀ f ∈ frames, f.All P) : Kept P (takeName t done frames) := by
  have hopen : ∀ key, ∀ f ∈ Frame.fields done key :: frames, f.All P :=
    fun key => List.forall_mem_cons.2 ⟨hdone, hframes⟩
  unfold takeName
  split
  · exact ⟨trivial, hopen _⟩
  · exact all_stopHere _ (hopen _)
  · exact all_stopHere _ (hopen _)

theorem kept_takeMore (hframes : ∀ f ∈ frames, f.All P) : Kept P (takeMore t frames) := by
  unfold takeMore
  split
  · exact ⟨trivial, hframes⟩
  · exact List.forall_mem_cons.1 hframes
  · exact kept_close hframes
  · exact kept_close hframes
  · exact all_stopHere _ hframes

theorem kept_takeToken {expects : Expects} (ht : ∀ n, t = .num n → P n) (hexpects : expects.All P)
    (hframes : ∀ f ∈ frames, f.All P) : Kept P (takeToken t expects frames) := by
  cases expects with
  | value => exact kept_takeValue ht hframes
  | firstItem =>
    simp only [takeToken]
    split
    · exact kept_close hframes
    · exact kept_takeValue ht hframes
  | firstName =>
    simp only [takeToken]
    split
    · exact kept_close hframes
    · exact kept_takeName (List.forall_mem_nil _) fun f hf => hframes f (List.mem_of_mem_drop hf)
  | name done => exact kept_takeName hexpects hframes
  | colon =>
    simp only [takeToken]
    split
    · exact ⟨trivial, hframes⟩
    · exact all_unwind_fault _ hframes
  | more => exact kept_takeMore hframes
  | finished d => exact hexpects

theorem all_takeEnd {expects : Expects} (hexpects : expects.All P)
    (hframes : ∀ f ∈ frames, f.All P) : (takeEnd expects frames).All P := by
  cases expects with
  | value | colon => exact all_unwind_fault _ hframes
  | name done =>
    have hopen : ∀ f ∈ Frame.fields done "" :: frames, f.All P :=
      List.forall_mem_cons.2 ⟨hexpects, hframes⟩
    exact all_stopHere _ hopen
  | finished d => exact hexpects
  | firstItem | firstName | more => exact all_stopHere _ hframes

/-- **The numbers of a document stand in its text.** -/
theorem all_readTokens {ts : List Token} {expects : Expects} (hts : ∀ n, .num n ∈ ts → P n)
    (hexpects : expects.All P) (hframes : ∀ f ∈ frames, f.All P) :
    (readTokens ts expects frames).doc.All P := by
  fun_induction readTokens ts expects frames with
  | case1 expects frames => exact all_takeEnd hexpects hframes
  | case2 t ts d frames => exact hexpects
  | case3 t ts expects frames hne expects' frames' htake ih =>
    have hkept := kept_takeToken (fun n hn => hts n (hn ▸ List.mem_cons_self)) hexpects hframes
    rw [htake] at hkept
    exact ih (fun n hn => hts n (List.mem_cons_of_mem _ hn)) hkept.1 hkept.2
  | case4 t ts expects frames hne d htake =>
    have hkept := kept_takeToken (fun n hn => hts n (hn ▸ List.mem_cons_self)) hexpects hframes
    rwa [htake] at hkept

end

/-! ## From texts -/

/-- Whole numbers have 64 bits. -/
def InRange : Number → Prop
  | .int n => -2 ^ 63 ≤ n ∧ n < 2 ^ 64
  | .double _ => True

/-- A number that was scanned is in range. -/
def Scanned.InRange (scanned : Scanned) : Prop := ∀ n, scanned.1 = .ok (some n) → Json.InRange n

theorem growSignificand_lt (taken : Nat) (s : List Char) {n : Nat} (hn : n < significandLimit) :
    (growSignificand n taken s).1 < significandLimit := by
  fun_induction growSignificand n taken s with
  | case3 n taken c rest d hd hlt ih => exact ih hlt
  | _ => exact hn

section
variable {negative : Bool} {n : Nat} {power : Int} {s : List Char}

theorem inRange_missingDigit : (missingDigit s).InRange := nofun

theorem inRange_scaledNumber : (scaledNumber negative n power s).InRange := by
  intro m hm
  obtain ⟨x, -, rfl⟩ := Option.map_eq_some_iff.1 (Except.ok.inj hm)
  trivial

theorem inRange_exponentDigits {down : Bool} :
    (exponentDigits negative n power down s).InRange := by
  unfold exponentDigits
  split
  · exact inRange_missingDigit
  · split
    · exact inRange_missingDigit
    · exact inRange_scaledNumber

theorem inRange_scanExponent : (scanExponent negative n power s).InRange :=
  inRange_exponentDigits

theorem inRange_scanExponentPart : (scanExponentPart negative n power s).InRange := by
  unfold scanExponentPart
  split
  · exact inRange_scanExponent
  · exact inRange_scanExponent
  · exact inRange_scaledNumber

theorem inRange_scanFraction : (scanFraction negative n power s).InRange := by
  rw [scanFraction.eq_def]
  rcases growSignificand n 0 s with ⟨grown, taken, _ | ⟨c, rest⟩⟩
  · simp only
    split
    · exact inRange_missingDigit
    · exact inRange_scanExponentPart
  · simp only
    split
    · exact inRange_scanExponentPart
    · split
      · exact inRange_missingDigit
      · exact inRange_scanExponentPart

theorem inRange_scanLongTail {extra : Nat} : (scanLongTail negative n extra s).InRange := by
  unfold scanLongTail
  split
  · exact inRange_scanFraction
  · exact inRange_scanExponentPart

end

theorem inRange_integerNumber {negative : Bool} {n : Nat} (hn : n < significandLimit) {m : Number}
    (h : integerNumber negative n = some m) : InRange m := by
  unfold significandLimit at hn
  unfold integerNumber at h
  split at h
  · split at h
    · next hsmall =>
      cases h
      simp only [InRange]
      omega
    · obtain ⟨x, -, rfl⟩ := Option.map_eq_some_iff.1 h
      trivial
  · cases h
    simp only [InRange]
    omega

theorem inRange_scanTail {negative : Bool} {n : Nat} {s : List Char} (hn : n < significandLimit) :
    (scanTail negative n s).InRange := by
  unfold scanTail
  split
  · exact inRange_scanFraction
  · exact inRange_scanExponent
  · exact inRange_scanExponent
  · exact fun m hm => inRange_integerNumber hn (Except.ok.inj hm)

theorem inRange_scanNumber (negative : Bool) (s : List Char) : (scanNumber negative s).InRange := by
  have hzero : 0 < significandLimit := by decide
  unfold scanNumber
  split
  · exact inRange_missingDigit
  · split
    · split
      · exact nofun
      · exact inRange_scanTail hzero
    · exact inRange_scanTail hzero
  · split
    · exact nofun
    · simp only
      split
      · exact inRange_scanTail (growSignificand_lt 0 _ hzero)
      · exact inRange_scanLongTail

theorem inRange_numberToken {negative : Bool} {s : List Char} {n : Number}
    (h : (numberToken negative s).1 = .num n) : InRange n := by
  unfold numberToken at h
  split at h
  · next hscan =>
    cases h
    exact inRange_scanNumber negative s n (congrArg Prod.fst hscan)
  · cases h
  · cases h

theorem textToken_ne_num (s : List Char) (n : Number) : (textToken s).1 ≠ .num n := by
  unfold textToken
  split
  · split <;> exact nofun
  · split <;> exact nofun

theorem wordToken_ne_num (word : List Char) {t : Token} (s : List Char) {n : Number}
    (ht : t ≠ .num n) : (wordToken word t s).1 ≠ .num n := by
  induction word generalizing s with
  | nil => exact ht
  | cons w word ih =>
    cases s with
    | nil => simp [wordToken]
    | cons c s =>
      rw [wordToken]
      split
      · exact ih s
      · simp

theorem inRange_firstToken {c : Char} {s : List Char} {n : Number}
    (h : (firstToken c s).1 = .num n) : InRange n := by
  unfold firstToken at h
  split at h
  case h_7 => exact absurd h (textToken_ne_num s n)
  case h_8 => exact inRange_numberToken h
  case h_9 | h_10 | h_11 => exact absurd h (wordToken_ne_num _ s nofun)
  case h_12 =>
    split at h
    · exact inRange_numberToken h
    · cases h
  all_goals cases h

/-- **The whole numbers of a text have 64 bits.** -/
theorem inRange_tokens {s : List Char} {n : Number} (h : .num n ∈ tokens s) : InRange n := by
  unfold tokens at h
  generalize s.length = fuel at h
  fun_induction tokensFor fuel s with
  | case1 | case2 => cases h
  | case3 fuel c rest hspace ih => exact ih h
  | case4 fuel c rest hspace token later htoken ih =>
    rcases List.mem_cons.1 h with hn | h
    · exact inRange_firstToken (by rw [htoken]; exact hn.symm)
    · exact ih h

theorem all_read (s : String) : (read s).doc.All InRange :=
  all_readTokens (fun _ => inRange_tokens) trivial (List.forall_mem_nil _)

/-- What a text is read as: the data of its document, with nothing after it. -/
theorem parse_eq_ok {s : String} {j : Json} :
    parse s = .ok j ↔ (read s).doc.value nestingLimit = .ok j ∧ (read s).trailing = false := by
  rw [parse, decodeText, Reading.decode, bind_eq_ok]
  constructor
  · rintro ⟨j, hvalue, hrest⟩
    split at hrest
    · cases hrest
    · next htrailing =>
      cases hrest
      exact ⟨hvalue, Bool.eq_false_iff.2 htrailing⟩
  · rintro ⟨hvalue, htrailing⟩
    refine ⟨j, hvalue, ?_⟩
    rw [htrailing]
    rfl

/-- **The data of a text is in order**, and its whole numbers have 64 bits. -/
theorem fits_of_parse {s : String} {j : Json} (h : parse s = .ok j) :
    Fits InRange nestingLimit j :=
  fits_value (all_read s) (parse_eq_ok.1 h).1

end Inquest.Json

import Inquest.Proofs.Decimal.Nearest
import Inquest.Proofs.Json.Compact
import Inquest.Proofs.Tool.Parameters

/-! # Arguments are decoded completely

The text of a call's arguments is blank, an object, other JSON, or no JSON, and which of these it is
decides what comes of it (`decoded_completely`). Of an object every member whose value is no array
is an argument, the last of several with one name counting, and its value is kept (`KeptAs`): an
object as a text that is that object again.

* `not_blank_of_parse`: a blank text is no JSON, whatever blanks it holds.
* `objectText_of_parse`: a text that is read as an object is the text of one, its members in order.
* `keptAs_keep`, `decodes_ofFields`: what comes of a value, and of the members of an object.
-/

namespace Inquest

open Decimal

/-! ## Blank texts -/

namespace Json

/-- A blank that JSON does not know opens no token. -/
theorem firstToken_blank {c : Char} (hblank : Text.isBlankChar c = true)
    (hspace : isSpace c = false) (rest : List Char) :
    firstToken c rest = (.broken .malformed (some .malformed), []) := by
  have hdigit : digitValue? c = none := by
    unfold digitValue?
    split
    · next hc =>
      have hlow : 48 ≤ c.toNat := hc.1
      have hhigh : c.toNat ≤ 57 := hc.2
      simp only [Text.isBlankChar, Bool.or_eq_true, Bool.and_eq_true, decide_eq_true_eq,
        beq_iff_eq] at hblank
      omega
    · rfl
  unfold firstToken
  split
  case h_12 => rw [hdigit]; rfl
  all_goals exact absurd hblank (by decide)

theorem tokens_blank {s : List Char} (h : s.all Text.isBlankChar = true) :
    tokens s = [] ∨ tokens s = [.broken .malformed (some .malformed)] := by
  induction s with
  | nil => exact .inl rfl
  | cons c s ih =>
    obtain ⟨hc, hs⟩ := Bool.and_eq_true_iff.1 (List.all_cons ▸ h)
    cases hspace : isSpace c with
    | true =>
      rw [tokens_space hspace]
      exact ih hs
    | false =>
      rw [tokens_cons hspace, firstToken_blank hc hspace]
      exact .inr rfl

/-- **A blank text is no JSON.** -/
theorem not_blank_of_parse {s : String} {j : Json} (h : parse s = .ok j) :
    ¬ Text.isBlank s = true := by
  intro hblank
  rw [parse, decodeText, read, readChars] at h
  rcases tokens_blank hblank with htokens | htokens <;> rw [htokens] at h <;> cases h

/-! ## Objects -/

/-- A text is an object with these members, in the order of the text. -/
def ObjectText (s : String) (members : List (String × Json)) : Prop :=
  ∃ docs, read s = ⟨.obj docs none, false⟩ ∧ Doc.fieldValues (nestingLimit - 1) docs = .ok members

/-- The last of the values with a name. -/
def lastOf (name : String) (members : List (String × Json)) : Option Json :=
  members.reverse.lookup name

theorem ObjectText.parse {s : String} {members : List (String × Json)} (h : ObjectText s members) :
    parse s = .ok (.obj (ofFields members)) := by
  obtain ⟨docs, hread, hvalues⟩ := h
  refine parse_eq_ok.2 ⟨?_, congrArg Reading.trailing hread⟩
  rw [hread, Doc.value, if_neg (by decide), hvalues]
  rfl

/-- The values of the members are in order. -/
theorem ObjectText.fits {s : String} {members : List (String × Json)} (h : ObjectText s members) :
    ∀ f ∈ members, Fits InRange (nestingLimit - 1) f.2 := by
  obtain ⟨docs, hread, hvalues⟩ := h
  have hall := all_read s
  rw [hread] at hall
  exact fits_fieldValues hall hvalues

/-- **A text that is read as an object is the text of one.** -/
theorem objectText_of_parse {s : String} {fields : List (String × Json)}
    (h : parse s = .ok (.obj fields)) : ∃ members, ObjectText s members := by
  obtain ⟨hvalue, htrailing⟩ := parse_eq_ok.1 h
  obtain ⟨docs, members, hdoc, hmembers, -⟩ := obj_of_value hvalue
  refine ⟨members, docs, ?_, hmembers⟩
  rw [← hdoc, ← htrailing]

end Json

namespace Parameters

/-! ## Values -/

/-- What an argument's value is kept as. A whole number is kept as its nearest double with its sign,
an object as a text that is read as that object, if the doubles in it read back. An array is not
kept. -/
def KeptAs : Json → Option Scalar → Prop
  | .null, kept => kept = some .null
  | .bool b, kept => kept = some (.bool b)
  | .num (.double x), kept => kept = some (.number x)
  | .num (.int n), kept =>
    ∃ x, kept = some (.number x) ∧ x.negative = decide (n < 0) ∧ x.Nearest n.natAbs
  | .str s, kept => kept = some (.text s)
  | .arr _, kept => kept = none
  | .obj fields, kept => ∃ t, kept = some (.text t) ∧
      ((∀ x, .double x ∈ Json.numbers (.obj fields) → Json.ReadsBack x) →
        Json.parse t = .ok (.obj fields))

/-- The double of a whole number of 64 bits. -/
theorem ofNumber_int {n : Int} (h : Json.InRange (.int n)) :
    ∃ x, Scalar.ofNumber (.int n) = some x ∧ x.negative = decide (n < 0) ∧ x.Nearest n.natAbs := by
  have hsize : n.natAbs < 2 ^ 64 := by
    simp only [Json.InRange] at h
    omega
  obtain ⟨x, hx, hsign, hnear⟩ := Binary64.ofNat?_nearest hsize
  rw [Scalar.ofNumber, hx]
  by_cases hn : n < 0
  · refine ⟨x.neg, ?_, ?_, hnear.closest, hnear.even⟩
    · rw [Option.map_some, if_pos hn]
    · simp [Binary64.neg, hsign, hn]
  · refine ⟨x, ?_, ?_, hnear⟩
    · rw [Option.map_some, if_neg hn]
    · simp [hsign, hn]

/-- **Every value is kept**, only arrays are not. -/
theorem keptAs_keep {j : Json} (h : Json.Fits Json.InRange Json.nestingLimit j) :
    KeptAs j (keep j) := by
  match j with
  | .null | .bool _ | .num (.double _) | .str _ | .arr _ => rfl
  | .num (.int n) =>
    obtain ⟨x, hx, hnear⟩ := ofNumber_int (h.numbers _ (List.mem_singleton_self _))
    exact ⟨x, by rw [keep, hx, Option.map_some], hnear⟩
  | .obj fields => exact ⟨_, rfl, Json.parse_compact h⟩

theorem KeptAs.eq_none_iff {j : Json} {kept : Option Scalar} (h : KeptAs j kept) :
    kept = none ↔ ∃ items, j = .arr items := by
  match j with
  | .null | .bool _ | .num (.double _) | .str _ => simp_all [KeptAs]
  | .arr items => exact ⟨fun _ => ⟨items, rfl⟩, fun _ => h⟩
  | .num (.int n) =>
    obtain ⟨x, rfl, -⟩ := h
    simp
  | .obj fields =>
    obtain ⟨t, rfl, -⟩ := h
    simp

/-! ## Members -/

/-- An argument is what is kept of the field of its name. -/
theorem get?_ofFields {fields : List (String × Json)} (h : (fields.map Prod.fst).Pairwise (· < ·))
    (name : String) : (ofFields fields).get? name = (fields.lookup name).bind keep := by
  induction fields with
  | nil => rfl
  | cons f rest ih =>
    obtain ⟨n, j⟩ := f
    obtain ⟨hfirst, hrest⟩ := List.pairwise_cons.1 h
    have hlater := ih hrest
    rw [List.lookup_cons]
    cases hname : name == n with
    | false =>
      rcases hkeep : keep j with _ | v
      · rw [show ofFields ((n, j) :: rest) = ofFields rest by simp [ofFields, hkeep]]
        exact hlater
      · rw [show ofFields ((n, j) :: rest) = (n, v) :: ofFields rest by simp [ofFields, hkeep],
          get?, List.lookup_cons, hname]
        exact hlater
    | true =>
      obtain rfl := eq_of_beq hname
      -- the name stands nowhere else, so an array in its place leaves no argument of the name
      have habsent : rest.lookup name = none :=
        List.lookup_eq_none_iff.2 fun f hf => bne_iff_ne.2 fun heq =>
          String.lt_irrefl _ (heq ▸ hfirst f.1 (List.mem_map_of_mem hf))
      rw [habsent] at hlater
      rcases hkeep : keep j with _ | v
      · rw [show ofFields ((name, j) :: rest) = ofFields rest by simp [ofFields, hkeep], hlater]
        exact hkeep.symm
      · rw [show ofFields ((name, j) :: rest) = (name, v) :: ofFields rest by
          simp [ofFields, hkeep], get?, List.lookup_cons, hname]
        exact hkeep.symm

/-- What comes of an object with these members. -/
structure Decodes (members : List (String × Json)) (p : Parameters) : Prop where
  /-- Each name stands once. -/
  sorted : p.Sorted
  names : ∀ name, name ∈ p.map Prod.fst ↔
    ∃ j, Json.lastOf name members = some j ∧ ∀ items, j ≠ .arr items
  values : ∀ name j, Json.lastOf name members = some j → KeptAs j (p.get? name)

theorem mem_names_iff {p : Parameters} {name : String} :
    name ∈ p.map Prod.fst ↔ p.get? name ≠ none := by
  simp only [get?, ne_eq, List.lookup_eq_none_iff, List.mem_map, bne_iff_ne]
  grind

/-- **Every member of an object is decoded**, the last of several with one name counting. -/
theorem decodes_ofFields {members : List (String × Json)}
    (h : ∀ f ∈ members, Json.Fits Json.InRange Json.nestingLimit f.2) :
    Decodes members (ofFields (Json.ofFields members)) := by
  have hsorted := Json.pairwise_ofFields members
  have hget : ∀ name, (ofFields (Json.ofFields members)).get? name =
      (Json.lastOf name members).bind keep :=
    fun name => by rw [get?_ofFields hsorted, Json.lookup_ofFields, Json.lastOf]
  have hkept : ∀ name j, Json.lastOf name members = some j →
      KeptAs j ((ofFields (Json.ofFields members)).get? name) := by
    intro name j hj
    obtain ⟨before, after, hsplit, -⟩ := List.lookup_eq_some_iff.1 hj
    have hmem : (name, j) ∈ members := List.mem_reverse.1 (by rw [hsplit]; simp)
    rw [hget, hj]
    exact keptAs_keep (h _ hmem)
  refine ⟨sorted_ofFields hsorted, fun name => ?_, hkept⟩
  rw [mem_names_iff]
  cases hlast : Json.lastOf name members with
  | none => simp [hget, hlast]
  | some j =>
    rw [ne_eq, (hkept name j hlast).eq_none_iff]
    simp

/-! ## Texts -/

section
variable {arguments : String}

theorem parse_object {members : List (String × Json)} (h : Json.ObjectText arguments members) :
    ∃ p, parse arguments = .ok p ∧ Decodes members p := by
  refine ⟨_, ?_, decodes_ofFields fun f hf => ?_⟩
  · rw [parse, if_neg (Json.not_blank_of_parse h.parse), h.parse]
  · have hfits := h.fits f hf
    exact ⟨hfits.normal.mono (by decide), hfits.numbers⟩

theorem parse_ok_iff : (∃ p, parse arguments = .ok p) ↔
    Text.isBlank arguments = true ∨ ∃ members, Json.ObjectText arguments members := by
  constructor
  · rintro ⟨p, hp⟩
    unfold parse at hp
    split at hp
    · next hblank => exact .inl hblank
    · split at hp
      · next hparse => exact .inr (Json.objectText_of_parse hparse)
      · cases hp
      · cases hp
  · rintro (hblank | ⟨members, h⟩)
    · exact ⟨_, parse_blank hblank⟩
    · exact (parse_object h).imp fun _ => And.left

theorem parse_notAnObject_iff : parse arguments = .error .notAnObject ↔
    ∃ j, Json.parse arguments = .ok j ∧ ∀ fields, j ≠ .obj fields := by
  constructor
  · intro h
    unfold parse at h
    split at h
    · cases h
    · split at h
      · cases h
      · next j hne hparse => exact ⟨j, hparse, hne⟩
      · cases h
  · rintro ⟨j, hparse, hne⟩
    rw [parse, if_neg (Json.not_blank_of_parse hparse), hparse]
    cases j with
    | obj fields => exact absurd rfl (hne fields)
    | _ => rfl

theorem parse_invalidJson_iff : (∃ f, parse arguments = .error (.invalidJson f)) ↔
    Text.isBlank arguments = false ∧ ∃ f, Json.parse arguments = .error f := by
  constructor
  · rintro ⟨f, h⟩
    unfold parse at h
    split at h
    · cases h
    · next hblank =>
      split at h
      · cases h
      · cases h
      · next g hparse => exact ⟨Bool.eq_false_iff.2 hblank, g, hparse⟩
  · rintro ⟨hblank, f, hparse⟩
    refine ⟨f, ?_⟩
    rw [parse, if_neg (Bool.eq_false_iff.1 hblank), hparse]

end

/-- **Arguments are decoded completely, and nothing else is accepted.** A blank text has no
arguments and a text of an object has those of its members; other JSON and a text that is no JSON
are refused. -/
theorem decoded_completely (arguments : String) :
    ((∃ p, parse arguments = .ok p) ↔
      Text.isBlank arguments = true ∨ ∃ members, Json.ObjectText arguments members) ∧
    (Text.isBlank arguments = true → parse arguments = .ok []) ∧
    (∀ members, Json.ObjectText arguments members →
      ∃ p, parse arguments = .ok p ∧ Decodes members p) ∧
    (parse arguments = .error .notAnObject ↔
      ∃ j, Json.parse arguments = .ok j ∧ ∀ fields, j ≠ .obj fields) ∧
    ((∃ f, parse arguments = .error (.invalidJson f)) ↔
      Text.isBlank arguments = false ∧ ∃ f, Json.parse arguments = .error f) :=
  ⟨parse_ok_iff, parse_blank, fun _ => parse_object, parse_notAnObject_iff,
    parse_invalidJson_iff⟩

-- The last of two values counts, whether an array stands before it or is it.
example : parse "\x7b\"b\":\x7b\"x\":[1, -2]\x7d,\"a\":[1],\"a\":null,\"c\":true,\"c\":[]\x7d" =
    .ok [("a", .null), ("b", .text "\x7b\"x\":[1,-2]\x7d")] := by decide +kernel

end Parameters

end Inquest

import Inquest.Decimal.Binary64

/-! # JSON values

A `Json` is what a JSON text denotes. An object is a list of named values: values read as generic
data hold their names sorted and once each (`Json.ofFields`), and a record that is written keeps the
order in which its fields are declared.

* `insertField_names`: inserting a field adds its name and no other.
-/

namespace Inquest

open Decimal

/-- A JSON number: an integer of 64 bits, or a double. -/
inductive Number
  | int (n : Int)
  | double (x : Binary64)
  deriving DecidableEq

/-- A JSON value. -/
inductive Json
  | null
  | bool (b : Bool)
  | num (n : Number)
  | str (s : String)
  | arr (items : List Json)
  | obj (fields : List (String × Json))

namespace Json

instance : Inhabited Json := ⟨.null⟩

mutual

/-- Whether two values are the same. -/
def same : Json → Json → Bool
  | .null, .null => true
  | .bool a, .bool b => a == b
  | .num a, .num b => decide (a = b)
  | .str a, .str b => a == b
  | .arr a, .arr b => sameItems a b
  | .obj a, .obj b => sameFields a b
  | _, _ => false

/-- Whether two arrays are the same. -/
def sameItems : List Json → List Json → Bool
  | [], [] => true
  | a :: as, b :: bs => same a b && sameItems as bs
  | _, _ => false

/-- Whether two objects hold the same fields in the same order. -/
def sameFields : List (String × Json) → List (String × Json) → Bool
  | [], [] => true
  | (k, a) :: as, (l, b) :: bs => k == l && same a b && sameFields as bs
  | _, _ => false

end

instance : BEq Json := ⟨same⟩

/-- A field put in its place by name; a field of the same name is replaced. -/
def insertField (key : String) (value : Json) : List (String × Json) → List (String × Json)
  | [] => [(key, value)]
  | (k, v) :: rest =>
    if key = k then (key, value) :: rest
    else if key < k then (key, value) :: (k, v) :: rest
    else (k, v) :: insertField key value rest

/-- Fields sorted by name, the last of several with one name kept. -/
def ofFields (fields : List (String × Json)) : List (String × Json) :=
  fields.foldl (fun sorted (k, v) => insertField k v sorted) []

theorem insertField_names (key : String) (value : Json) (fields : List (String × Json)) (n : String) :
    n ∈ (insertField key value fields).map Prod.fst ↔ n = key ∨ n ∈ fields.map Prod.fst := by
  induction fields with
  | nil => simp [insertField]
  | cons f rest ih =>
    obtain ⟨k, v⟩ := f
    simp only [insertField]
    split
    · next h => subst h; simp
    · split
      · simp
      · simp only [List.map_cons, List.mem_cons, ih]
        constructor
        · rintro (h | h | h) <;> simp [h]
        · rintro (h | h | h) <;> simp [h]

/-- The value of a field, if the value is an object that has it. -/
def get? (j : Json) (key : String) : Option Json :=
  match j with
  | .obj fields => fields.lookup key
  | _ => none

/-- The text, if the value is one. -/
def text? : Json → Option String
  | .str s => some s
  | _ => none

/-- The text of a field. -/
def textAt? (j : Json) (key : String) : Option String := (j.get? key).bind text?

/-- The items, if the value is an array. -/
def items : Json → List Json
  | .arr items => items
  | _ => []

/-- The items of a field. -/
def itemsAt (j : Json) (key : String) : List Json := ((j.get? key).map items).getD []

/-- The natural number, if the value is one. -/
def nat? : Json → Option Nat
  | .num (.int n) => if 0 ≤ n then some n.toNat else none
  | _ => none

/-- The natural number of a field. -/
def natAt? (j : Json) (key : String) : Option Nat := (j.get? key).bind nat?

/-- Whether a field holds `true`. -/
def flagAt (j : Json) (key : String) : Bool :=
  match j.get? key with
  | some (.bool b) => b
  | _ => false

/-- A natural number as a value. -/
def nat (n : Nat) : Json := .num (.int n)

/-- A value that may be absent, `null` standing for absence. -/
def optional {α : Type} (f : α → Json) : Option α → Json
  | none => .null
  | some a => f a

end Json

end Inquest

import Inquest.Json.Document

/-! # Decoding documents into values of fixed shape

The decoders of scalars, lists and records. A record is read from an object, its known fields once
each and the others passed over, or from an array of its fields in order. Faults are met in the order
of the text: a field of another shape before a break in the text that follows it.

* `Field`: a record is a list of fields; `fieldsOf` finds their documents, `Found.get` decodes one.
* `tagged`: a value whose shape is chosen by a field that names it.
-/

namespace Inquest.Json

/-- A text. -/
def text : Decoder String := fun _ d =>
  match d with
  | .str s => .ok s
  | .fault f _ => .error f
  | _ => .error .misfit

/-- A truth value. -/
def truth : Decoder Bool := fun _ d =>
  match d with
  | .bool b => .ok b
  | .fault f _ => .error f
  | _ => .error .misfit

/-- A whole number below `limit`, written without fraction or exponent. -/
def natBelow (limit : Nat) : Decoder Nat := fun _ d =>
  match d with
  | .num (.int n) => if 0 ≤ n ∧ n < limit then .ok n.toNat else .error .misfit
  | .fault f _ => .error f
  | _ => .error .misfit

/-- `null` or a value. -/
def nullable {α : Type} (decoder : Decoder α) : Decoder (Option α) := fun room d =>
  match d with
  | .null => .ok none
  | d => (decoder room d).map some

/-- The items of an array, decoded one after the other. -/
def decodeItems {α : Type} (decoder : Doc → Except Fault α) : List Doc → Except Fault (List α)
  | [] => .ok []
  | d :: rest => do return (← decoder d) :: (← decodeItems decoder rest)

/-- An array of values of one shape. -/
def listOf {α : Type} (decoder : Decoder α) : Decoder (List α) := fun room d =>
  match d with
  | .arr items stop => do
    if room = 0 then throw .malformed
    let values ← decodeItems (decoder (room - 1)) items
    stopped stop
    return values
  | .fault f _ => .error f
  | _ => .error .misfit

/-- Generic data. -/
def anything : Decoder Json := fun room d => d.value room

/-! ## Records -/

/-- A known field of a record: its name, the check of its shape, and whether it may be missing from
the array form. -/
structure Field where
  name : String
  check : Decoder Unit
  optional : Bool

/-- A field that is decoded by `decoder`. -/
def Field.of {α : Type} (name : String) (decoder : Decoder α) (optional : Bool) : Field :=
  ⟨name, fun room d => (decoder room d).map fun _ => (), optional⟩

/-- A field that must be there. -/
def required {α : Type} (name : String) (decoder : Decoder α) : Field := .of name decoder false

/-- A field with a default. -/
def defaulted {α : Type} (name : String) (decoder : Decoder α) : Field := .of name decoder true

/-- The fields of a record that were found. -/
abbrev Found := List (String × Doc)

/-- The known fields of an object, each checked where it stands. -/
def findNamed (schema : List Field) (room : Nat) : (found : Found) → List (String × Doc) →
    Except Fault Found
  | found, [] => .ok found
  | found, (k, d) :: rest =>
    match schema.find? fun f => f.name == k with
    | none => do
      stopped d.skipFault
      findNamed schema room found rest
    | some f => do
      if (found.lookup k).isSome then throw .misfit
      f.check room d
      findNamed schema room (found ++ [(k, d)]) rest

/-- The known fields of an array, each checked in its place. -/
def findPlaced (room : Nat) (stop : Option Fault) : List Field → List Doc → Except Fault Found
  | [], [] => do
    stopped stop
    return []
  | [], _ :: _ => .error .malformed
  | f :: schema, [] => do
    stopped stop
    if f.optional then findPlaced room stop schema [] else throw .misfit
  | f :: schema, d :: rest => do
    f.check room d
    let found ← findPlaced room stop schema rest
    return (f.name, d) :: found

/-- The known fields of a record. -/
def fieldsOf (schema : List Field) (room : Nat) (d : Doc) : Except Fault Found :=
  match d with
  | .obj fields stop => do
    if room = 0 then throw .malformed
    let found ← findNamed schema (room - 1) [] fields
    stopped stop
    return found
  | .arr items stop => do
    if room = 0 then throw .malformed
    findPlaced (room - 1) stop schema items
  | .fault f _ => .error f
  | _ => .error .misfit

/-- A field that must be there. -/
def Found.get {α : Type} (found : Found) (room : Nat) (name : String) (decoder : Decoder α) :
    Except Fault α :=
  match found.lookup name with
  | some d => decoder (room - 1) d
  | none => .error .misfit

/-- A field with a default. -/
def Found.getD {α : Type} (found : Found) (room : Nat) (name : String) (decoder : Decoder α)
    (default : α) : Except Fault α :=
  match found.lookup name with
  | some d => decoder (room - 1) d
  | none => .ok default

/-! ## Values with a tag -/

/-- The tag of an object and its other fields, everything read as generic data on the way. -/
def findTag (key : String) (room : Nat) : (tag : Option String) → List (String × Doc) →
    Except Fault (Option String × List (String × Doc))
  | tag, [] => .ok (tag, [])
  | tag, (k, d) :: rest =>
    if k = key then do
      if tag.isSome then throw .misfit
      let t ← text room d
      findTag key room (some t) rest
    else do
      let _ ← d.value room
      let (tag, others) ← findTag key room tag rest
      return (tag, (k, d) :: others)

/-- A value whose shape is chosen by the text of a field: the tag and what else there is. In the
array form the tag comes first. -/
def tagged (key : String) : Decoder (String × Doc) := fun room d =>
  match d with
  | .obj fields stop => do
    if room = 0 then throw .malformed
    let (tag, others) ← findTag key (room - 1) none fields
    stopped stop
    match tag with
    | some t => return (t, .obj others none)
    | none => throw .misfit
  | .arr items stop => do
    if room = 0 then throw .malformed
    match items with
    | [] => do
      stopped stop
      throw .misfit
    | d :: rest => do
      let t ← text (room - 1) d
      let _ ← Doc.values (room - 1) rest
      stopped stop
      return (t, .arr rest none)
  | .fault f _ => .error f
  | _ => .error .misfit

/-- What is left of a tagged value that has no fields of its own: nothing in the array form. -/
def noFields : Decoder Unit := fun _ d =>
  match d with
  | .arr (_ :: _) _ => .error .misfit
  | _ => .ok ()

/-- One of several names: the name alone, or an object whose one field has that name and no value. -/
def named {α : Type} (choose : String → Option α) : Decoder α := fun room d =>
  match d with
  | .str s =>
    match choose s with
    | some a => .ok a
    | none => .error .misfit
  | .obj fields stop =>
    if room = 0 then .error .malformed
    else
      match fields with
      | [] =>
        match stop with
        | some f => .error f
        | none => .error .malformed
      | (k, d) :: rest => do
        match choose k with
        | none => throw .misfit
        | some a =>
          match d with
          | .null => do
            if !rest.isEmpty then throw .malformed
            stopped stop
            return a
          | .fault f _ => throw f
          | _ => throw .misfit
  | .fault f _ => .error f
  | _ => .error .malformed

end Inquest.Json

import Inquest.Text.Blank
import Inquest.Decimal.Notation
import Inquest.Json.Decode
import Inquest.Json.Printer

/-! # Arguments of a tool call

`Parameters` are named scalars, sorted by name. `Parameters.parse` reads them from the text that the
model wrote: a blank text has none, and otherwise it must be a JSON object. A nested object is kept
as its text, an array is left out.

* `ParseError`: the two ways in which a text can be refused.
-/

namespace Inquest

/-- The value of an argument. -/
inductive Scalar
  | null
  | bool (b : Bool)
  | number (x : Decimal.Binary64)
  | text (s : String)
  deriving DecidableEq

namespace Scalar

/-- The value as text; `null` has none. -/
def text? : Scalar → Option String
  | .null => none
  | .bool b => some (if b then "true" else "false")
  | .number x => some (String.ofList (Decimal.plainLayout.write x))
  | .text s => some s

/-- A scalar as data. -/
def toJson : Scalar → Json
  | .null => .null
  | .bool b => .bool b
  | .number x => .num (.double x)
  | .text s => .str s

/-- The double of a number. -/
def ofNumber : Number → Option Decimal.Binary64
  | .int n => (Decimal.Binary64.ofNat? n.natAbs).map fun x => if n < 0 then x.neg else x
  | .double x => some x

/-- A scalar in data. Arrays and objects are read to their end before they are refused. -/
def decode : Json.Decoder Scalar := fun room d => do
  match ← d.value room with
  | .null => return .null
  | .bool b => return .bool b
  | .num n =>
    match ofNumber n with
    | some x => return .number x
    | none => throw .misfit
  | .str s => return .text s
  | .arr _ => throw .misfit
  | .obj _ => throw .misfit

end Scalar

/-- Named arguments, sorted by name. -/
abbrev Parameters := List (String × Scalar)

namespace Parameters

/-- An argument put in its place; one of the same name is replaced. -/
def insert (name : String) (value : Scalar) : Parameters → Parameters
  | [] => [(name, value)]
  | (n, v) :: rest =>
    if name = n then (name, value) :: rest
    else if name < n then (name, value) :: (n, v) :: rest
    else (n, v) :: insert name value rest

/-- The value of an argument. -/
def get? (p : Parameters) (name : String) : Option Scalar := p.lookup name

/-- The text of an argument; an absent one and `null` have none. -/
def text? (p : Parameters) (name : String) : Option String := (p.get? name).bind Scalar.text?

/-- The parameters as data. -/
def toJson (p : Parameters) : Json := .obj (p.map fun (n, v) => (n, v.toJson))

/-- The fields of an object as arguments, the last of equal names kept. -/
def decodeFields (room : Nat) : (read : Parameters) → List (String × Json.Doc) →
    Except Json.Fault Parameters
  | read, [] => .ok read
  | read, (n, d) :: rest => do
    let v ← Scalar.decode room d
    decodeFields room (insert n v read) rest

/-- Parameters in data. -/
def decode : Json.Decoder Parameters := fun room d =>
  match d with
  | .obj fields stop => do
    if room = 0 then throw .malformed
    let p ← decodeFields (room - 1) [] fields
    Json.stopped stop
    return p
  | .fault f _ => .error f
  | _ => .error .misfit

/-- Why the text of a call's arguments is refused. -/
inductive ParseError
  /-- It is not JSON. -/
  | invalidJson (fault : Json.Fault)
  /-- It is JSON, but no object. -/
  | notAnObject
  deriving DecidableEq

/-- What is wrong, in words. -/
def ParseError.message : ParseError → String
  | .invalidJson _ => "Tool arguments are not valid JSON"
  | .notAnObject => "Tool arguments must be a JSON object"

/-- What an argument's value is kept as. -/
def keep : Json → Option Scalar
  | .null => some .null
  | .bool b => some (.bool b)
  | .num n => (Scalar.ofNumber n).map .number
  | .str s => some (.text s)
  | .obj fields => some (.text (Json.obj fields).compact)
  | .arr _ => none

/-- The arguments among an object's fields. -/
def ofFields (fields : List (String × Json)) : Parameters :=
  fields.filterMap fun (n, j) => (keep j).map fun v => (n, v)

/-- Reads the arguments of a call. -/
def parse (arguments : String) : Except ParseError Parameters :=
  if Text.isBlank arguments then .ok []
  else
    match Json.parse arguments with
    | .ok (.obj fields) => .ok (ofFields fields)
    | .ok _ => .error .notAnObject
    | .error f => .error (.invalidJson f)

theorem parse_blank {arguments : String} (h : Text.isBlank arguments = true) :
    parse arguments = .ok [] := by
  simp [parse, h]

end Parameters

end Inquest

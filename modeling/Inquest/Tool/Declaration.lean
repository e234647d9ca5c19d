import Inquest.Text.Blank
import Inquest.Text.LetterTable
import Inquest.Tool.Basic
import Inquest.Tool.TypeExpr

/-! # Tools declared by a record of their arguments

A `Declaration` describes a tool as a record: a name, lines of documentation, and fields with written
types. `Declaration.tool` is the tool that it stands for, with a closed schema that requires every
field; a field that may be absent takes `null` instead.

* `toolSchema`: the schema of a record's arguments.
-/

namespace Inquest

/-- A key and its text, given beside a declaration. -/
abbrev Attribute := String × String

/-- A field of a declaration. -/
structure FieldDeclaration where
  name : String
  type : TypeExpr
  docs : List String
  attributes : List Attribute

/-- A tool described by a record. -/
structure Declaration where
  name : String
  docs : List String
  attributes : List Attribute
  fields : List FieldDeclaration

namespace Declaration

/-- A name in small letters, its capitals opened by an underscore; letters beyond ASCII keep their
case. -/
def snakeCase (name : String) : String :=
  let word (c : Char) : List Char := if Text.isUppercase c then ['_', c.toLower] else [c]
  match name.toList with
  | [] => ""
  | c :: rest => String.ofList (c.toLower :: rest.flatMap word)

/-- The lines of documentation, trimmed, on one line. -/
def docText (docs : List String) : String := String.intercalate " " (docs.map Text.trim)

/-- The schema of a kind of value. -/
def kindSchema (kind : String) : Json := .obj [("type", .str kind)]

/-- The schema of a type, an optional type counting as the type it may hold. -/
def typeSchema : TypeExpr → Json
  | .other => .obj []
  | .plain name =>
    if name = "Vec" then kindSchema "array"
    else if name = "Option" then .obj []
    else scalarSchema name
  | .generic name argument =>
    if name = "Vec" then .obj [("items", typeSchema argument), ("type", .str "array")]
    else if name = "Option" then typeSchema argument
    else scalarSchema name
where
  /-- The schema of a type that holds no other. -/
  scalarSchema (name : String) : Json :=
    if ["String", "str"].contains name then kindSchema "string"
    else if ["i8", "i16", "i32", "i64", "isize", "u8", "u16", "u32", "u64", "usize"].contains name then
      kindSchema "integer"
    else if ["f32", "f64"].contains name then kindSchema "number"
    else if name = "bool" then kindSchema "boolean"
    else kindSchema "object"

/-- Whether a type is optional. -/
def isOptional : TypeExpr → Bool
  | .plain name => name == "Option"
  | .generic name _ => name == "Option"
  | .other => false

/-- A schema that also takes `null`. -/
def orNull : Json → Json
  | .obj fields =>
    match fields.lookup "type" with
    | some kind => .obj (Json.insertField "type" (.arr [kind, .str "null"]) fields)
    | none => .obj fields
  | j => j

/-- The schema of a field. -/
def fieldSchema (f : FieldDeclaration) : Json :=
  let schema := typeSchema f.type
  let schema := if isOptional f.type then orNull schema else schema
  let doc := docText f.docs
  match schema with
  | .obj fields =>
    if doc.isEmpty then .obj fields else .obj (Json.insertField "description" (.str doc) fields)
  | j => j

/-- The name of a field in the schema. -/
def fieldName (f : FieldDeclaration) : String := (f.attributes.lookup "rename").getD f.name

/-- The schema of the arguments: closed, every field required. -/
def toolSchema (d : Declaration) : Json :=
  .obj [("additionalProperties", .bool false),
    ("properties", .obj (Json.ofFields (d.fields.map fun f => (fieldName f, fieldSchema f)))),
    ("required", .arr (d.fields.map fun f => .str (fieldName f))),
    ("type", .str "object")]

/-- The tool that a declaration stands for. -/
def tool (d : Declaration) : Tool where
  name := (d.attributes.lookup "name").getD (snakeCase d.name)
  description := docText d.docs
  parameters := d.toolSchema
  strict := true

end Declaration

end Inquest

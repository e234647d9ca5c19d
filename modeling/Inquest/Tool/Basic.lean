import Inquest.Json.Printer

/-! # Tools that the model may call

A `Tool` is a function declared to the model. A session knows its tools as a list (`Toolbox`), in
which a name stands for the first tool that has it.
-/

namespace Inquest

/-- A function declared to the model. -/
structure Tool where
  name : String
  description : String
  /-- The schema of the arguments. -/
  parameters : Json
  /-- Whether the model must keep to the schema. -/
  strict : Bool

namespace Tool

instance : BEq Tool where
  beq a b := a.name == b.name && a.description == b.description && a.parameters == b.parameters &&
    a.strict == b.strict

/-- The declaration that a request carries. -/
def toJson (t : Tool) : Json :=
  .obj [("type", .str "function"), ("name", .str t.name), ("description", .str t.description),
    ("parameters", t.parameters), ("strict", .bool t.strict)]

end Tool

/-- The tools of a session, in the order of their declaration. -/
abbrev Toolbox := List Tool

/-- The tool of a name. -/
def Toolbox.tool? (b : Toolbox) (name : String) : Option Tool := b.find? fun t => t.name == name

end Inquest

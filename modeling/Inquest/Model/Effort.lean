import Inquest.Text.Blank
import Inquest.Text.Casing
import Inquest.Json.Decode
import Inquest.Model.Error

/-! # How much the model reasons

`Effort.parse` reads the name of an effort, in any ASCII case and with blanks around it.
-/

namespace Inquest

/-- How much reasoning goes before an answer. -/
inductive Effort
  | minimal
  | low
  | medium
  | high
  deriving Repr, DecidableEq

namespace Effort

/-- The word for an effort. -/
def word : Effort → String
  | .minimal => "minimal"
  | .low => "low"
  | .medium => "medium"
  | .high => "high"

/-- The effort of a word. -/
def ofWord? (s : String) : Option Effort :=
  [minimal, low, medium, high].find? fun e => e.word == s

/-- The effort that a text names. -/
def parse (s : String) : Except ApiError Effort :=
  let wanted := Text.lowercaseAscii (Text.trim s)
  match ofWord? wanted with
  | some e => .ok e
  | none => .error (.config s!"Unknown reasoning effort: {wanted}")

/-- An effort as data. -/
def toJson (e : Effort) : Json := .str e.word

/-- An effort in data. -/
def decode : Json.Decoder Effort := Json.named ofWord?

end Effort

end Inquest

import Inquest.Model.Error
import Inquest.Model.Item

/-! # Responses of the model

A `Response` holds the items that the model put out and the body as it was received. `ofJson` reads one
from its body; output of an unknown kind or shape is left out.
-/

namespace Inquest

/-- How far a response came. -/
inductive Status
  | completed
  | incomplete
  | inProgress
  | failed
  | other
  deriving Repr, DecidableEq

/-- The status of a word; none stands for completion. -/
def Status.ofWord : Option String → Status
  | none => .completed
  | some s =>
    if s = "completed" then .completed
    else if s = "incomplete" then .incomplete
    else if s = "in_progress" ∨ s = "queued" then .inProgress
    else if s = "failed" ∨ s = "cancelled" then .failed
    else .other

/-- The tokens that a response took. -/
structure Usage where
  inputTokens : Nat
  outputTokens : Nat
  deriving Repr, DecidableEq

/-- A response of the model. -/
structure Response where
  id : String
  model : String
  status : Status
  output : List Item
  usage : Usage
  /-- The body as it was received. -/
  raw : Json

namespace Response

/-- All output text. -/
def text (r : Response) : String := String.join (r.output.filterMap Item.text?)

/-- The calls in the order of the output. -/
def calls (r : Response) : List Call := r.output.filterMap Item.call?

/-- The numbers of tokens go up to here. -/
def wordLimit : Nat := 0x1_0000_0000_0000_0000

open Json in
/-- Token numbers in data. -/
def decodeUsage : Json.Decoder Usage := fun room d => do
  let found ← fieldsOf [required "input_tokens" (natBelow wordLimit),
    required "output_tokens" (natBelow wordLimit)] room d
  return ⟨← found.get room "input_tokens" (natBelow wordLimit),
    ← found.get room "output_tokens" (natBelow wordLimit)⟩

open Json in
/-- A response in data. -/
def decode (raw : Json) : Json.Decoder Response := fun room d => do
  let found ← fieldsOf [required "id" Json.text, defaulted "model" Json.text,
    defaulted "status" (nullable Json.text), defaulted "output" (listOf anything),
    defaulted "usage" (nullable decodeUsage)] room d
  let id ← found.get room "id" Json.text
  let model ← found.getD room "model" Json.text ""
  let status ← found.getD room "status" (nullable Json.text) none
  let output ← found.getD room "output" (listOf anything) []
  let usage ← found.getD room "usage" (nullable decodeUsage) none
  return {
    id := id
    model := model
    status := .ofWord status
    output := output.filterMap Item.ofJson?
    usage := usage.getD ⟨0, 0⟩
    raw := raw }

/-- The response of a body. -/
def ofJson (raw : Json) : Except ApiError Response :=
  match Json.decodeValue (decode raw) raw with
  | .ok r => .ok r
  | .error _ => .error (.unreadable .response)

/-- Why the model failed, from the body of its response. -/
def failureReason? (raw : Json) : Option String :=
  (raw.get? "error").bind fun e => e.textAt? "message"

end Response

end Inquest

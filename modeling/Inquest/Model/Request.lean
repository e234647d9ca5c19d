import Inquest.Model.Effort
import Inquest.Model.Item
import Inquest.Tool.Basic

/-! # Requests to the model

A `Request` carries the items that the model has not seen, and what it needs besides. `body` is the
request as it is sent; what is not set is left out of it.
-/

namespace Inquest

/-- A request to the model. -/
structure Request where
  model : Option String
  instructions : Option String
  input : List Item
  tools : Option (List Tool)
  effort : Option Effort
  previousResponseId : Option String
  maxOutputTokens : Option Nat
  store : Option Bool

namespace Request

/-- A field that is left out when there is no value. -/
def fieldOf {α : Type} (name : String) (f : α → Json) : Option α → List (String × Json)
  | some a => [(name, f a)]
  | none => []

/-- The request as it is sent. -/
def body (r : Request) (defaultModel : String) (stream : Bool) : Json :=
  .obj ([("model", .str (r.model.getD defaultModel))] ++
    fieldOf "instructions" .str r.instructions ++
    [("input", .arr (r.input.map Item.toJson))] ++
    fieldOf "tools" (fun ts => .arr (ts.map Tool.toJson)) r.tools ++
    fieldOf "reasoning" (fun e => .obj [("effort", e.toJson)]) r.effort ++
    fieldOf "previous_response_id" .str r.previousResponseId ++
    fieldOf "max_output_tokens" Json.nat r.maxOutputTokens ++
    fieldOf "store" .bool r.store ++
    [("stream", .bool stream)])

end Request

end Inquest

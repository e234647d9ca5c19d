import Inquest.Model.Response

/-! # Events of a streamed response

A streamed response arrives as `Event`s. `ofData` is the event of one line of data: the field `type`
chooses the event, and its other fields must fit.

* `ofData`: a line is no event where its text is refused or a response in it cannot be read.
-/

namespace Inquest

/-- A piece of a streamed response. -/
inductive Event
  | created (id : String)
  | itemAdded (index : Nat) (item : Item)
  | textDelta (index : Nat) (delta : String)
  | argumentsDelta (index : Nat) (delta : String)
  | argumentsDone (index : Nat) (arguments : String)
  | itemDone (index : Nat) (item : Item)
  | completed (response : Response)
  | error (message : String)
  /-- Any other event. -/
  | other

namespace Event

/-- What a line of data says, before the responses and items in it are read. -/
inductive Notice
  | created (id : String)
  | itemAdded (index : Nat) (item : Json)
  | textDelta (index : Nat) (delta : String)
  | argumentsDelta (index : Nat) (delta : String)
  | argumentsDone (index : Nat) (arguments : String)
  | itemDone (index : Nat) (item : Json)
  | completed (response : Json)
  | failed (response : Json)
  | error (message : String)
  | other

open Json in
/-- An index and another field. -/
def decodeIndexed {α : Type} (name : String) (decoder : Json.Decoder α) : Json.Decoder (Nat × α) :=
  fun room d => do
    let index := natBelow Response.wordLimit
    let found ← fieldsOf [required "output_index" index, required name decoder] room d
    return (← found.get room "output_index" index, ← found.get room name decoder)

open Json in
/-- One field. -/
def decodeOnly {α : Type} (name : String) (decoder : Json.Decoder α) : Json.Decoder α :=
  fun room d => do
    let found ← fieldsOf [required name decoder] room d
    found.get room name decoder

open Json in
/-- What a line of data says. -/
def decode : Json.Decoder Notice := fun room d => do
  let (kind, rest) ← tagged "type" room d
  if kind = "response.created" then
    return .created (← decodeOnly "response" (decodeOnly "id" text) room rest)
  else if kind = "response.output_item.added" then
    let (index, item) ← decodeIndexed "item" anything room rest
    return .itemAdded index item
  else if kind = "response.output_text.delta" then
    let (index, delta) ← decodeIndexed "delta" text room rest
    return .textDelta index delta
  else if kind = "response.function_call_arguments.delta" then
    let (index, delta) ← decodeIndexed "delta" text room rest
    return .argumentsDelta index delta
  else if kind = "response.function_call_arguments.done" then
    let (index, arguments) ← decodeIndexed "arguments" text room rest
    return .argumentsDone index arguments
  else if kind = "response.output_item.done" then
    let (index, item) ← decodeIndexed "item" anything room rest
    return .itemDone index item
  else if kind = "response.completed" ∨ kind = "response.incomplete" then
    return .completed (← decodeOnly "response" anything room rest)
  else if kind = "response.failed" then
    return .failed (← decodeOnly "response" anything room rest)
  else if kind = "error" then
    return .error (← decodeOnly "message" text room rest)
  else
    noFields room rest
    return .other

/-- The event of a notice. -/
def ofNotice : Notice → Except ApiError Event
  | .created id => .ok (.created id)
  | .itemAdded index item => .ok (((Item.ofJson? item).map (.itemAdded index)).getD .other)
  | .textDelta index delta => .ok (.textDelta index delta)
  | .argumentsDelta index delta => .ok (.argumentsDelta index delta)
  | .argumentsDone index arguments => .ok (.argumentsDone index arguments)
  | .itemDone index item => .ok (((Item.ofJson? item).map (.itemDone index)).getD .other)
  | .completed response => (Response.ofJson response).map .completed
  | .failed response => .ok (.error ((Response.failureReason? response).getD "response failed"))
  | .error message => .ok (.error message)
  | .other => .ok .other

/-- The event of a line of data; `none` where the data ended too early. -/
def ofData (s : String) : Option (Except ApiError Event) :=
  match Json.decodeText decode s with
  | .ok n => some (ofNotice n)
  | .error .ended => none
  | .error _ => some (.error (.unreadable .line))

end Event

end Inquest

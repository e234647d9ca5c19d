import Inquest.Timestamp
import Inquest.Tool.Parameters

/-! # What a suspect did

An `Invocation` records one attempt to carry out a tool call: what came of it (`output`, which the
model is told), whether it succeeded, and what went wrong if it did not. The arguments may carry words
to be spoken in place of the model's (`overrideText`).

* `overrideText_failed_nil`: a failure without arguments has no words of its own.
-/

namespace Inquest

/-- Why an action could not be carried out. -/
inductive ActionError
  | unsupported (action : String)
  | missingParameter (name : String)
  | world (reason : String)
  | disconnected
  | arguments (reason : String)
  | panicked
  deriving DecidableEq

/-- What went wrong, in words. -/
def ActionError.message : ActionError → String
  | .unsupported action => s!"Unsupported action: '{action}'"
  | .missingParameter name => s!"The string valued parameter '{name}' is required."
  | .world reason => s!"World rejected the action: {reason}"
  | .disconnected => "World is no longer listening"
  | .arguments reason => s!"Tool arguments could not be decoded: {reason}"
  | .panicked => "Executor panicked"

/-- One attempt at an action. -/
structure Invocation where
  name : String
  parameters : Parameters
  output : String
  success : Bool
  error : Option String
  timestamp : Timestamp
  deriving DecidableEq

namespace Invocation

/-- An action that was carried out. -/
def succeeded (now : Timestamp) (name : String) (parameters : Parameters) (output : String) :
    Invocation :=
  ⟨name, parameters, output, true, none, now⟩

/-- An action that was not carried out. -/
def failed (now : Timestamp) (name : String) (parameters : Parameters) (output error : String) :
    Invocation :=
  ⟨name, parameters, output, false, some error, now⟩

/-- The words that the arguments put into the suspect's mouth: the reason, or else the response,
unless it is blank. -/
def overrideText (i : Invocation) : Option String :=
  ((i.parameters.text? "reason").or (i.parameters.text? "response")).filter
    fun t => !Text.isBlank t

theorem overrideText_failed_nil (now : Timestamp) (name output error : String) :
    (failed now name [] output error).overrideText = none := by
  rfl

/-- One line about the attempt. -/
def display (i : Invocation) : String :=
  let outcome := if i.success then "Action Performed." else "Action Failed."
  s!"{outcome} [{i.name}]:\t{i.output}"

/-- An invocation as data. -/
def toJson (i : Invocation) : Json :=
  .obj [("name", .str i.name), ("parameters", i.parameters.toJson), ("output", .str i.output),
    ("success", .bool i.success), ("error", Json.optional .str i.error),
    ("timestamp", i.timestamp.toJson)]

open Json in
/-- An invocation in data. -/
def decode : Json.Decoder Invocation := fun room d => do
  let found ← fieldsOf [required "name" text, required "parameters" Parameters.decode,
    required "output" text, required "success" truth, required "error" (nullable text),
    required "timestamp" Timestamp.decode] room d
  return {
    name := ← found.get room "name" text
    parameters := ← found.get room "parameters" Parameters.decode
    output := ← found.get room "output" text
    success := ← found.get room "success" truth
    error := ← found.getD room "error" (nullable text) none
    timestamp := ← found.get room "timestamp" Timestamp.decode }

end Invocation

end Inquest

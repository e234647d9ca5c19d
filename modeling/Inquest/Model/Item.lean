import Inquest.Json.Decode

/-! # Items of a conversation with the model

A conversation is a list of `Item`s: messages, calls of tools, outputs of tools, and reasoning, which is
kept as it came. Items are written into requests (`toJson`) and read from responses (`ofJson?`), where
what does not fit is left out.
-/

namespace Inquest

/-- Who speaks in a message. -/
inductive Speaker
  | user
  | assistant
  | system
  | developer
  deriving Repr, DecidableEq

namespace Speaker

/-- The word for a speaker. -/
def word : Speaker → String
  | .user => "user"
  | .assistant => "assistant"
  | .system => "system"
  | .developer => "developer"

/-- The speaker of a word; any other word stands for the assistant. -/
def ofWord (s : String) : Speaker :=
  if s = "user" then .user
  else if s = "system" then .system
  else if s = "developer" then .developer
  else .assistant

theorem ofWord_word (s : Speaker) : ofWord s.word = s := by cases s <;> decide

end Speaker

/-- A part of a message. -/
inductive Part
  | input (text : String)
  | output (text : String)
  | refusal (text : String)
  deriving Repr, DecidableEq

/-- A call of a tool. -/
structure Call where
  id : Option String
  callId : String
  name : String
  /-- The arguments as the model wrote them. -/
  arguments : String
  deriving Repr, DecidableEq

/-- An item of a conversation. -/
inductive Item
  | message (id : Option String) (speaker : Speaker) (parts : List Part)
  | call (c : Call)
  | output (callId text : String)
  | reasoning (id : String) (raw : Json)

namespace Item

/-- A message of the user. -/
def userText (text : String) : Item := .message none .user [.input text]

/-- A message of the assistant. -/
def assistantText (text : String) : Item := .message none .assistant [.output text]

/-- The call, if the item is one. -/
def call? : Item → Option Call
  | .call c => some c
  | _ => none

/-- The output text of the parts. -/
def partsText (parts : List Part) : String :=
  String.join (parts.filterMap fun p =>
    match p with
    | .output t => some t
    | _ => none)

/-- The output text of a message. -/
def text? : Item → Option String
  | .message _ _ parts => some (partsText parts)
  | _ => none

/-! ## In requests -/

/-- A part as data. -/
def partJson : Part → Json
  | .input t => .obj [("text", .str t), ("type", .str "input_text")]
  | .output t => .obj [("annotations", .arr []), ("text", .str t), ("type", .str "output_text")]
  | .refusal t => .obj [("refusal", .str t), ("type", .str "refusal")]

/-- A field that is left out when there is no id. -/
def idField (id : Option String) : List (String × Json) :=
  match id with
  | some i => [("id", .str i)]
  | none => []

/-- An item as data. -/
def toJson : Item → Json
  | .message id speaker parts =>
    .obj ([("content", .arr (parts.map partJson))] ++ idField id ++
      [("role", .str speaker.word), ("type", .str "message")])
  | .call c =>
    .obj ([("arguments", .str c.arguments), ("call_id", .str c.callId)] ++ idField c.id ++
      [("name", .str c.name), ("type", .str "function_call")])
  | .output callId text =>
    .obj [("call_id", .str callId), ("output", .str text), ("type", .str "function_call_output")]
  | .reasoning _ raw => raw

/-! ## In responses -/

open Json in
/-- A part in data; a part of an unknown kind is none. -/
def decodePart : Json.Decoder (Option Part) := fun room d => do
  let (kind, rest) ← tagged "type" room d
  if kind = "output_text" then
    let found ← fieldsOf [required "text" text] room rest
    return some (.output (← found.get room "text" text))
  else if kind = "input_text" then
    let found ← fieldsOf [required "text" text] room rest
    return some (.input (← found.get room "text" text))
  else if kind = "refusal" then
    let found ← fieldsOf [required "refusal" text] room rest
    return some (.refusal (← found.get room "refusal" text))
  else
    noFields room rest
    return none

open Json in
/-- A message in data. -/
def decodeMessage : Json.Decoder Item := fun room d => do
  let found ← fieldsOf [defaulted "id" (nullable text), required "role" text,
    defaulted "content" (listOf decodePart)] room d
  let id ← found.getD room "id" (nullable text) none
  let role ← found.get room "role" text
  let parts ← found.getD room "content" (listOf decodePart) []
  return .message id (.ofWord role) (parts.filterMap fun p => p)

open Json in
/-- A call in data. -/
def decodeCall : Json.Decoder Item := fun room d => do
  let found ← fieldsOf [defaulted "id" (nullable text), required "call_id" text,
    required "name" text, defaulted "arguments" text] room d
  return .call {
    id := ← found.getD room "id" (nullable text) none
    callId := ← found.get room "call_id" text
    name := ← found.get room "name" text
    arguments := ← found.getD room "arguments" text "" }

/-- The item of a value; an item of an unknown kind or of another shape is none. -/
def ofJson? (j : Json) : Option Item :=
  match j.textAt? "type" with
  | some "message" => (Json.decodeValue decodeMessage j).toOption
  | some "function_call" => (Json.decodeValue decodeCall j).toOption
  | some "reasoning" => (j.textAt? "id").map fun id => .reasoning id j
  | _ => none

end Item

end Inquest

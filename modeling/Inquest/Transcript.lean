import Inquest.Action

/-! # What was said

A `Transcript` is the list of a suspect's turns, words and actions, oldest first. A `Reply` is the
answer to one message together with the actions that went into it.
-/

namespace Inquest

/-- One line of a transcript. -/
structure Turn where
  timestamp : Timestamp
  sender : String
  recipient : String
  message : String
  /-- The action that the line records, if it records one. -/
  activity : Option Invocation
  deriving DecidableEq

namespace Turn

/-- Words from one to another. -/
def spoken (now : Timestamp) (sender recipient message : String) : Turn :=
  ⟨now, sender, recipient, message, none⟩

/-- An action of `npc` while talking to `recipient`. -/
def acted (npc recipient : String) (i : Invocation) : Turn :=
  ⟨i.timestamp, npc, recipient, s!"{npc} performed the activity: '{i.name}'.", some i⟩

/-- Whether the turn records an action. -/
def isActivity (t : Turn) : Bool := t.activity.isSome

/-- The turn as a line, an action on a line of its own. -/
def display (t : Turn) : String :=
  let line := s!"[{t.timestamp.display}]\t[{t.sender} -> {t.recipient}]:\t{t.message}"
  match t.activity with
  | none => line
  | some i => s!"{line}\n\t{i.display}"

/-- A turn as data. -/
def toJson (t : Turn) : Json :=
  .obj [("timestamp", t.timestamp.toJson), ("from", .str t.sender), ("to", .str t.recipient),
    ("message", .str t.message), ("activity", Json.optional Invocation.toJson t.activity)]

open Json in
/-- A turn in data. -/
def decode : Json.Decoder Turn := fun room d => do
  let found ← fieldsOf [required "timestamp" Timestamp.decode, required "from" text,
    required "to" text, required "message" text,
    required "activity" (nullable Invocation.decode)] room d
  return {
    timestamp := ← found.get room "timestamp" Timestamp.decode
    sender := ← found.get room "from" text
    recipient := ← found.get room "to" text
    message := ← found.get room "message" text
    activity := ← found.getD room "activity" (nullable Invocation.decode) none }

end Turn

/-- The turns of a conversation, oldest first. -/
abbrev Transcript := List Turn

namespace Transcript

/-- The actions that were recorded. -/
def activities (t : Transcript) : List Invocation := t.filterMap Turn.activity

/-- The last message. -/
def lastMessage? (t : Transcript) : Option String := t.getLast?.map Turn.message

/-- A transcript as data. -/
def toJson (t : Transcript) : Json := .arr (t.map Turn.toJson)

/-- A transcript in data. -/
def decode : Json.Decoder Transcript := Json.listOf Turn.decode

end Transcript

/-- The answer to one message. -/
structure Reply where
  sender : String
  recipient : String
  message : String
  /-- Every action that went into the answer, in order. -/
  activities : List Invocation
  timestamp : Timestamp
  responseId : Option String
  /-- The last response as it was received; not kept in data. -/
  raw : Option String
  deriving DecidableEq

namespace Reply

/-- The last action that went into the answer. -/
def lastActivity? (r : Reply) : Option Invocation := r.activities.getLast?

/-- The answer as a line. -/
def display (r : Reply) : String := s!"[{r.sender} -> {r.recipient}]:\t{r.message}"

/-- A reply as data. -/
def toJson (r : Reply) : Json :=
  .obj [("from", .str r.sender), ("to", .str r.recipient), ("message", .str r.message),
    ("activities", .arr (r.activities.map Invocation.toJson)),
    ("timestamp", r.timestamp.toJson), ("response_id", Json.optional .str r.responseId)]

open Json in
/-- A reply in data. -/
def decode : Json.Decoder Reply := fun room d => do
  let found ← fieldsOf [required "from" text, required "to" text, required "message" text,
    required "activities" (listOf Invocation.decode), required "timestamp" Timestamp.decode,
    required "response_id" (nullable text)] room d
  return {
    sender := ← found.get room "from" text
    recipient := ← found.get room "to" text
    message := ← found.get room "message" text
    activities := ← found.get room "activities" (listOf Invocation.decode)
    timestamp := ← found.get room "timestamp" Timestamp.decode
    responseId := ← found.getD room "response_id" (nullable text) none
    raw := none }

end Reply

end Inquest

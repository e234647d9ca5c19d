import Inquest.Model.Request
import Inquest.Model.Response
import Inquest.Profile
import Inquest.Tool.Standard
import Inquest.Transcript

/-! # A suspect's conversation with the model

A `Session` holds what the model is told about a suspect, and the conversation twice: as a transcript
for people and as items for the model. Of the items the model's service already holds the first
`submitted`, under the id `previousResponseId`; the others have yet to reach it.

* `request`: what the model is asked, the whole history or what is unsent.
* `beginTurn`: a message enters the transcript and the history.
* `withTranscript`: a session that goes on from a saved transcript.
-/

namespace Inquest

/-- How the conversation reaches the model. -/
inductive ContextStrategy
  /-- The whole history goes with every request. -/
  | fullTranscript
  /-- Only what is new goes with a request that names the response before it. -/
  | previousResponse
  deriving Repr, DecidableEq

/-- Whether the model is asked again after it called tools. -/
inductive FollowUp
  /-- One round a message. -/
  | never
  /-- Again while a round brings calls and no text. -/
  | untilText
  deriving Repr, DecidableEq

/-- The settings of a session. -/
structure Settings where
  model : Option String
  effort : Effort
  context : ContextStrategy
  followUp : FollowUp
  /-- How many rounds may follow the first in one turn. -/
  maxToolRounds : Nat
  maxOutputTokens : Option Nat
  deriving Repr, DecidableEq

/-- The settings unless others are given. -/
def Settings.default : Settings := ⟨none, .low, .previousResponse, .never, 4, none⟩

/-- The conversation of one suspect. -/
structure Session where
  profile : Profile
  instructions : String
  tools : Toolbox
  settings : Settings
  transcript : Transcript
  /-- All items exchanged with the model, oldest first. -/
  history : List Item
  /-- How many of the items the service holds under `previousResponseId`. -/
  submitted : Nat
  previousResponseId : Option String

/-- A message with its speaker. -/
def frameMessage (sender text : String) : String := s!"[{sender} says]: {text}"

namespace Session

/-- A session without a conversation, with the standard tools. -/
def new (profile : Profile) (instructions : String) (settings : Settings) : Session :=
  ⟨profile, instructions, .standard, settings, [], [], 0, none⟩

/-- The suspect's name. -/
def name (s : Session) : String := s.profile.name

/-- The items that have not reached the service. -/
def unsent (s : Session) : List Item := s.history.drop s.submitted

/-- A spoken turn as an item for the model: the assistant's words are those of the suspect. -/
def replayed (name : String) (t : Turn) : Item :=
  if t.sender = name then .assistantText t.message else .userText t.message

/-- The session going on from a transcript, of which the model is told the spoken turns. -/
def withTranscript (s : Session) (t : Transcript) : Session :=
  { s with
    history := s.history ++ (t.filter fun turn => !turn.isActivity).map (replayed s.name)
    transcript := t }

/-- What the model is asked. -/
def request (s : Session) : Request :=
  let (input, previous) :=
    match s.settings.context with
    | .fullTranscript => (s.history, none)
    | .previousResponse => (s.unsent, s.previousResponseId)
  { model := s.settings.model
    instructions := some s.instructions
    input := input
    tools := some s.tools
    effort := some s.settings.effort
    previousResponseId := previous
    maxOutputTokens := s.settings.maxOutputTokens
    store := none }

/-- A turn put at the end of the transcript. -/
def record (s : Session) (t : Turn) : Session := { s with transcript := s.transcript ++ [t] }

/-- The session with a message to the suspect. -/
def beginTurn (now : Timestamp) (sender text : String) (s : Session) : Session :=
  let framed := frameMessage sender text
  let s := s.record (.spoken now sender s.name framed)
  { s with history := s.history ++ [.userText framed] }

/-- The session with a response and the outputs of its calls: the response's items reach the service
with everything before them, the outputs have yet to be sent. -/
def commit (s : Session) (r : Response) (outputs : List Item) : Session :=
  let history := s.history ++ r.output
  { s with
    history := history ++ outputs
    submitted := history.length
    previousResponseId := some r.id }

/-- A response and its outputs follow everything before them. -/
theorem history_commit (s : Session) (r : Response) (outputs : List Item) :
    (s.commit r outputs).history = s.history ++ r.output ++ outputs := rfl

theorem history_record (s : Session) (t : Turn) : (s.record t).history = s.history := rfl

theorem history_beginTurn (now : Timestamp) (sender text : String) (s : Session) :
    (s.beginTurn now sender text).history = s.history ++ [.userText (frameMessage sender text)] := rfl

end Session

end Inquest

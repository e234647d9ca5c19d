import Inquest.Executor
import Inquest.Model.Basic
import Inquest.Session.Basic

/-! # One round of a turn

A round is a response of the model and what is done about it: its calls are carried out one after the
other, each on record in the transcript at once, and the response is committed only when every call has
its output. A turn that is dropped before that leaves no call without output in the history.

* `perform`: what becomes of one call; whatever goes wrong is an invocation that failed.
* `runCalls`: the calls of a response in order, up to one that never finishes.
* `settle`: the round committed, and whether the model is asked again.
-/

namespace Inquest

/-- What the model is told about a call that cannot be carried out. -/
def failureExcuse : String :=
  "You cannot perform the required task due to personal excuses at the moment."

/-- Spoken when an action succeeded and nothing was said. -/
def acknowledgement : String := "Very well."

/-- A session with the states of the model and the executor that it talks to. -/
structure Scene (σ ε : Type) where
  session : Session
  model : σ
  executor : ε

/-- What a turn has gathered for its reply. -/
structure Draft where
  sender : String
  activities : List Invocation
  override : Option String
  text : String
  /-- How many rounds may still follow. -/
  roundsLeft : Nat
  responseId : Option String
  raw : Option String

/-- Nothing gathered yet. -/
def Draft.start (sender : String) (roundsLeft : Nat) : Draft :=
  ⟨sender, [], none, "", roundsLeft, none, none⟩

namespace Session

variable {σ ε : Type}

/-- A call that failed: its arguments are dropped, so that they cannot speak over the excuse. -/
def failedCall (now : Timestamp) (name : String) (e : ActionError) : Invocation :=
  .failed now name [] failureExcuse e.message

/-- What becomes of a call: its invocation, or nothing if it never finishes. The executor is asked only
for a declared tool with readable arguments. -/
def perform (executor : Executor ε) (now : Timestamp) (tools : Toolbox) (state : ε) (c : Call) :
    Option Invocation × ε :=
  match tools.tool? c.name with
  | none => (some (failedCall now c.name (.unsupported c.name)), state)
  | some _ =>
    match Parameters.parse c.arguments with
    | .error e => (some (failedCall now c.name (.arguments e.message)), state)
    | .ok parameters =>
      match executor.perform now state c.name parameters with
      | (.finished (.ok i), state) => (some i, state)
      | (.finished (.error e), state) => (some (failedCall now c.name e), state)
      | (.panicked, state) => (some (failedCall now c.name .panicked), state)
      | (.pending, state) => (none, state)

/-- The calls of a response carried out in order: the invocations, and whether all calls finished. -/
def runCalls (executor : Executor ε) (now : Timestamp) (sender : String) :
    List Call → Scene σ ε → List Invocation × Bool × Scene σ ε
  | [], scene => ([], true, scene)
  | c :: rest, scene =>
    match perform executor now scene.session.tools scene.executor c with
    | (none, state) => ([], false, { scene with executor := state })
    | (some i, state) =>
      let session := scene.session.record (.acted scene.session.name sender i)
      let (is, finished, scene) :=
        runCalls executor now sender rest { scene with session := session, executor := state }
      (i :: is, finished, scene)

/-- The outputs of calls. -/
def outputs (calls : List Call) (invocations : List Invocation) : List Item :=
  List.zipWith (fun c i => .output c.callId i.output) calls invocations

/-- The words of the last invocation that has any. -/
def lastOverride (invocations : List Invocation) : Option String :=
  (invocations.filterMap Invocation.overrideText).getLast?

/-- Whether a round calls for another: it had calls, no text, and the settings allow it. -/
def asksAgain (settings : Settings) (draft : Draft) (r : Response) : Bool :=
  settings.followUp == .untilText && !r.calls.isEmpty && Text.isBlank r.text &&
    decide (0 < draft.roundsLeft)

/-- What a turn has gathered after a round. -/
def gather (draft : Draft) (r : Response) (invocations : List Invocation) (again : Bool) : Draft :=
  { draft with
    activities := draft.activities ++ invocations
    override := (lastOverride invocations).or draft.override
    text := if Text.isBlank r.text then draft.text else r.text
    roundsLeft := if again then draft.roundsLeft - 1 else draft.roundsLeft
    responseId := some r.id
    raw := some r.raw.compact }

/-- What a turn says in the end: the words of an invocation, the model's text, or, for a silent action,
an acknowledgement or the reason of its failure. -/
def spokenText (draft : Draft) : String :=
  match draft.override with
  | some t => t
  | none =>
    if !Text.isBlank draft.text then draft.text
    else
      match draft.activities.getLast? with
      | some i => if i.success then acknowledgement else i.output
      | none => ""

/-- The reply of a turn, on record in the transcript. -/
def finish (now : Timestamp) (draft : Draft) (s : Session) : Reply × Session :=
  let message := spokenText draft
  ({ sender := s.name
     recipient := draft.sender
     message := message
     activities := draft.activities
     timestamp := now
     responseId := draft.responseId
     raw := draft.raw },
   s.record (.spoken now s.name draft.sender message))

end Session

end Inquest

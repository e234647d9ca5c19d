import Inquest.Session.Round

/-! # A message and its reply

A message to a suspect is answered in rounds: the model is asked, its calls are carried out, and it is
asked again while the settings want that. `send` waits for whole responses; `stream` listens to events
and tells what it hears, chunk by chunk. Both keep the same records.

* `sendRounds`, `streamRounds`: the rounds of a turn, of which at most `left` follow the first.
* `Ending`: how a turn ends; one whose model or executor never finishes is abandoned.
* `Told`: a streamed turn as the chunks it tells, each with the scene in which it is told. Whoever stops
  listening after a chunk leaves the scene as it is there (`Told.after`).
-/

namespace Inquest

/-- Why a turn has no reply. Calls that fail are no reason. -/
inductive TurnError
  | model (e : ApiError)
  /-- The stream ended before the response was complete. -/
  | incompleteStream
  deriving DecidableEq

/-- What went wrong, in words. -/
def TurnError.message : TurnError → String
  | .model e => s!"Model backend error: {e.message}"
  | .incompleteStream => "Response stream ended before the response completed"

/-- How a turn ends. -/
inductive Ending
  | replied (r : Reply)
  | failed (e : TurnError)
  /-- The model or the executor never finishes, and whoever waited gave up. -/
  | abandoned

/-- A piece of a streamed reply. -/
inductive Chunk
  /-- Text as the model puts it out. -/
  | text (t : String)
  /-- The model began a call. -/
  | processing
  /-- A call was carried out. -/
  | action (i : Invocation)
  /-- The finished reply. -/
  | done (r : Reply)

/-- A streamed turn: its chunks, each with the state of things when it is told, and the end. -/
structure Told (α : Type) where
  chunks : List (Chunk × α)
  ending : Ending
  final : α

namespace Told

variable {α β : Type}

/-- More chunks told before the others. -/
def prepend (chunks : List (Chunk × α)) (t : Told α) : Told α :=
  { t with chunks := chunks ++ t.chunks }

/-- The same turn with another view of the state of things. -/
def map (f : α → β) (t : Told α) : Told β :=
  ⟨t.chunks.map fun (c, a) => (c, f a), t.ending, f t.final⟩

/-- The state of things after `n` chunks, or at the end if there are fewer; nothing begins before the
first. -/
def after (t : Told α) (before : α) (n : Nat) : α :=
  match n with
  | 0 => before
  | n + 1 =>
    match t.chunks[n]? with
    | some (_, a) => a
    | none => t.final

end Told

namespace Session

variable {σ ε : Type}

/-! ## Whole responses -/

/-- The rounds of a turn, of which at most `left` follow the first. -/
def sendRounds (model : Model σ) (executor : Executor ε) (now : Timestamp) :
    (left : Nat) → Draft → Scene σ ε → Ending × Scene σ ε
  | left, draft, scene =>
    match model.respond scene.model scene.session.request with
    | (.never, m) => (.abandoned, { scene with model := m })
    | (.came (.error e), m) => (.failed (.model e), { scene with model := m })
    | (.came (.ok r), m) =>
      let (invocations, finished, scene) :=
        runCalls executor now draft.sender r.calls { scene with model := m }
      if finished then
        let again := asksAgain scene.session.settings { draft with roundsLeft := left } r
        let session := scene.session.commit r (outputs r.calls invocations)
        let draft := gather draft r invocations again
        match left, again with
        | left + 1, true => sendRounds model executor now left draft { scene with session := session }
        | _, _ =>
          let (reply, session) := finish now draft session
          (.replied reply, { scene with session := session })
      else (.abandoned, scene)

/-- A message sent to the suspect, and what comes of it. -/
def send (model : Model σ) (executor : Executor ε) (now : Timestamp) (sender text : String)
    (scene : Scene σ ε) : Ending × Scene σ ε :=
  let rounds := scene.session.settings.maxToolRounds
  sendRounds model executor now rounds (.start sender rounds)
    { scene with session := scene.session.beginTurn now sender text }

/-! ## Streamed responses -/

/-- What listening to a stream comes to. -/
inductive Heard
  | completed (r : Response)
  | failed (e : TurnError)

/-- The chunks told while listening, up to the event that completes the response or ends it. -/
def listen : List (Except ApiError Event) → List Chunk × Heard
  | [] => ([], .failed .incompleteStream)
  | .error e :: _ => ([], .failed (.model e))
  | .ok (.textDelta _ delta) :: rest => let (cs, h) := listen rest; (.text delta :: cs, h)
  | .ok (.itemAdded _ (.call _)) :: rest => let (cs, h) := listen rest; (.processing :: cs, h)
  | .ok (.completed r) :: _ => ([], .completed r)
  | .ok (.error m) :: _ => ([], .failed (.model (.failed m)))
  | .ok _ :: rest => listen rest

/-- The rounds of a streamed turn, of which at most `left` follow the first. -/
def streamRounds (model : Model σ) (executor : Executor ε) (now : Timestamp) :
    (left : Nat) → Draft → Scene σ ε → Told (Scene σ ε)
  | left, draft, scene =>
    match model.stream scene.model scene.session.request with
    | (.never, m) => ⟨[], .abandoned, { scene with model := m }⟩
    | (.came (.error e), m) => ⟨[], .failed (.model e), { scene with model := m }⟩
    | (.came (.ok events), m) =>
      let scene := { scene with model := m }
      let (chunks, heard) := listen events
      let told := chunks.map fun c => (c, scene)
      match heard with
      | .failed e => ⟨told, .failed e, scene⟩
      | .completed r =>
        let (invocations, finished, scene) := runCalls executor now draft.sender r.calls scene
        if finished then
          let again := asksAgain scene.session.settings { draft with roundsLeft := left } r
          let session := scene.session.commit r (outputs r.calls invocations)
          let draft := gather draft r invocations again
          let scene := { scene with session := session }
          let told := told ++ invocations.map fun i => (.action i, scene)
          match left, again with
          | left + 1, true => (streamRounds model executor now left draft scene).prepend told
          | _, _ =>
            let (reply, session) := finish now draft session
            let scene := { scene with session := session }
            ⟨told ++ [(.done reply, scene)], .replied reply, scene⟩
        else ⟨told, .abandoned, scene⟩

/-- A message streamed to the suspect, and what is told of it. -/
def stream (model : Model σ) (executor : Executor ε) (now : Timestamp) (sender text : String)
    (scene : Scene σ ε) : Told (Scene σ ε) :=
  let rounds := scene.session.settings.maxToolRounds
  streamRounds model executor now rounds (.start sender rounds)
    { scene with session := scene.session.beginTurn now sender text }

end Session

end Inquest

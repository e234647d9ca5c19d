import Inquest.Desk

/-! # A shift at the desk

Players put requests on one queue and read responses from another, each with room for a few. Whoever
keeps the desk takes the requests one at a time and puts the responses on the queue one by one, waiting
while it is full. When the players leave, responses are dropped.

* `Visit`: a request, and when the time for it is up.
* `attend`, `work`: the answer to a visit, and to visits one after the other.
* `Shift`, `Shift.step`: the desk between the two queues, and what may happen next.
-/

namespace Inquest

namespace Desk

/-- When the time for a streamed reply is up. -/
structure Late where
  /-- At which chunk, counted from none. -/
  chunk : Nat
  /-- Whether that chunk is still put on the queue. -/
  said : Bool

/-- A request as it comes to the desk. A model or an executor that is too slow for a limit never
answers; the time for a stream may also be up while its chunks are passed on. -/
structure Visit where
  now : Timestamp
  request : Request
  late : Option Late

variable {σ ε : Type} (model : Model σ) (casting : Casting ε)

/-- A streamed reply that was given up: what was said of it, and the state of things then. There is
nothing to give up if it has ended before. -/
def givenUp? {α : Type} (npc : String) (told : Told α) (late : Late) : Option (List Response × α) :=
  match told.chunks[late.chunk]? with
  | none | some (.done _, _) => none
  | some (_, a) =>
    let said := if late.said then late.chunk + 1 else late.chunk
    some ((told.chunks.take said).filterMap (fun (c, _) => forward npc c) ++
      [.failed npc troubleText], a)

/-- The answer to a visit, and the desk after it. -/
def attend (d : Desk σ ε) (v : Visit) : List Response × Desk σ ε :=
  match d.standing, d.limited, v.late, v.request with
  | .serving, true, some late, .stream npc text =>
    match (d.play.streamTo model casting v.now npc text).1 with
    | .error _ => d.handle model casting v.now v.request
    | .ok told =>
      match givenUp? npc told late with
      | none => d.handle model casting v.now v.request
      | some (answer, play) => (answer, { d with play := play })
  | _, _, _, _ => d.handle model casting v.now v.request

/-- The answers to visits one after the other, and the desk after them. -/
def work (d : Desk σ ε) : List Visit → List (List Response) × Desk σ ε
  | [] => ([], d)
  | v :: rest =>
    let (answer, d) := d.attend model casting v
    let (answers, d) := work d rest
    (answer :: answers, d)

/-- How many requests may wait. -/
def requestRoom : Nat := 8

/-- How many responses may wait. -/
def responseRoom : Nat := 64

end Desk

/-- A desk between the requests and the responses. -/
structure Shift (σ ε : Type) where
  desk : Desk σ ε
  /-- The requests that came, oldest first. -/
  asked : List Desk.Visit
  /-- Those of them that wait. -/
  waiting : List Desk.Visit
  /-- Whether no more requests come. -/
  hungUp : Bool
  /-- Those that were attended to. -/
  attended : List Desk.Visit
  /-- What remains to be said to the last of them. -/
  outgoing : List Desk.Response
  /-- The responses that wait, oldest first. -/
  queue : List Desk.Response
  /-- The responses that were read, oldest first. -/
  received : List Desk.Response
  /-- Whether anybody reads responses. -/
  listening : Bool

namespace Shift

/-- What may happen at a desk. -/
inductive Move
  | ask (v : Desk.Visit)
  /-- No more requests come. -/
  | hangUp
  /-- The one who keeps the desk goes on. -/
  | work
  | read
  /-- Nobody reads responses any more. -/
  | leave

variable {σ ε : Type} (model : Model σ) (casting : Casting ε)

/-- The beginning of a shift. -/
def opening (d : Desk σ ε) : Shift σ ε := ⟨d, [], [], false, [], [], [], [], true⟩

/-- A response put on the queue, if there is room; without readers it is dropped. -/
def say (s : Shift σ ε) (r : Desk.Response) (rest : List Desk.Response) : Shift σ ε :=
  if !s.listening then { s with outgoing := rest }
  else if s.queue.length < Desk.responseRoom then
    { s with outgoing := rest, queue := s.queue ++ [r] }
  else s

/-- The next request attended to. When all is done and no more come the desk is closed. -/
def takeUp (s : Shift σ ε) : Shift σ ε :=
  match s.waiting with
  | [] => if s.hungUp then { s with desk := { s.desk with standing := .closed } } else s
  | v :: rest =>
    let (answer, desk) := s.desk.attend model casting v
    { s with
      desk := desk
      waiting := rest
      attended := s.attended ++ [v]
      outgoing := answer }

/-- The shift after a move; one that is not possible changes nothing. -/
def step (s : Shift σ ε) : Move → Shift σ ε
  | .ask v =>
    if s.hungUp || s.desk.standing == .closed || decide (Desk.requestRoom ≤ s.waiting.length) then s
    else { s with asked := s.asked ++ [v], waiting := s.waiting ++ [v] }
  | .hangUp => { s with hungUp := true }
  | .work =>
    match s.outgoing with
    | r :: rest => s.say r rest
    | [] => if s.desk.standing = .serving then s.takeUp model casting else s
  | .read =>
    match s.queue with
    | r :: rest => { s with queue := rest, received := s.received ++ [r] }
    | [] => s
  | .leave => { s with listening := false, queue := [] }

end Shift

end Inquest

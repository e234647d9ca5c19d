import Inquest.World.Errand

/-! # The hand-off of commands to the game loop

Commands reach the game loop through a queue with room for a few. A submission that finds the queue full
waits; the slot of a request that is taken goes to the first that waits, and is kept until that one goes
on. Whoever submitted learns what the game loop makes of the request, or that nobody is listening.

* `Stage`: how far a submission is; waiting submissions are served in the order of their numbers.
* `submit`, `poll`, `cancel`: the side of those who submit.
* `take`, `complete`, `dropRequest`, `dropInbox`: the side of the game loop.
* `held_le_submit`: a submission never holds more slots than there are.
-/

namespace Inquest

/-- How far a submission is. -/
inductive Stage
  /-- It waits for a slot in the queue. -/
  | waiting
  /-- A slot is kept for it. -/
  | granted
  /-- Its request is queued or in the hands of the game loop. -/
  | posted
  /-- The request was carried out, or refused for a reason. -/
  | answered (refusal : Option String)
  /-- The request was dropped. -/
  | lost
  /-- Nobody asks any more. -/
  | finished
  deriving DecidableEq

/-- A submission. -/
structure Ticket where
  command : Command
  stage : Stage

/-- A queue of commands between those who submit and the game loop. Submissions are numbered in the
order in which they began. -/
structure Handoff where
  capacity : Nat
  tickets : List Ticket
  /-- The numbers of the queued requests, oldest first. -/
  queue : List Nat
  /-- The numbers of the requests in the hands of the game loop, oldest first. -/
  taken : List Nat
  /-- Whether the game loop still listens. -/
  inbox : Bool
  /-- Whether more may be submitted. -/
  handle : Bool
  capacity_pos : 0 < capacity

/-- What a submission has come to. -/
inductive Progress
  | pending
  | settled (s : Settlement)
  /-- It was told before what became of it. -/
  | over

/-- What waiting for a request comes to. -/
inductive Arrival
  | request (c : Command)
  | wait
  /-- Nobody can submit any more, and all is taken. -/
  | closed

namespace Handoff

/-- A queue with room for some commands; there is none without room. -/
def new? (capacity : Nat) : Option Handoff :=
  if h : 0 < capacity then some ⟨capacity, [], [], [], true, true, h⟩ else none

/-! ## Slots -/

/-- Whether a slot is kept for a submission. -/
def isGranted (t : Ticket) : Bool := t.stage == .granted

/-- How many slots are taken up. -/
def held (h : Handoff) : Nat := h.queue.length + h.tickets.countP isGranted

/-- The first waiting submission granted a slot. -/
def grantFirst : List Ticket → List Ticket
  | [] => []
  | t :: rest =>
    if t.stage = .waiting then { t with stage := .granted } :: rest else t :: grantFirst rest

/-- A free slot given to the first that waits. -/
def passSlot (h : Handoff) : Handoff :=
  if h.held < h.capacity then { h with tickets := grantFirst h.tickets } else h

/-- A submission at another stage. -/
def setStage (h : Handoff) (id : Nat) (stage : Stage) : Handoff :=
  { h with tickets := h.tickets.modify id fun t => { t with stage := stage } }

/-- A posted request with its outcome; nobody learns of it if nobody asks any more. -/
def tell (h : Handoff) (id : Nat) (stage : Stage) : Handoff :=
  { h with tickets := h.tickets.modify id fun t =>
      if t.stage = .posted then { t with stage := stage } else t }

/-! ## Those who submit -/

/-- Nobody is listening. -/
def deaf : Progress := .settled (.error .disconnected)

/-- A command submitted; nothing happens without a handle. -/
def submit (h : Handoff) (c : Command) : Option Progress × Handoff :=
  if !h.handle then (none, h)
  else if !h.inbox then (some deaf, { h with tickets := h.tickets ++ [⟨c, .finished⟩] })
  else if h.held < h.capacity then
    (some .pending,
      { h with tickets := h.tickets ++ [⟨c, .posted⟩], queue := h.queue ++ [h.tickets.length] })
  else (some .pending, { h with tickets := h.tickets ++ [⟨c, .waiting⟩] })

/-- What became of an answered request. -/
def settlement : (refusal : Option String) → Settlement
  | none => .ok ()
  | some reason => .error (.world reason)

/-- A submission asked how far it is; one with a slot posts its request. -/
def poll (h : Handoff) (id : Nat) : Option Progress × Handoff :=
  match h.tickets[id]? with
  | none => (none, h)
  | some t =>
    match t.stage with
    | .waiting => if h.inbox then (some .pending, h) else (some deaf, h.setStage id .finished)
    | .granted =>
      if h.inbox then
        (some .pending, { h.setStage id .posted with queue := h.queue ++ [id] })
      else (some deaf, h.setStage id .finished)
    | .posted => (some .pending, h)
    | .answered refusal => (some (.settled (settlement refusal)), h.setStage id .finished)
    | .lost => (some deaf, h.setStage id .finished)
    | .finished => (some .over, h)

/-- A submission given up. A slot that was kept for it goes to the next; a request that was posted
stays. -/
def cancel (h : Handoff) (id : Nat) : Handoff := (h.setStage id .finished).passSlot

/-! ## The game loop -/

/-- The oldest queued request taken. -/
def take (h : Handoff) : Option Command × Handoff :=
  match h.queue with
  | [] => (none, h)
  | id :: rest =>
    ((h.tickets[id]?).map Ticket.command,
      { h with queue := rest, taken := h.taken ++ [id] }.passSlot)

/-- Whether a submission may still go on. -/
def isRunning (t : Ticket) : Bool := t.stage != .finished

/-- Waiting for a request, if the game loop listens. -/
def next (h : Handoff) : Option Arrival × Handoff :=
  if !h.inbox then (none, h)
  else
    match h.take with
    | (some c, h) => (some (.request c), h)
    | (none, h) => (some (if h.handle || h.tickets.any isRunning then .wait else .closed), h)

/-- The oldest taken request carried out, or refused for a reason, and how many are still taken. -/
def complete (h : Handoff) (refusal : Option String) : Option Nat × Handoff :=
  match h.taken with
  | [] => (none, h)
  | id :: rest => (some rest.length, { h.tell id (.answered refusal) with taken := rest })

/-- The oldest taken request dropped. -/
def dropRequest (h : Handoff) : Bool × Handoff :=
  match h.taken with
  | [] => (false, h)
  | id :: rest => (true, { h.tell id .lost with taken := rest })

/-- The game loop stops listening, and the queued requests are dropped; whether it did listen. -/
def dropInbox (h : Handoff) : Bool × Handoff :=
  (h.inbox, { h.queue.foldl (fun h id => h.tell id .lost) h with queue := [], inbox := false })

/-- Nothing more may be submitted; whether it might. -/
def dropHandle (h : Handoff) : Bool × Handoff := (h.handle, { h with handle := false })

/-! ## Room -/

/-- A submission never takes up more slots than there are. -/
theorem held_le_submit {h : Handoff} (hh : h.held ≤ h.capacity) (c : Command) :
    (h.submit c).2.held ≤ (h.submit c).2.capacity := by
  unfold submit
  split
  · exact hh
  · split
    · simpa [held, isGranted] using hh
    · split
      · next hlt =>
        simp only [held, List.length_append, List.countP_append, List.length_cons, List.length_nil,
          List.countP_cons, List.countP_nil, isGranted] at hlt ⊢
        simp only [beq_iff_eq, reduceCtorEq, if_false]
        omega
      · simpa [held, isGranted] using hh

end Handoff

end Inquest

import Inquest.World.Conduct
import Inquest.World.Handoff

/-! # Many suspects act at once

On the `Floor` any number of actions go on at once. Each is an errand that submits its commands to the
hand-off one at a time and waits for what comes of it; the game loop takes the requests and deals with
those in its hands in any order. What happens is kept in a log.

* `Handoff.settle`: a request in the hands of the game loop dealt with, whichever it is.
* `Action`: an action under way.
* `Happening`: what the log tells.
* `Floor.step`: what happens on a move.
-/

namespace Inquest

namespace Handoff

/-- A taken request carried out, refused or dropped, whichever it is. -/
def settle (h : Handoff) (id : Nat) (stage : Stage) : Handoff :=
  { h.tell id stage with taken := h.taken.erase id }

end Handoff

/-- An action under way. -/
structure Action where
  conduct : Conduct
  now : Timestamp
  name : String
  parameters : Parameters
  /-- What came of its commands so far, oldest first. -/
  past : List (Command × Settlement)
  /-- What remains to be done; nothing if it was given up. -/
  rest : Option (Errand Invocation)
  /-- The number of the submission that it waits for. -/
  ticket : Option Nat

/-- What happens on a floor. Actions and submissions are numbered in the order in which they begin. -/
inductive Happening
  /-- An action submits a command. -/
  | submitted (action ticket : Nat) (c : Command)
  /-- A request enters the queue. -/
  | posted (ticket : Nat)
  /-- The game loop takes a request. -/
  | received (ticket : Nat) (c : Command)
  /-- The game loop has carried out a request, or refused it for a reason. -/
  | completed (ticket : Nat) (refusal : Option String)
  | dropped (ticket : Nat)
  /-- The game loop stops listening. -/
  | closed
  /-- An action learns what came of its command. -/
  | returned (action ticket : Nat) (s : Settlement)
  | abandoned (action : Nat)

/-- Many actions and one game loop. -/
structure Floor where
  handoff : Handoff
  actions : List Action
  log : List Happening

namespace Floor

/-- What may happen next. -/
inductive Move
  | begin (c : Conduct) (now : Timestamp) (name : String) (parameters : Parameters)
  /-- An action goes on: it submits its next command, or asks what became of the last. -/
  | go (action : Nat)
  | abandon (action : Nat)
  | take
  | complete (ticket : Nat) (refusal : Option String)
  | drop (ticket : Nat)
  | close

/-- A floor on which nothing has happened. -/
def empty (h : Handoff) : Floor := ⟨h, [], []⟩

/-- The requests that entered the queue between two states of the hand-off. -/
def posts (h h' : Handoff) : List Happening :=
  (h'.queue.drop h.queue.length).map Happening.posted

/-- An action that learned what came of its command. -/
def proceed (a : Action) (c : Command) (next : Settlement → Errand Invocation) (s : Settlement) :
    Action :=
  { a with past := a.past ++ [(c, s)], rest := some (next s), ticket := none }

/-- The floor with another state of an action and of the hand-off, and what happened. -/
def update (f : Floor) (i : Nat) (a : Action) (h : Handoff) (happened : List Happening) : Floor :=
  ⟨h, f.actions.set i a, f.log ++ happened⟩

/-- The floor after an action went on. -/
def go (f : Floor) (i : Nat) (a : Action) : Floor :=
  match a.rest, a.ticket with
  | some (.post c next), none =>
    let ticket := f.handoff.tickets.length
    match f.handoff.submit c with
    | (some .pending, h) =>
      f.update i { a with ticket := some ticket } h
        (.submitted i ticket c :: posts f.handoff h)
    | (some (.settled s), h) =>
      f.update i (proceed a c next s) h [.submitted i ticket c, .returned i ticket s]
    | _ => f
  | some (.post c next), some ticket =>
    match f.handoff.poll ticket with
    | (some .pending, h) => f.update i a h (posts f.handoff h)
    | (some (.settled s), h) => f.update i (proceed a c next s) h [.returned i ticket s]
    | _ => f
  | _, _ => f

/-- The floor after an action was given up. -/
def abandon (f : Floor) (i : Nat) (a : Action) : Floor :=
  let h :=
    match a.ticket with
    | some ticket => f.handoff.cancel ticket
    | none => f.handoff
  f.update i { a with rest := none, ticket := none } h [.abandoned i]

/-- The floor after a move; one that is not possible changes nothing. -/
def step (f : Floor) : Move → Floor
  | .begin c now name parameters =>
    { f with
      actions := f.actions ++
        [⟨c, now, name, parameters, [], some (c.perform now name parameters), none⟩] }
  | .go i =>
    match f.actions[i]? with
    | some a => f.go i a
    | none => f
  | .abandon i =>
    match f.actions[i]? with
    | some a => f.abandon i a
    | none => f
  | .take =>
    match f.handoff.queue.head?, f.handoff.take with
    | some ticket, (some c, h) =>
      { f with handoff := h, log := f.log ++ [.received ticket c] }
    | _, _ => f
  | .complete ticket refusal =>
    if ticket ∈ f.handoff.taken then
      { f with
        handoff := f.handoff.settle ticket (.answered refusal)
        log := f.log ++ [.completed ticket refusal] }
    else f
  | .drop ticket =>
    if ticket ∈ f.handoff.taken then
      { f with
        handoff := f.handoff.settle ticket .lost
        log := f.log ++ [.dropped ticket] }
    else f
  | .close =>
    if f.handoff.inbox then
      { f with handoff := f.handoff.dropInbox.2, log := f.log ++ [.closed] }
    else f

end Floor

end Inquest

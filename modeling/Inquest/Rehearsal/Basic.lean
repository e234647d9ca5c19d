import Inquest.Rehearsal.Actor
import Inquest.Rehearsal.SampleTown
import Inquest.Rehearsal.Script
import Inquest.Town.Talk

/-! # Rehearsals

A `Rehearsal` is the sample town with a scripted model, one actor for all suspects and a board for the
evidence; its answers are checked against what is expected.
-/

namespace Inquest

/-- The sample town on script and cue. -/
structure Rehearsal where
  play : Play Script Actor

namespace Rehearsal

/-- A rehearsal with an actor, the culprit picked by a policy. -/
def start (policy : CulpritPolicy) (actor : Actor) : Except TownError Rehearsal :=
  (Town.start SampleTown.profiles SampleTown.prompts policy .default).map fun town =>
    ⟨{ town with inventory := some (.board .empty) }, .new [], actor⟩

/-- A line put at the end of the script. -/
def expect (r : Rehearsal) (l : Line) : Rehearsal :=
  ⟨{ r.play with model := r.play.model.push l }⟩

/-- How many lines are left. -/
def remaining (r : Rehearsal) : Nat := r.play.model.lines.length

/-- An item put on the board. -/
def collect (r : Rehearsal) (e : Evidence) : Rehearsal :=
  match r.play.town.inventory with
  | some (.board b) =>
    ⟨{ r.play with town := { r.play.town with inventory := some (.board (b.collect e).1) } }⟩
  | _ => r

/-- Words to a suspect. -/
def talk (now : Timestamp) (r : Rehearsal) (name text : String) :
    Except TownError Ending × Rehearsal :=
  let (result, play) := r.play.talk Script.asModel (fun _ _ => Actor.executor) now name text
  (result, ⟨play⟩)

/-- How many turns a suspect's transcript has; a stranger has none. -/
def turnCount (r : Rehearsal) (name : String) : Nat :=
  ((r.play.town.transcript? name).map List.length).getD 0

/-- The last message in a suspect's transcript. -/
def lastMessage? (r : Rehearsal) (name : String) : Option String :=
  (r.play.town.transcript? name).bind Transcript.lastMessage?

/-- Whether a reply says a text and no action of it failed. -/
def isClean (r : Reply) (text : String) : Bool :=
  r.message == text && r.activities.all fun i => i.success

end Rehearsal

end Inquest

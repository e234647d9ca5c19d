import Inquest.World.Conduct

/-! # Whoever carries out actions on cue

An `Actor` carries out every action as its next cue says, and the rest as one cue that never runs out;
it keeps the actions that it was asked for. A `Stagehand` settles the commands of a world in the same
way.
-/

namespace Inquest

/-- What becomes of an action. -/
inductive Cue
  /-- It succeeds with a word of its own. -/
  | acknowledge
  | succeed (output : String)
  /-- It is refused within the game. -/
  | refuse (output : String)
  | fail (e : ActionError)
  | panic
  /-- It never finishes. -/
  | hang

/-- Whoever carries out actions on cue. -/
structure Actor where
  cues : List Cue
  /-- The cue when there is none left. -/
  afterwards : Cue
  /-- The actions asked for so far. -/
  calls : List (String × Parameters)

namespace Actor

/-- An actor with one cue for all actions. -/
def always (cue : Cue) : Actor := ⟨[], cue, []⟩

/-- What becomes of an action under a cue. -/
def follow (now : Timestamp) (action : String) (parameters : Parameters) : Cue → Outcome
  | .acknowledge => .finished (.ok (.succeeded now action parameters s!"{action} done"))
  | .succeed output => .finished (.ok (.succeeded now action parameters output))
  | .refuse output => .finished (.ok (.failed now action parameters output "refused"))
  | .fail e => .finished (.error e)
  | .panic => .panicked
  | .hang => .pending

/-- The actor as whoever carries out actions. -/
def executor : Executor Actor where
  perform now a action parameters :=
    (follow now action parameters (a.cues.headD a.afterwards),
      { a with cues := a.cues.tail, calls := a.calls ++ [(action, parameters)] })

end Actor

/-- What a stagehand does with a command. -/
inductive Handling
  | carryOut
  | refuse (reason : String)
  /-- The command is dropped, and nobody is told. -/
  | drop

/-- A world that handles its commands as it is told, and carries out the rest. -/
structure Stagehand where
  handlings : List Handling
  /-- Whether anybody is there. -/
  present : Bool
  /-- The commands received so far. -/
  commands : List Command

namespace Stagehand

/-- A world that nobody attends to. -/
def absent : Stagehand := ⟨[], false, []⟩

/-- A world with some handlings to come. -/
def new (handlings : List Handling) : Stagehand := ⟨handlings, true, []⟩

/-- What comes of a command under a handling. -/
def settlement : Handling → Settlement
  | .carryOut => .ok ()
  | .refuse reason => .error (.world reason)
  | .drop => .error .disconnected

/-- The stagehand's world. -/
def world : Errand.World Stagehand := fun s c =>
  if s.present then
    (some (settlement (s.handlings.headD .carryOut)),
      { s with handlings := s.handlings.tail, commands := s.commands ++ [c] })
  else (some (.error .disconnected), s)

end Stagehand

end Inquest

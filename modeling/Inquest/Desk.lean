import Inquest.Save.File
import Inquest.Town.Talk

/-! # The desk between players and the town

A `Desk` takes requests one at a time and answers each with a list of responses, of which the last says
how the request ended. What goes wrong is told in words fit for the player.

* `handle`: the responses to a request, and the desk after it.
* `TownError.fallback`: the player is told whether nobody was meant or nobody could answer.
-/

namespace Inquest

/-- Told to the player when a suspect cannot answer. -/
def troubleText : String := "Sorry, I'm having trouble thinking right now..."

/-- Told to the player when nobody has the name. -/
def strangerText : String := "Sorry, I'm not sure who you are talking to."

/-- What the player is told in place of an answer. -/
def TownError.fallback : TownError → String
  | .unknownNpc _ => strangerText
  | .indexOutOfRange _ _ => strangerText
  | _ => troubleText

namespace Desk

/-- What a player asks of the desk. -/
inductive Request
  | talk (npc text : String)
  | stream (npc text : String)
  /-- Who is the culprit? -/
  | reveal
  | save (path : String)
  | shutdown

/-- What the desk tells a player. -/
inductive Response
  | text (npc text : String)
  | processing (npc : String)
  | action (npc : String) (i : Invocation)
  | complete (r : Reply)
  | failed (npc message : String)
  | culprit (name : String)
  | saved (path : String)
  | saveFailed (reason : String)

/-- Whether the desk takes requests. -/
inductive Standing
  | serving
  /-- It was shut down. -/
  | closed
  /-- It waits for an answer that never comes. -/
  | stuck
  deriving DecidableEq

end Desk

/-- A desk with its town. -/
structure Desk (σ ε : Type) where
  play : Play σ ε
  /-- Where towns are saved. -/
  directory : Entry
  standing : Desk.Standing
  /-- Whether a request is given up when its answer does not come in time. -/
  limited : Bool

namespace Desk

variable {σ ε : Type}

/-- How a conversation ends for the player: a reply, an apology, or nothing as long as one waits. -/
def conclude (limited : Bool) (npc : String) : Except TownError Ending → Option Response
  | .error e => some (.failed npc e.fallback)
  | .ok (.replied r) => some (.complete r)
  | .ok (.failed e) => some (.failed npc (TownError.turn e).fallback)
  | .ok .abandoned => if limited then some (.failed npc troubleText) else none

/-- A chunk as it is passed on; the reply at the end is told apart. -/
def forward (npc : String) : Chunk → Option Response
  | .text t => some (.text npc t)
  | .processing => some (.processing npc)
  | .action i => some (.action npc i)
  | .done _ => none

/-- The desk after a conversation, which is stuck if it has no end. -/
def afterTalk (d : Desk σ ε) (play : Play σ ε) (last : Option Response) : Desk σ ε :=
  { d with play := play, standing := if last.isSome then d.standing else .stuck }

/-- The responses to a request that an open desk takes. -/
def serve (model : Model σ) (casting : Casting ε) (now : Timestamp) (d : Desk σ ε) :
    Request → List Response × Desk σ ε
  | .talk npc text =>
    let (result, play) := d.play.talk model casting now npc text
    let last := conclude d.limited npc result
    (last.toList, d.afterTalk play last)
  | .stream npc text =>
    match d.play.streamTo model casting now npc text with
    | (.error e, play) =>
      let last := conclude d.limited npc (.error e)
      (last.toList, d.afterTalk play last)
    | (.ok told, _) =>
      let last := conclude d.limited npc (.ok told.ending)
      ((told.chunks.filterMap fun (c, _) => forward npc c) ++ last.toList,
        d.afterTalk told.final last)
  | .reveal => ([.culprit d.play.town.culpritName], d)
  | .save path =>
    match (SavedTown.capture now d.play.town).store path d.directory with
    | .ok directory => ([.saved path], { d with directory := directory })
    | .error e => ([.saveFailed e.message], d)
  | .shutdown => ([], { d with standing := .closed })

/-- The responses to a request; a desk that is closed or stuck has none. -/
def handle (model : Model σ) (casting : Casting ε) (now : Timestamp) (d : Desk σ ε) (r : Request) :
    List Response × Desk σ ε :=
  match d.standing with
  | .serving => d.serve model casting now r
  | _ => ([], d)

end Desk

end Inquest

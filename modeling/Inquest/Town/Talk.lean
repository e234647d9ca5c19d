import Inquest.Town.Basic

/-! # Talking to the suspects

The detective's words go to the active suspect, whose instructions are brought up to date before. What
keeps the words from being sent, an unknown name or instructions that cannot take the evidence, is told
before any turn begins.

* `send`, `talk`: whole replies, of the active suspect and of a suspect by name.
* `stream`, `streamTo`: the same in chunks.
-/

namespace Inquest

/-- Who carries out the actions of a suspect in a town of the given profiles. -/
abbrev Casting (ε : Type) := Profile → List Profile → Executor ε

/-- A town with the states of the model and of whoever carries out actions. -/
structure Play (σ ε : Type) where
  town : Town
  model : σ
  executor : ε

namespace Play

variable {σ ε : Type}

/-- The conversation with the active suspect. -/
def scene (p : Play σ ε) : Scene σ ε := ⟨p.town.activeSession, p.model, p.executor⟩

/-- The play after a scene with the active suspect. -/
def resume (p : Play σ ε) (s : Scene σ ε) : Play σ ε :=
  ⟨p.town.setActive s.session, s.model, s.executor⟩

/-- Who carries out the actions of the active suspect. -/
def activeExecutor (casting : Casting ε) (p : Play σ ε) : Executor ε :=
  casting p.town.activeSession.profile p.town.profiles

/-- The play with the detective turned to the suspect of a name. -/
def turnTo (p : Play σ ε) (name : String) : Except TownError (Play σ ε) :=
  (p.town.switchTo name).map fun t => { p with town := t }

/-- The play with the active suspect's instructions brought up to date. -/
def update (p : Play σ ε) : Except TownError (Play σ ε) :=
  match p.town.updateInstructions with
  | .ok (_, t) => .ok { p with town := t }
  | .error e => .error (.evidence e)

/-! ## Whole replies -/

/-- The detective's words sent to the active suspect. -/
def send (model : Model σ) (casting : Casting ε) (now : Timestamp) (text : String) (p : Play σ ε) :
    Except TownError Ending × Play σ ε :=
  match p.update with
  | .error e => (.error e, p)
  | .ok p =>
    let (ending, scene) :=
      Session.send model (p.activeExecutor casting) now p.town.detective text p.scene
    (.ok ending, p.resume scene)

/-- The detective's words sent to a suspect by name. -/
def talk (model : Model σ) (casting : Casting ε) (now : Timestamp) (name text : String)
    (p : Play σ ε) : Except TownError Ending × Play σ ε :=
  match p.turnTo name with
  | .error e => (.error e, p)
  | .ok p => p.send model casting now text

/-! ## Streamed replies -/

/-- The detective's words streamed to the active suspect: what is told of the reply, and the play as it
is before the reply is waited for. -/
def stream (model : Model σ) (casting : Casting ε) (now : Timestamp) (text : String) (p : Play σ ε) :
    Except TownError (Told (Play σ ε)) × Play σ ε :=
  match p.update with
  | .error e => (.error e, p)
  | .ok p =>
    let told := Session.stream model (p.activeExecutor casting) now p.town.detective text p.scene
    (.ok (told.map p.resume), p)

/-- The detective's words streamed to a suspect by name. -/
def streamTo (model : Model σ) (casting : Casting ε) (now : Timestamp) (name text : String)
    (p : Play σ ε) : Except TownError (Told (Play σ ε)) × Play σ ε :=
  match p.turnTo name with
  | .error e => (.error e, p)
  | .ok p => p.stream model casting now text

end Play

end Inquest

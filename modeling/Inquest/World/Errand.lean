import Inquest.Executor

/-! # Errands in the game's world

A `Command` is an effect that the game's world must bring about. An `Errand` is a course of action that
posts commands one at a time and goes on by what comes of each, until it ends with a value.

* `run`: an errand in a world that settles its commands.
* `run_andThen`: a world meets the commands of two errands one after the other.
-/

namespace Inquest

/-- An effect that the game's world must bring about, and the suspect for whom. -/
inductive Command
  /-- Walk until next to another. -/
  | moveNextTo (npc target : String)
  /-- Hand an item to the detective. -/
  | giveItem (npc item : String)
  | arrest (npc suspect : String)
  deriving Repr, DecidableEq

/-- What comes of a command: done, or the reason why not. -/
abbrev Settlement := Except ActionError Unit

/-- A course of action that posts commands and ends with a value. -/
inductive Errand (α : Type)
  | done (a : α)
  | post (c : Command) (next : Settlement → Errand α)

namespace Errand

variable {α β ω : Type}

/-- An errand after which another begins. -/
def andThen (e : Errand α) (f : α → Errand β) : Errand β :=
  match e with
  | .done a => f a
  | .post c next => .post c fun s => (next s).andThen f

/-- An errand that posts one command. -/
def submit (c : Command) : Errand Settlement := .post c .done

/-- A world with a state: what comes of a command, or nothing if it is never settled. -/
abbrev World (ω : Type) := ω → Command → Option Settlement × ω

/-- An errand in a world; it has no end if a command is never settled. -/
def run (world : World ω) : Errand α → ω → Option α × ω
  | .done a, w => (some a, w)
  | .post c next, w =>
    match world w c with
    | (some s, w) => (next s).run world w
    | (none, w) => (none, w)

/-- A world meets the commands of the first errand, then those of the second. -/
theorem run_andThen (world : World ω) (e : Errand α) (f : α → Errand β) (w : ω) :
    (e.andThen f).run world w =
      match e.run world w with
      | (some a, w) => (f a).run world w
      | (none, w) => (none, w) := by
  induction e generalizing w with
  | done a => rfl
  | post c next ih =>
    simp only [andThen, run]
    split
    · next s w' _ => exact ih s w'
    · rfl

end Errand

end Inquest

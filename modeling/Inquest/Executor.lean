import Inquest.Action

/-! # Whoever carries out actions

An `Executor` carries out the actions of one suspect and keeps a state of its own. It may fail, panic,
or never finish; a refusal within the game is an invocation that did not succeed.
-/

namespace Inquest

/-- What comes of an action. -/
inductive Outcome
  /-- The record of the action, or the reason why there is none. -/
  | finished (result : Except ActionError Invocation)
  | panicked
  /-- Nothing, however long one waits. -/
  | pending

/-- Whoever carries out actions, with a state of type `ε`. -/
structure Executor (ε : Type) where
  perform : Timestamp → ε → String → Parameters → Outcome × ε

end Inquest

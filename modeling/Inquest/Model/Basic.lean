import Inquest.Model.Event
import Inquest.Model.Request

/-! # Whoever answers requests

A `Model` answers requests, whole or as a stream of events, and keeps a state of its own. An answer may
also never come.
-/

namespace Inquest

/-- What comes of a request. -/
inductive Answer (α : Type)
  /-- An answer, or the reason why there is none. -/
  | came (result : Except ApiError α)
  /-- Nothing, however long one waits. -/
  | never

/-- Whoever answers requests, with a state of type `σ`. -/
structure Model (σ : Type) where
  /-- A request for a whole response. -/
  respond : σ → Request → Answer Response × σ
  /-- A request for a response in events. -/
  stream : σ → Request → Answer (List (Except ApiError Event)) × σ

end Inquest

import Inquest.Proofs.Session.Streaming

/-! # What the requests of a turn have in common

However many rounds a turn takes, only the items of a request and the response that it names change from
one to the next (`Request.standing`).

* `Asking.Recorded`: a model asked so keeps its requests.
* `turn_asks`: a turn asks at least once, and all its requests stand alike.
* `turn_forget`: a turn does not notice that they are kept.
-/

namespace Inquest

/-- A request without the conversation: all that the model is told about a suspect besides. -/
def Request.standing (q : Request) : Request := { q with input := [], previousResponseId := none }

variable {σ ε : Type}

/-- Every request is kept with the state in which it finds the model, the newest first. -/
def Asking.Recorded (ask : Asking (σ × List (σ × Request))) : Prop :=
  ∀ a q, (ask a q).2.2 = (a.1, q) :: a.2

theorem Model.recorded_byResponse (model : Model σ) : model.recorded.byResponse.Recorded := by
  intro a q
  rcases hanswer : model.respond a.1 q with ⟨(_ | _) | _, a'⟩ <;>
    simp only [Model.byResponse, Model.recorded, hanswer]

theorem Model.recorded_byEvents (model : Model σ) : model.recorded.byEvents.Recorded := by
  intro a q
  rcases hanswer : model.stream a.1 q with ⟨(_ | _) | _, a'⟩ <;>
    simp only [Model.byEvents, Model.recorded, hanswer]

namespace Session

theorem standing_request (s : Session) :
    s.request.standing =
      { model := s.settings.model
        instructions := some s.instructions
        input := []
        tools := some s.tools
        effort := some s.settings.effort
        previousResponseId := none
        maxOutputTokens := s.settings.maxOutputTokens
        store := none } := by
  unfold request Request.standing
  cases s.settings.context <;> rfl

/-- What was asked after `before`: at least one request, and all that stand as `standing` does. -/
def Asks (standing : Request) (before after : List (σ × Request)) : Prop :=
  ∃ asked, after = asked ++ before ∧ asked ≠ [] ∧ ∀ x ∈ asked, x.2.standing = standing

theorem Asks.one {a a' : σ × List (σ × Request)} {q : Request} (h : a'.2 = (a.1, q) :: a.2) :
    Asks q.standing a.2 a'.2 :=
  ⟨[(a.1, q)], h, nofun, fun x hx => by rw [List.mem_singleton.1 hx]⟩

theorem Asks.trans {q : Request} {before between after : List (σ × Request)}
    (h : Asks q before between) (h' : Asks q between after) : Asks q before after := by
  obtain ⟨asked, rfl, _, hasked⟩ := h
  obtain ⟨later, rfl, hsome, hlater⟩ := h'
  refine ⟨later ++ asked, (List.append_assoc ..).symm, List.append_ne_nil_of_left_ne_nil hsome _, ?_⟩
  intro x hx
  exact (List.mem_append.1 hx).elim (hlater x) (hasked x)

/-- The rounds of a turn ask alike, whenever one stops listening. -/
theorem rounds_ask {ask : Asking (σ × List (σ × Request))} (hask : ask.Recorded)
    (executor : Executor ε) (now : Timestamp) (left : Nat) (draft : Draft)
    (scene : Scene (σ × List (σ × Request)) ε) :
    (rounds ask executor now left draft scene).Always fun state =>
      Asks scene.session.request.standing scene.model.2 state.model.2 := by
  have hone {s : Session} {a a' : σ × List (σ × Request)} {heard : List Chunk × Option Heard}
      (ha : ask a s.request = (heard, a')) : Asks s.request.standing a.2 a'.2 := by
    have hkept := hask a s.request
    rw [ha] at hkept
    exact .one hkept
  refine rounds_induction (P := fun _ _ scene told => told.Always fun state =>
    Asks scene.session.request.standing scene.model.2 state.model.2)
    ?silent ?failed ?pending ?again ?last left draft scene
  case silent =>
    intro left draft s a e chunks a' ha
    exact Told.always_heard chunks (hone ha) (hone ha)
  case failed =>
    intro left draft s a e chunks a' reason ha
    exact Told.always_heard chunks (hone ha) (hone ha)
  case pending =>
    intro left draft s a e chunks a' r is e' ha hc
    exact Told.always_heard chunks (hone ha) (hone ha)
  case again =>
    intro left draft s a e chunks a' r is e' ha hc hagain scene told ih
    -- neither records nor a commit touch what stands
    have hstanding : scene.session.request.standing = s.request.standing := by
      rw [standing_request, standing_request]
      rfl
    rw [hstanding] at ih
    exact (ih.imp fun _ hlater => (hone ha).trans hlater).prepend chunks is (hone ha) (hone ha)
  case last =>
    intro left draft s a e chunks a' r is e' ha hc hagain committed closing
    have hdone : Told.Always ⟨[(.done closing.1, ⟨closing.2, a', e'⟩)], .replied closing.1,
        ⟨closing.2, a', e'⟩⟩ fun state : Scene (σ × List (σ × Request)) ε =>
          Asks s.request.standing a.2 state.model.2 :=
      Told.always_done closing.1 (hone ha)
    exact hdone.prepend chunks is (hone ha) (hone ha)

/-- **A turn asks at least once, and all its requests stand alike**, whenever one stops listening. -/
theorem turn_asks {ask : Asking (σ × List (σ × Request))} (hask : ask.Recorded)
    (executor : Executor ε) (now : Timestamp) (sender text : String)
    (scene : Scene (σ × List (σ × Request)) ε) :
    (turn ask executor now sender text scene).Always fun state =>
      Asks scene.session.request.standing scene.model.2 state.model.2 := by
  have hstanding : (scene.session.beginTurn now sender text).request.standing =
      scene.session.request.standing := by
    rw [standing_request, standing_request]
    rfl
  rw [← hstanding]
  exact rounds_ask hask ..

end Session

/-! ## Keeping requests changes nothing -/

theorem Told.map_prepend {α β : Type} (f : α → β) (chunks : List (Chunk × α)) (t : Told α) :
    (t.prepend chunks).map f = (t.map f).prepend (chunks.map fun (c, a) => (c, f a)) := by
  simp only [Told.map, Told.prepend, List.map_append]

/-- The scene without the requests that its model keeps. -/
def Scene.forget (scene : Scene (σ × List (σ × Request)) ε) : Scene σ ε :=
  ⟨scene.session, scene.model.1, scene.executor⟩

/-- An asking that keeps its requests is otherwise like another. -/
def Asking.KeepingOf (kept : Asking (σ × List (σ × Request))) (ask : Asking σ) : Prop :=
  ∀ a q, ask a.1 q = ((kept a q).1, (kept a q).2.1)

theorem Model.byResponse_keepingOf (model : Model σ) :
    model.recorded.byResponse.KeepingOf model.byResponse := by
  intro a q
  rcases hanswer : model.respond a.1 q with ⟨(_ | _) | _, a'⟩ <;>
    simp only [Model.byResponse, Model.recorded, hanswer]

theorem Model.byEvents_keepingOf (model : Model σ) :
    model.recorded.byEvents.KeepingOf model.byEvents := by
  intro a q
  rcases hanswer : model.stream a.1 q with ⟨(_ | _) | _, a'⟩ <;>
    simp only [Model.byEvents, Model.recorded, hanswer]

namespace Session

variable {kept : Asking (σ × List (σ × Request))} {ask : Asking σ}

theorem rounds_forget (hkept : kept.KeepingOf ask) (executor : Executor ε) (now : Timestamp)
    (left : Nat) (draft : Draft) (scene : Scene (σ × List (σ × Request)) ε) :
    rounds ask executor now left draft scene.forget =
      (rounds kept executor now left draft scene).map Scene.forget := by
  have hask {a a' : σ × List (σ × Request)} {q : Request} {heard : List Chunk × Option Heard}
      (ha : kept a q = (heard, a')) : ask a.1 q = (heard, a'.1) := by
    rw [hkept a q, ha]
  -- the plain model gives the same answers, so the loops branch alike
  refine rounds_induction (P := fun left draft scene told =>
    rounds ask executor now left draft scene.forget = told.map Scene.forget)
    ?silent ?failed ?pending ?again ?last left draft scene
  case silent =>
    intro left draft s a e chunks a' ha
    rw [Scene.forget, rounds_silent (hask ha), Told.map, List.map_map]
    rfl
  case failed =>
    intro left draft s a e chunks a' reason ha
    rw [Scene.forget, rounds_failed (hask ha), Told.map, List.map_map]
    rfl
  case pending =>
    intro left draft s a e chunks a' r is e' ha hc
    rw [Scene.forget, rounds_pending (hask ha) hc, Told.map, List.map_map]
    rfl
  case again =>
    intro left draft s a e chunks a' r is e' ha hc hagain scene told ih
    rw [Told.map_prepend, ← ih, Scene.forget, rounds_again (hask ha) hc hagain]
    simp only [List.map_append, List.map_map]
    rfl
  case last =>
    intro left draft s a e chunks a' r is e' ha hc hagain committed closing
    rw [Scene.forget, rounds_last (hask ha) hc hagain, Told.map]
    simp only [List.map_append, List.map_map]
    rfl

/-- **A turn does not notice that its requests are kept.** -/
theorem turn_forget (hkept : kept.KeepingOf ask) (executor : Executor ε) (now : Timestamp)
    (sender text : String) (scene : Scene (σ × List (σ × Request)) ε) :
    turn ask executor now sender text scene.forget =
      (turn kept executor now sender text scene).map Scene.forget :=
  rounds_forget hkept executor now scene.session.settings.maxToolRounds
    (.start sender scene.session.settings.maxToolRounds)
    { scene with session := scene.session.beginTurn now sender text }

end Session

end Inquest

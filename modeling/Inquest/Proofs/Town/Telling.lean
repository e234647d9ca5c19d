import Inquest.Proofs.Session.Requests
import Inquest.Proofs.Town.Isolation

/-! # What the model is told of the evidence

Words to the active suspect reach the model with the instructions that hold the evidence as it is then.

* `asks_speak`: all requests that the words lead to stand as the informed session's do.
* `tells_speak`: the instructions in these requests, and those that are left with the suspect.
* `forget_perform`: an operation does not notice that its requests are kept.
-/

namespace Inquest

variable {σ ε : Type} (model : Model σ)

/-! ## Messages -/

/-- Only a streamed reply that is dropped unheard leaves the model unasked. -/
theorem Session.asks_deliver (executor : Executor ε) (m : Message)
    (scene : Scene (σ × List (σ × Request)) ε) :
    (m.chunks = some 0 ∧ (m.deliver model.recorded executor scene).2 = scene) ∨
      (m.chunks ≠ some 0 ∧ Asks scene.session.request.standing scene.model.2
        (m.deliver model.recorded executor scene).2.model.2) := by
  obtain ⟨now, sender, text, _ | _ | k⟩ := m
  · refine .inr ⟨nofun, ?_⟩
    simp only [Message.deliver, send_eq]
    exact (turn_asks model.recorded_byResponse executor now sender text scene).1
  · exact .inl ⟨rfl, rfl⟩
  · refine .inr ⟨by simp, ?_⟩
    simp only [Message.deliver, stream_eq]
    exact (turn_asks model.recorded_byEvents executor now sender text scene).upTo k

theorem Session.forget_deliver (executor : Executor ε) (m : Message)
    (scene : Scene (σ × List (σ × Request)) ε) :
    (m.deliver model executor scene.forget).2 =
      (m.deliver model.recorded executor scene).2.forget := by
  obtain ⟨now, sender, text, _ | _ | k⟩ := m
  · simp only [Message.deliver, send_eq, turn_forget model.byResponse_keepingOf]
    rfl
  · rfl
  · simp only [Message.deliver, stream_eq, turn_forget model.byEvents_keepingOf, Told.upTo_map]

namespace Play

variable (casting : Casting ε)

/-! ## Words -/

section
variable (p : Play (σ × List (σ × Request)) ε) (w : Words)

/-- Words are not sent where the evidence cannot be told. -/
theorem speak_unclosed
    (hopen : Evidence.splitSection p.town.activeSession.instructions.toList = .unclosed) :
    p.speak model.recorded casting w = p := by
  rw [speak_eq, Session.informed_eq, if_pos hopen]

theorem asks_speak
    (hopen : Evidence.splitSection p.town.activeSession.instructions.toList ≠ .unclosed) :
    let s := p.town.activeSession
    let asked := (p.speak model.recorded casting w).model.2
    (w.chunks = some 0 ∧ asked = p.model.2) ∨
      (w.chunks ≠ some 0 ∧ Session.Asks
        { s with instructions := Evidence.revised p.town.evidence s.instructions }.request.standing
        p.model.2 asked) := by
  intro s asked
  have hspeak : asked = ((w.by p.town.detective).deliver model.recorded (p.activeExecutor casting)
      ⟨{ s with instructions := Evidence.revised p.town.evidence s.instructions },
        p.model, p.executor⟩).2.model.2 := by
    rw [show asked = (p.speak model.recorded casting w).model.2 from rfl, speak_eq,
      Session.informed_eq, if_neg hopen]
    rfl
  rw [hspeak]
  refine (Session.asks_deliver model _ (w.by p.town.detective) _).imp ?_ id
  rintro ⟨hunheard, hscene⟩
  exact ⟨hunheard, by rw [hscene]⟩

end

/-- **Words to the active suspect have the model told the evidence as it is then**, and leave the
suspect with that. The model is told nothing only where the evidence cannot be put into the
instructions, or where nobody listens. -/
theorem tells_speak (t : Town) (a : σ) (e : ε) (w : Words) :
    let after := (Play.mk t (a, []) e).speak model.recorded casting w
    let told := Evidence.revised t.evidence t.activeSession.instructions
    (∀ asked ∈ after.model.2, asked.2.instructions = some told) ∧
      (after.model.2 = [] ↔
        Evidence.splitSection t.activeSession.instructions.toList = .unclosed ∨
          w.chunks = some 0) ∧
      after.town.sessions[t.active]?.map Session.instructions = some told := by
  intro after told
  have hleft : after.town.sessions[t.active]?.map Session.instructions = some told := by
    have htown := town_speak model.recorded casting ⟨t, (a, []), e⟩ w
    refine (congrArg (fun t' : Town => t'.sessions[t.active]?.map Session.instructions) htown).trans ?_
    rw [t.activeSession_undergo, Option.map_some, Session.instructions_undergo]
  have hunasked (hnone : after.model.2 = []) :
      ∀ asked ∈ after.model.2, asked.2.instructions = some told := by
    intro asked hasked
    rw [hnone] at hasked
    exact absurd hasked List.not_mem_nil
  -- the model is not asked at all, or it is asked with what stands throughout the turn
  by_cases hopen : Evidence.splitSection t.activeSession.instructions.toList = .unclosed
  · have hnone : after.model.2 = [] := congrArg (fun p : Play _ ε => p.model.2)
      (speak_unclosed model casting ⟨t, (a, []), e⟩ w hopen)
    exact ⟨hunasked hnone, iff_of_true hnone (.inl hopen), hleft⟩
  · rcases asks_speak model casting ⟨t, (a, []), e⟩ w hopen with
      ⟨hunheard, hnone⟩ | ⟨hheard, all, hall, hsome, hstanding⟩
    · exact ⟨hunasked hnone, iff_of_true hnone (.inr hunheard), hleft⟩
    · have hafter : after.model.2 = all := hall.trans (List.append_nil all)
      refine ⟨fun asked hasked => ?_, iff_of_false (hafter ▸ hsome) ?_, hleft⟩
      · rw [hafter] at hasked
        have hsame := congrArg Request.instructions (hstanding asked hasked)
        rwa [Session.standing_request] at hsame
      · exact fun h => h.elim hopen hheard

/-! ## Operations -/

/-- The play without the requests that its model keeps. -/
def forget (p : Play (σ × List (σ × Request)) ε) : Play σ ε := ⟨p.town, p.model.1, p.executor⟩

theorem forget_speak (p : Play (σ × List (σ × Request)) ε) (w : Words) :
    p.forget.speak model casting w = (p.speak model.recorded casting w).forget := by
  have htown : p.forget.town = p.town := rfl
  simp only [speak_eq, htown]
  cases p.town.activeSession.informed p.town.evidence with
  | error e => rfl
  | ok s =>
    have hdelivered := Session.forget_deliver model (p.activeExecutor casting)
      (w.by p.town.detective) ⟨s, p.model, p.executor⟩
    exact congrArg p.forget.resume hdelivered

/-- **An operation does not notice that its requests are kept.** -/
theorem forget_perform (p : Play (σ × List (σ × Request)) ε) (o : Operation) :
    p.forget.perform model casting o = (p.perform model.recorded casting o).forget := by
  have htown : p.forget.town = p.town := rfl
  cases o with
  | equip inventory => rfl
  | turnTo name =>
    simp only [perform, htown]
    cases p.town.switchTo name <;> rfl
  | turnToIndex index =>
    simp only [perform, htown]
    cases p.town.switchToIndex index <;> rfl
  | update =>
    simp only [perform, htown]
    cases p.town.updateInstructions <;> rfl
  | speak w => exact forget_speak model casting p w
  | address name w =>
    simp only [perform, address_eq, htown]
    cases p.town.switchTo name with
    | error e => rfl
    | ok t => exact forget_speak model casting { p with town := t } w

end Play

end Inquest

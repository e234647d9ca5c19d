import Inquest.Proofs.Evidence
import Inquest.Proofs.Town.Sound

/-! # What talking to a suspect comes to

Before the detective's words are sent, the active suspect is told the evidence (`Session.informed`);
what follows is a turn of that session alone, put back in its place.

* `informed_eq`: the session with its instructions revised, or the error of a section never closed.
* `Play.send_eq`, `Play.stream_eq`: a turn of the informed session, or nothing at all.
-/

namespace Inquest

/-- The session with the evidence told in its instructions. -/
def Session.informed (items : List Evidence) (s : Session) : Except Evidence.InjectError Session :=
  (Evidence.inject s.instructions items).map fun text =>
    { s with instructions := text.getD s.instructions }

theorem Session.informed_eq (items : List Evidence) (s : Session) :
    s.informed items =
      if Evidence.splitSection s.instructions.toList = .unclosed then .error .unclosedMarker
      else .ok { s with instructions := Evidence.revised items s.instructions } := by
  rw [informed, Evidence.inject_eq]
  split
  · rfl
  · split
    · next hsame =>
      rw [hsame]
      rfl
    · rfl

namespace Town

theorem setActive_activeSession (t : Town) : t.setActive t.activeSession = t := by
  have hsessions : t.sessions.set t.active t.activeSession = t.sessions := List.set_getElem_self _
  cases t
  simp only [setActive, mk.injEq, and_true]
  exact hsessions

theorem setActive_setActive (t : Town) (s s' : Session) :
    (t.setActive s).setActive s' = t.setActive s' := by
  simp only [setActive, List.set_set]

/-- The active session is informed, and told whether that changed its instructions. -/
theorem updateInstructions_eq (t : Town) :
    t.updateInstructions = (t.activeSession.informed t.evidence).map fun s =>
      (s.instructions != t.activeSession.instructions, t.setActive s) := by
  rw [updateInstructions, Session.informed_eq, Evidence.inject_eq]
  by_cases hopen : Evidence.splitSection t.activeSession.instructions.toList = .unclosed
  · simp only [if_pos hopen, Except.map]
  · by_cases hsame :
      Evidence.revised t.evidence t.activeSession.instructions = t.activeSession.instructions
    · simp only [if_neg hopen, hsame, Except.map, bne_self_eq_false]
      exact congrArg (fun u => Except.ok (false, u)) t.setActive_activeSession.symm
    · simp only [if_neg hopen, if_neg hsame, Except.map, bne_iff_ne.2 hsame]

end Town

namespace Play

variable {σ ε : Type} (model : Model σ) (casting : Casting ε) (now : Timestamp) (text : String)
  (p : Play σ ε)

theorem update_eq :
    p.update =
      match p.town.activeSession.informed p.town.evidence with
      | .error e => .error (.evidence e)
      | .ok s => .ok { p with town := p.town.setActive s } := by
  rw [update, Town.updateInstructions_eq]
  cases p.town.activeSession.informed p.town.evidence <;> rfl

/-- An informed session is the same suspect's. -/
theorem activeExecutor_informed {s : Session}
    (h : p.town.activeSession.informed p.town.evidence = .ok s) :
    activeExecutor casting { p with town := p.town.setActive s } = p.activeExecutor casting := by
  have hprofile : s.profile = p.town.activeSession.profile := by
    rw [Session.informed_eq] at h
    split at h <;> cases h
    rfl
  rw [activeExecutor, activeExecutor, Town.activeSession_setActive, hprofile,
    Town.profiles_setActive hprofile]

theorem scene_setActive (s : Session) :
    scene { p with town := p.town.setActive s } = ⟨s, p.model, p.executor⟩ := by
  rw [scene, Town.activeSession_setActive]

theorem resume_setActive (s : Session) :
    resume { p with town := p.town.setActive s } = p.resume := by
  funext scene
  rw [resume, resume, Town.setActive_setActive]

/-- **Words sent to the active suspect are a turn of the informed session.** -/
theorem send_eq :
    p.send model casting now text =
      match p.town.activeSession.informed p.town.evidence with
      | .error e => (.error (.evidence e), p)
      | .ok s =>
        let turn := Session.send model (p.activeExecutor casting) now p.town.detective text
          ⟨s, p.model, p.executor⟩
        (.ok turn.1, p.resume turn.2) := by
  rw [send, update_eq]
  cases h : p.town.activeSession.informed p.town.evidence with
  | error e => rfl
  | ok s =>
    simp only [activeExecutor_informed casting p h, scene_setActive, resume_setActive]
    rfl

/-- **Words streamed to the active suspect are a turn of the informed session.** -/
theorem stream_eq :
    p.stream model casting now text =
      match p.town.activeSession.informed p.town.evidence with
      | .error e => (.error (.evidence e), p)
      | .ok s =>
        (.ok ((Session.stream model (p.activeExecutor casting) now p.town.detective text
          ⟨s, p.model, p.executor⟩).map p.resume), { p with town := p.town.setActive s }) := by
  rw [stream, update_eq]
  cases h : p.town.activeSession.informed p.town.evidence with
  | error e => rfl
  | ok s =>
    simp only [activeExecutor_informed casting p h, scene_setActive, resume_setActive]
    rfl

end Play

end Inquest

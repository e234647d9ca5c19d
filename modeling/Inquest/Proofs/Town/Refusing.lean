import Inquest.Proofs.Evidence.Injecting
import Inquest.Proofs.Session.Contained
import Inquest.Proofs.Town.Isolation

/-! # What a refused operation leaves behind

An operation is refused before any turn begins: where nobody has the name, where there is no such place,
and where the instructions of the suspect who is addressed cannot take the evidence.

* `refusal`: the error that comes of an operation, streamed or not.
* `refused`: the four ways in which an operation may go, and what each leaves behind.
* `refused_changes_nothing`: at most the detective has turned to the suspect who was named, and neither
  the model nor whoever carries out actions was asked for anything.
-/

namespace Inquest

/-- The error, if that is what there is. -/
def errorOf {α : Type} : Except TownError α → Option TownError
  | .ok _ => none
  | .error e => some e

/-- The place of the suspect who is told the evidence in an operation. -/
def Bearing.heard? (b : Bearing) : Operation → Option Nat
  | .update | .speak _ => some b.active
  | .address name _ => b.place? name
  | .equip _ | .turnTo _ | .turnToIndex _ => none

/-- Those who carry out actions, keeping what they are asked for. -/
def Casting.observed {ε : Type} (casting : Casting ε) : Casting (ε × List Attempt) :=
  fun profile suspects => (casting profile suspects).observed

namespace Play

variable {σ ε : Type} (model : Model σ) (casting : Casting ε)

/-- The error that an operation is refused with. -/
def refusal (p : Play σ ε) : Operation → Option TownError
  | .equip _ => none
  | .turnTo name => errorOf (p.turnTo name)
  | .turnToIndex index => errorOf (p.town.switchToIndex index)
  | .update => errorOf p.update
  | .speak w =>
    match w.chunks with
    | none => errorOf (p.send model casting w.now w.text).1
    | some _ => errorOf (p.stream model casting w.now w.text).1
  | .address name w =>
    match w.chunks with
    | none => errorOf (p.talk model casting w.now name w.text).1
    | some _ => errorOf (p.streamTo model casting w.now name w.text).1

/-- The play is as it was but for whom the detective is talking to. -/
structure Spared (p after : Play σ ε) : Prop where
  sessions : after.town.sessions = p.town.sessions
  culprit : after.town.culprit = p.town.culprit
  detective : after.town.detective = p.town.detective
  inventory : after.town.inventory = p.town.inventory
  model : after.model = p.model
  executor : after.executor = p.executor

/-- How an operation goes: what it is refused with, and the play after it. -/
inductive Refused (p : Play σ ε) (o : Operation) : Option TownError → Play σ ε → Prop
  | unknown (name : String) : p.town.bearing.heard? o = none →
    Refused p o (some (.unknownNpc name)) p
  | outOfRange (index size : Nat) : p.town.bearing.heard? o = none →
    Refused p o (some (.indexOutOfRange index size)) p
  | unclosed {after : Play σ ε} {s : Session} :
    p.town.bearing.heard? o = some after.town.active →
    p.town.sessions[after.town.active]? = some s →
    Evidence.splitSection s.instructions.toList = .unclosed → p.Spared after →
    Refused p o (some (.evidence .unclosedMarker)) after
  | accepted {after : Play σ ε} :
    (∀ i s, p.town.bearing.heard? o = some i → p.town.sessions[i]? = some s →
      Evidence.splitSection s.instructions.toList ≠ .unclosed) →
    Refused p o none after

theorem refusal_speak (p : Play σ ε) (w : Words) :
    p.refusal model casting (.speak w) = errorOf p.update := by
  rw [update_eq]
  obtain ⟨now, text, _ | k⟩ := w
  · simp only [refusal, send_eq]
    cases p.town.activeSession.informed p.town.evidence <;> rfl
  · simp only [refusal, stream_eq]
    cases p.town.activeSession.informed p.town.evidence <;> rfl

theorem refusal_address (p : Play σ ε) (name : String) (w : Words) :
    p.refusal model casting (.address name w) =
      match p.town.switchTo name with
      | .error e => some e
      | .ok t => errorOf (update { p with town := t }) := by
  obtain ⟨now, text, _ | k⟩ := w
  · simp only [refusal, talk, turnTo]
    cases p.town.switchTo name with
    | error e => rfl
    | ok t => exact refusal_speak model casting { p with town := t } ⟨now, text, none⟩
  · simp only [refusal, streamTo, turnTo]
    cases p.town.switchTo name with
    | error e => rfl
    | ok t => exact refusal_speak model casting { p with town := t } ⟨now, text, some k⟩

theorem Spared.refl (p : Play σ ε) : p.Spared p := ⟨rfl, rfl, rfl, rfl, rfl, rfl⟩

theorem Spared.of_turned {p : Play σ ε} {b : Bearing} {t : Town} (h : p.town.Turned b t)
    (hdetective : b.detective = p.town.detective) (hinventory : b.inventory = p.town.inventory) :
    p.Spared { p with town := t } where
  sessions := h.sessions
  culprit := h.culprit
  detective := (congrArg Bearing.detective h.bearing).trans hdetective
  inventory := (congrArg Bearing.inventory h.bearing).trans hinventory
  model := rfl
  executor := rfl

/-- What the active suspect is to hear, once the detective has turned, is refused just where the
evidence cannot be told. -/
theorem refused_update {p turned after : Play σ ε} {o : Operation} (hspared : p.Spared turned)
    (hheard : p.town.bearing.heard? o = some turned.town.active)
    (hafter : Evidence.splitSection turned.town.activeSession.instructions.toList = .unclosed →
      after = turned) :
    p.Refused o (errorOf turned.update) after := by
  have hactive : p.town.sessions[turned.town.active]? = some turned.town.activeSession := by
    rw [← hspared.sessions]
    exact List.getElem?_eq_getElem turned.town.active_lt
  rw [update_eq, Session.informed_eq]
  by_cases hopen : Evidence.splitSection turned.town.activeSession.instructions.toList = .unclosed
  · obtain rfl := hafter hopen
    rw [if_pos hopen]
    exact .unclosed hheard hactive hopen hspared
  · rw [if_neg hopen]
    refine .accepted fun i s hi hs => ?_
    cases hheard.symm.trans hi
    cases hactive.symm.trans hs
    exact hopen

/-- An operation in which nobody is told the evidence is not refused for it. -/
theorem Refused.of_unheard {p after : Play σ ε} {o : Operation}
    (h : p.town.bearing.heard? o = none) : p.Refused o none after := by
  refine .accepted fun i s hi => ?_
  rw [h] at hi
  cases hi

theorem speak_of_unclosed {p : Play σ ε} (w : Words)
    (hopen : Evidence.splitSection p.town.activeSession.instructions.toList = .unclosed) :
    p.speak model casting w = p := by
  rw [speak_eq, Session.informed_eq, if_pos hopen]

/-- **An operation goes in one of four ways.** -/
theorem refused (p : Play σ ε) (o : Operation) :
    p.Refused o (p.refusal model casting o) (p.perform model casting o) := by
  -- by the operation: turning fails on a name or a number, and everything that takes up the
  -- instructions fails on a section that is not closed
  cases o with
  | equip inventory => exact .of_unheard rfl
  | turnTo name =>
    simp only [refusal, turnTo, perform]
    cases hswitch : p.town.switchTo name with
    | error e =>
      obtain ⟨-, hunknown⟩ | ⟨i, t, -, hfound, -⟩ := p.town.switchTo_cases name
      · cases hswitch.symm.trans hunknown
        exact .unknown name rfl
      · cases hswitch.symm.trans hfound
    | ok t => exact .of_unheard rfl
  | turnToIndex index =>
    simp only [refusal, perform, Town.switchToIndex]
    split
    · exact .of_unheard rfl
    · exact .outOfRange _ _ rfl
  | update =>
    refine refused_update (.refl p) rfl fun hopen => ?_
    simp only [perform, Town.updateInstructions_eq, Session.informed_eq, if_pos hopen, Except.map]
  | speak w =>
    rw [refusal_speak]
    exact refused_update (.refl p) rfl fun hopen => speak_of_unclosed model casting w hopen
  | address name w =>
    simp only [refusal_address, perform, address_eq]
    obtain ⟨hnone, hunknown⟩ | ⟨i, t, hplace, hfound, hturned⟩ := p.town.switchTo_cases name
    · rw [hunknown]
      exact .unknown name hnone
    · have hactive : p.town.bearing.heard? (.address name w) = some t.active := by
        have hturn := congrArg Bearing.active hturned.bearing
        rw [Bearing.turn, hplace] at hturn
        exact hplace.trans (congrArg some hturn.symm)
      rw [hfound]
      exact refused_update (.of_turned hturned rfl rfl) hactive fun hopen =>
        speak_of_unclosed model casting w hopen

/-- **A refused operation changes nothing that it should not.** Where nobody has the name, or there is
no such place, nothing changes at all. Where the evidence cannot be told, at most the detective has
turned to the suspect who was named, and no session has changed. In each case the model and those who
carry out actions were asked for nothing. Words are refused for the evidence just where there is the
suspect whom they address and no closing marker follows the opening marker of the suspect's
instructions, the first there is, whatever evidence is at hand. -/
theorem refused_changes_nothing (p : Play (σ × List (σ × Request)) (ε × List Attempt))
    (o : Operation) :
    let refusal := p.refusal model.recorded casting.observed o
    let after := p.perform model.recorded casting.observed o
    (∀ name, refusal = some (.unknownNpc name) → after = p) ∧
    (∀ index size, refusal = some (.indexOutOfRange index size) → after = p) ∧
    (refusal = some (.evidence .unclosedMarker) →
      p.Spared after ∧ p.town.bearing.heard? o = some after.town.active) ∧
    (refusal = some (.evidence .unclosedMarker) ↔
      ∃ i s, p.town.bearing.heard? o = some i ∧ p.town.sessions[i]? = some s ∧
        ∃ before rest, Text.FirstAt Evidence.openMarker s.instructions.toList before rest ∧
          ¬ Evidence.closeMarker <:+: rest) := by
  intro refusal after
  have hrefused : p.Refused o refusal after := p.refused model.recorded casting.observed o
  simp only [← Evidence.splitSection_eq_unclosed_iff]
  clear_value refusal after
  cases hrefused with
  | unknown name hnone => simp [hnone]
  | outOfRange index size hnone => simp [hnone]
  | unclosed hheard hsession hopen hspared =>
    exact ⟨nofun, nofun, fun _ => ⟨hspared, hheard⟩,
      iff_of_true rfl ⟨_, _, hheard, hsession, hopen⟩⟩
  | accepted hclosed =>
    refine ⟨nofun, nofun, nofun, iff_of_false nofun ?_⟩
    rintro ⟨i, s, hheard, hsession, hopen⟩
    exact hclosed i s hheard hsession hopen

/-- A town of two, the first of whom has instructions with a section that is closed before it is
opened. -/
def halfOpen : Town where
  sessions :=
    [.new (.new "Rosa" "cook" "a knife") "[END COLLECTED EVIDENCE] Hide it. [COLLECTED EVIDENCE]"
        .default,
      .new (.new "Bo" "guard" "a key") "[COLLECTED EVIDENCE][END COLLECTED EVIDENCE]" .default]
  active := 1
  culprit := 0
  detective := "Ann"
  inventory := some (.fixed [⟨"rope", "wet"⟩])
  active_lt := by decide
  culprit_lt := by decide

/-- The three refusals: of a name, of a place, and of words streamed to the first suspect, to whom the
detective turns all the same. -/
theorem refused_changes_nothing_halfOpen :
    let casting : Casting Unit := fun _ _ => ⟨fun _ e _ _ => (.panicked, e)⟩
    let p : Play (Nat × List (Nat × Request)) (Unit × List Attempt) :=
      ⟨halfOpen, (0, []), ((), [])⟩
    let after (o : Operation) := p.perform Session.counting.recorded casting.observed o
    let streamed : Operation := .address "Rosa" ⟨default, "Hello.", some 1⟩
    after (.address "Hans" ⟨default, "Hello.", none⟩) = p ∧ after (.turnToIndex 2) = p ∧
      p.Spared (after streamed) ∧ (after streamed).town.active = 0 ∧ p.town.active = 1 := by
  intro casting p after streamed
  have hspared := (refused_changes_nothing Session.counting casting p streamed).2.2.1
    (by decide +kernel)
  exact ⟨(refused_changes_nothing Session.counting casting p _).1 "Hans" (by decide +kernel),
    (refused_changes_nothing Session.counting casting p _).2.1 2 2 (by decide +kernel),
    hspared.1, (Option.some.inj hspared.2).symm, rfl⟩

end Play

end Inquest

import Inquest.Proofs.Save.RoundTrip
import Inquest.Proofs.Town.Telling

/-! # What a restored town forgets

A save keeps the instructions with the evidence that a suspect was told last, but not the inventory. A
restored town has none until one is given to it, and that counts as no evidence: the first words to a
suspect empty the section.

* `restored_evidence_emptied`: what becomes of the evidence in a restored town, and when nothing is
  lost.
* `rope_forgotten`: somebody who was told of a rope is told of nothing.
-/

namespace Inquest

/-- Words to somebody by name go to them, whomever the detective was talking to. -/
theorem Town.Sound.talk_name {t : Town} (h : t.Sound) {i : Nat} (hi : i < t.sessions.length)
    {σ ε : Type} (model : Model σ) (casting : Casting ε) (now : Timestamp) (text : String) (a : σ)
    (e : ε) :
    (Play.mk t a e).talk model casting now t.sessions[i].name text =
      (Play.mk { t with active := i, active_lt := hi } a e).send model casting now text := by
  rw [Play.talk, Play.turnTo, h.switchTo_name hi]
  rfl

namespace SavedTown

/-- **What becomes of the evidence in a restored town.** The save of a town is restored, and the first
words to a suspect there have the model told the saved instructions with the evidence section, if there
is one, emptied; so they are left. Only a section that is never closed keeps the words from the model.
The suspect is told the saved instructions just where the section held no evidence anyway. -/
theorem restored_evidence_emptied {profiles : List Profile} {prompts : PromptStore}
    {policy : CulpritPolicy} {settings : Settings} {t₀ t : Town}
    (hstart : Town.start profiles prompts policy settings = .ok t₀) (hrun : t₀.Run t)
    (now : Timestamp) (settings' : Settings) :
    ∃ t', restore settings' (capture now t) = .ok t' ∧
      ∀ {σ ε : Type} (model : Model σ) (casting : Casting ε) (later : Timestamp) (text : String)
          (a : σ) (e : ε) (i : Nat) (s : Session), t.sessions[i]? = some s →
        let after := ((Play.mk t' (a, []) e).talk model.recorded casting later s.name text).2
        let emptied := Evidence.revised [] s.instructions
        (∀ asked ∈ after.model.2, asked.2.instructions = some emptied) ∧
          (after.model.2 = [] ↔ Evidence.splitSection s.instructions.toList = .unclosed) ∧
          after.town.sessions[i]?.map Session.instructions = some emptied ∧
          (emptied = s.instructions ↔
            ∀ before body rest,
              Evidence.splitSection s.instructions.toList = .found before body rest →
                body = Evidence.bodyChars []) := by
  have hsound : t.Sound := (Town.sound_start hstart).run hrun
  refine ⟨t.resumed settings', restore_capture hsound now settings', ?_⟩
  intro σ ε model casting later text a e i s hs after emptied
  obtain ⟨hi, rfl⟩ := List.getElem?_eq_some_iff.1 hs
  have hi' : i < (t.resumed settings').sessions.length := by
    rw [Town.resumed, List.length_map]
    exact hi
  have hsession : (t.resumed settings').sessions[i] =
      (SavedSuspect.ofSession t.sessions[i]).session settings' := List.getElem_map _
  have hname : (t.resumed settings').sessions[i].name = t.sessions[i].name :=
    (congrArg Session.name hsession).trans rfl
  have hinstructions : (t.resumed settings').sessions[i].instructions = t.sessions[i].instructions :=
    (congrArg Session.instructions hsession).trans rfl
  have htalk := (hsound.resumed settings').talk_name hi' model.recorded casting later text (a, []) e
  -- the saved name leads to the same place in the restored town, where there is no inventory
  rw [hname] at htalk
  obtain ⟨hasked, hunasked, hleft⟩ := Play.tells_speak model casting
    { t.resumed settings' with active := i, active_lt := hi' } a e ⟨later, text, none⟩
  rw [Play.speak, ← htalk] at hasked hunasked hleft
  simp only [reduceCtorEq, or_false] at hunasked
  have hemptied : Evidence.revised [] (t.resumed settings').sessions[i].instructions = emptied := by
    rw [hinstructions]
  refine ⟨fun asked h => (hasked asked h).trans (congrArg some hemptied), ?_,
    hleft.trans (congrArg some hemptied), Evidence.revised_eq_self_iff⟩
  rw [← hinstructions]
  exact hunasked

/-! ## A rope -/

/-- A town of one suspect, who can be told of evidence. -/
def kitchen : Except TownError Town :=
  Town.start [.new "Rosa" "cook" "a knife"]
    ⟨[⟨"cook", true, "[COLLECTED EVIDENCE][END COLLECTED EVIDENCE]"⟩], "", ""⟩ (.named "Rosa")
    .default

/-- The town at its start. -/
def kitchenBefore : Town := kitchen.toOption.get (by decide +kernel)

theorem kitchen_eq : kitchen = .ok kitchenBefore := eq_ok_get _

/-- Never carries out an action. -/
def idle : Casting Unit := fun _ _ => ⟨fun _ e _ _ => (.panicked, e)⟩

/-- The town after a rope was found and the cook was asked. -/
def ropeTold (t : Town) : Town :=
  ((Play.mk { t with inventory := some (.fixed [⟨"rope", "wet"⟩]) } 0 ()).talk Session.counting idle
    default "Rosa" "Hello.").2.town

theorem run_ropeTold (t : Town) : t.Run (ropeTold t) := by
  have hidle : ∀ p ps, (idle p ps).Orderly := by
    intro _ _ now e name p i e' hp hi
    cases hi
  have htold : Town.Step { t with inventory := some (.fixed [⟨"rope", "wet"⟩]) } (ropeTold t) :=
    .talked Session.counting idle default "Rosa" "Hello." 0 () hidle
  exact .tail (.single (.equipped _)) htold

theorem session_ropeTold :
    (ropeTold kitchenBefore).sessions[0]?.map (fun s => (s.name, s.instructions)) =
      some ("Rosa", "[COLLECTED EVIDENCE]\n- rope: wet\n[END COLLECTED EVIDENCE]") := by
  decide +kernel

/-- The rope is gone from what the model is told. -/
theorem restored_evidence_emptied_of_rope :
    ∃ t', restore .default (capture default (ropeTold kitchenBefore)) = .ok t' ∧
      let after :=
        ((Play.mk t' (0, []) ()).talk Session.counting.recorded idle default "Rosa" "Well?").2
      after.model.2 ≠ [] ∧ ∀ asked ∈ after.model.2,
        asked.2.instructions = some "[COLLECTED EVIDENCE]\n- (none)\n[END COLLECTED EVIDENCE]" := by
  obtain ⟨s, hs, hrosa⟩ := Option.map_eq_some_iff.1 session_ropeTold
  have hname : s.name = "Rosa" := congrArg Prod.fst hrosa
  have hinstructions : s.instructions =
      "[COLLECTED EVIDENCE]\n- rope: wet\n[END COLLECTED EVIDENCE]" := congrArg Prod.snd hrosa
  obtain ⟨t', hrestored, htalk⟩ :=
    restored_evidence_emptied kitchen_eq (run_ropeTold _) default .default
  obtain ⟨hasked, hunasked, _⟩ := htalk Session.counting idle default "Well?" 0 () 0 s hs
  rw [hname, hinstructions] at hasked hunasked
  refine ⟨t', hrestored, fun hnone => ?_, fun asked h => (hasked asked h).trans ?_⟩
  · exact absurd (hunasked.1 hnone) (by decide +kernel)
  · decide +kernel

/-- **A restored town need not keep the evidence that a suspect was told last.** -/
theorem rope_forgotten :
    kitchen = .ok kitchenBefore ∧ kitchenBefore.Run (ropeTold kitchenBefore) ∧
      (ropeTold kitchenBefore).sessions[0]?.map (fun s => (s.name, s.instructions)) =
        some ("Rosa", "[COLLECTED EVIDENCE]\n- rope: wet\n[END COLLECTED EVIDENCE]") ∧
      ∃ t', restore .default (capture default (ropeTold kitchenBefore)) = .ok t' ∧
        let after :=
          ((Play.mk t' (0, []) ()).talk Session.counting.recorded idle default "Rosa" "Well?").2
        after.model.2.map (fun asked => asked.2.instructions) =
            [some "[COLLECTED EVIDENCE]\n- (none)\n[END COLLECTED EVIDENCE]"] ∧
          after.town.sessions[0]?.map Session.instructions =
            some "[COLLECTED EVIDENCE]\n- (none)\n[END COLLECTED EVIDENCE]" := by
  have hsound : (ropeTold kitchenBefore).Sound :=
    (Town.sound_start kitchen_eq).run (run_ropeTold _)
  refine ⟨kitchen_eq, run_ropeTold _, session_ropeTold, (ropeTold kitchenBefore).resumed .default,
    restore_capture hsound default .default, ?_⟩
  decide +kernel

end SavedTown

end Inquest

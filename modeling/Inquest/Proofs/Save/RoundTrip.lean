import Inquest.Proofs.Save.Records
import Inquest.Proofs.Save.Restoring

/-! # A save loses nothing that it holds

A town that came from `Town.start` is sound after every run, so its save is read as it was written
(`SavedTown.ofText_text`) and is restored (`SavedTown.restore_capture`).

* `save_loses_nothing`: both, and what the restored town is like.
-/

namespace Inquest.SavedTown

/-- The arguments in the save of a sound town are sorted. -/
theorem sorted_capture {t : Town} (h : t.Sound) (now : Timestamp) : (capture now t).Sorted := by
  intro suspect hs
  obtain ⟨s, hmem, rfl⟩ := List.mem_map.1 hs
  exact h.sorted s hmem

/-- **A save loses nothing that it holds.** The text of the save of a town is read as that save, as
long as its doubles and times can be written without loss; it is restored with the same detective,
culprit and active suspect, and with the same suspects in the same order, who name no earlier
response. The restored town has the same save, but for the time. -/
theorem save_loses_nothing {profiles : List Profile} {prompts : PromptStore}
    {policy : CulpritPolicy}
    {settings : Settings} {t₀ t : Town}
    (hstart : Town.start profiles prompts policy settings = .ok t₀) (hrun : t₀.Run t)
    {now : Timestamp} (hlegible : (capture now t).Legible) (settings' : Settings) :
    ofText (capture now t).text = .ok (capture now t) ∧
      ∃ t', restore settings' (capture now t) = .ok t' ∧
        t'.detective = t.detective ∧ t'.culprit = t.culprit ∧ t'.culpritName = t.culpritName ∧
        t'.active = t.active ∧
        t'.sessions.map (fun s => (s.profile, s.instructions, s.transcript)) =
          t.sessions.map (fun s => (s.profile, s.instructions, s.transcript)) ∧
        (∀ s ∈ t'.sessions, s.previousResponseId = none) ∧
        ∀ later, capture later t' = { capture now t with savedAt := later } := by
  -- a run keeps names apart and parameters sorted, which is what reading back relies on
  have hsound : t.Sound := (Town.sound_start hstart).run hrun
  have hsessions : (t.resumed settings').sessions.map
      (fun s => (s.profile, s.instructions, s.transcript)) =
      t.sessions.map fun s => (s.profile, s.instructions, s.transcript) := by
    show (t.sessions.map _).map _ = _
    rw [List.map_map]
    rfl
  have hfresh : ∀ s ∈ (t.resumed settings').sessions, s.previousResponseId = none := by
    intro s hs
    obtain ⟨u, _, rfl⟩ := List.mem_map.1 hs
    rfl
  refine ⟨ofText_text rfl (sorted_capture hsound now) hlegible, t.resumed settings',
    restore_capture hsound now settings', rfl, rfl, Town.culpritName_resumed settings' t, rfl,
    hsessions, hfresh, fun later => capture_resumed now later settings' t⟩

theorem eq_ok_get {α ε : Type} {x : Except ε α} (h : x.toOption.isSome = true) :
    x = .ok (x.toOption.get h) := by
  cases x with
  | error e => cases h
  | ok a => rfl

/-! ## A turn with an action -/

/-- Does whatever it is asked. -/
def echo : Executor Unit :=
  ⟨fun now e name p => (.finished (.ok (.succeeded now name p "Done.")), e)⟩

/-- Calls a tool with an argument of every kind. -/
def caller : Model Unit where
  respond _ _ := (.came (.ok ⟨"r1", "m", .completed, [.call ⟨none, "c1", "go_to_npc",
    "\x7b\"b\": true, \"a\": null, \"d\": \"\\u00e9\", \"c\": 1.5\x7d"⟩], ⟨0, 0⟩, .null⟩), ())
  stream _ _ := (.never, ())

/-- How a town of two starts. -/
def started : Except TownError Town :=
  Town.start [.new "Ann" "cook" "", .new "Zoë" "cook" "a knife"]
    ⟨[⟨"cook", true, "Lie."⟩, ⟨"cook", false, "Be kind."⟩], "", ""⟩ (.named "Zoë") .default

/-- The town of two at its start. -/
def townBefore : Town := started.toOption.get (by decide +kernel)

/-- The town of two after the turn. -/
def townAfter : Town :=
  ((Play.mk townBefore () ()).talk caller (fun _ _ => echo) default "Zoë" "Hi").2.town

theorem started_eq : started = .ok townBefore := eq_ok_get _

theorem run_townAfter : townBefore.Run townAfter := by
  refine .single (.talked caller _ default "Zoë" "Hi" () () fun _ _ => ?_)
  intro now e name p i e' hp hi
  cases hi
  exact hp

theorem legible_townAfter : (capture default townAfter).Legible := by decide +kernel

/-- The action's arguments are among what is not lost. -/
theorem save_loses_nothing_of_action :
    townAfter.sessions.map (fun s => s.transcript.activities.map Invocation.parameters) =
        [[], [[("a", .null), ("b", .bool true),
          ("c", .number ⟨false, 0x3FF8000000000000, by decide⟩), ("d", .text "é")]]] ∧
      ofText (capture default townAfter).text = .ok (capture default townAfter) ∧
      ∃ t', restore .default (capture default townAfter) = .ok t' ∧
        ∀ later, capture later t' = { capture default townAfter with savedAt := later } := by
  have hactions : townAfter.sessions.map
      (fun s => s.transcript.activities.map Invocation.parameters) =
      [[], [[("a", .null), ("b", .bool true),
        ("c", .number ⟨false, 0x3FF8000000000000, by decide⟩), ("d", .text "é")]]] := by
    decide +kernel
  obtain ⟨hread, t', hrestored, _, _, _, _, _, _, hsave⟩ :=
    save_loses_nothing started_eq run_townAfter legible_townAfter .default
  exact ⟨hactions, hread, t', hrestored, hsave⟩

end Inquest.SavedTown

import Inquest.Proofs.Town.Sound
import Inquest.Save.Basic
import Mathlib.Data.List.Nodup

/-! # A town goes on from its save

A sound town is found again in its sessions: one suspect alone is marked, and one alone has the name
of the one whom the detective was talking to.

* `resumed`: a town with its requests to the model forgotten.
* `restore_capture`: the save of a sound town is restored as that.
-/

namespace Inquest

/-! ## The one that is meant -/

section
variable {α : Type} {l : List α} {p : α → Bool} {c : Nat} (hc : c < l.length)
  (h : ∀ i (hi : i < l.length), p l[i] = decide (i = c))
include hc h

theorem findFinIdx?_of_only : l.findFinIdx? p = some ⟨c, hc⟩ := by
  refine List.findFinIdx?_eq_some_iff.2 ⟨?_, fun j hj => ?_⟩
  · show p l[c] = true
    rw [h c hc, decide_eq_true_eq]
  · show ¬ p l[(j : Nat)] = true
    rw [h j j.isLt, decide_eq_true_eq]
    exact Nat.ne_of_lt hj

theorem countP_of_only : l.countP p = 1 := by
  have hbefore : (l.take c).countP p = 0 := by
    refine List.countP_eq_zero.2 fun a ha => ?_
    obtain ⟨i, hi, rfl⟩ := List.mem_iff_getElem.1 ha
    rw [List.length_take] at hi
    rw [List.getElem_take, h i (by omega), decide_eq_true_eq]
    omega
  have hafter : (l.drop (c + 1)).countP p = 0 := by
    refine List.countP_eq_zero.2 fun a ha => ?_
    obtain ⟨i, hi, rfl⟩ := List.mem_iff_getElem.1 ha
    rw [List.length_drop] at hi
    rw [List.getElem_drop, h (c + 1 + i) (by omega), decide_eq_true_eq]
    omega
  have hhere : p l[c] = true := by
    rw [h c hc, decide_eq_true_eq]
  calc l.countP p = (l.take c ++ l[c] :: l.drop (c + 1)).countP p := by
        rw [List.getElem_cons_drop, List.take_append_drop]
    _ = 1 := by rw [List.countP_append, hbefore, List.countP_cons_of_pos hhere, hafter]

theorem filter_of_only : l.filter p = [l[c]] := by
  have hcount := countP_of_only hc h
  rw [List.countP_eq_length_filter, List.length_eq_one_iff] at hcount
  obtain ⟨a, ha⟩ := hcount
  have hmem : l[c] ∈ l.filter p :=
    List.mem_filter.2 ⟨List.getElem_mem hc, by rw [h c hc, decide_eq_true_eq]⟩
  rw [ha, List.mem_singleton] at hmem
  rw [ha, hmem]

end

namespace Town

namespace Sound

variable {t : Town}

theorem isCulprit_eq (h : t.Sound) (i : Nat) (hi : i < t.sessions.length) :
    t.sessions[i].profile.isCulprit = decide (i = t.culprit) := by
  refine h.marked ?_
  rw [profiles, List.getElem?_map, List.getElem?_eq_getElem hi]
  rfl

theorem name_eq (h : t.Sound) {j : Nat} (hj : j < t.sessions.length) (i : Nat)
    (hi : i < t.sessions.length) :
    (t.sessions[i].name == t.sessions[j].name) = decide (i = j) := by
  have hnames : (t.sessions.map Session.name).Nodup := by
    have h := h.names
    rwa [profiles, List.map_map] at h
  have hinj : t.sessions[i].name = t.sessions[j].name ↔ i = j := by
    have hi : i < (t.sessions.map Session.name).length := (List.length_map _).symm ▸ hi
    have hj : j < (t.sessions.map Session.name).length := (List.length_map _).symm ▸ hj
    have hmap : (t.sessions.map Session.name)[i] = (t.sessions.map Session.name)[j] ↔ i = j :=
      hnames.getElem_inj_iff
    rwa [List.getElem_map, List.getElem_map] at hmap
  rw [beq_eq_decide, decide_eq_decide]
  exact hinj

/-- The town of its own sessions. -/
theorem ofSessions_eq (h : t.Sound) :
    ofSessions t.sessions = .ok { t with
      active := 0
      detective := defaultDetective
      inventory := none
      active_lt := Nat.zero_lt_of_lt t.active_lt } := by
  have hsome : t.sessions.isEmpty = false := by
    rw [List.isEmpty_eq_false_iff]
    exact List.ne_nil_of_length_pos (Nat.zero_lt_of_lt t.active_lt)
  have hfound : t.sessions.findFinIdx? (fun s => s.profile.isCulprit) =
      some ⟨t.culprit, t.culprit_lt⟩ :=
    findFinIdx?_of_only t.culprit_lt h.isCulprit_eq
  have hcount : t.sessions.countP (fun s => s.profile.isCulprit) = 1 :=
    countP_of_only t.culprit_lt h.isCulprit_eq
  rw [ofSessions, hsome, if_neg Bool.false_ne_true, hfound]
  exact if_pos hcount

/-- Turning to somebody by name leads to them. -/
theorem switchTo_name (h : t.Sound) {i : Nat} (hi : i < t.sessions.length) :
    t.switchTo t.sessions[i].name = .ok { t with active := i, active_lt := hi } := by
  have hfound : t.sessions.findFinIdx? (fun s => s.name == t.sessions[i].name) = some ⟨i, hi⟩ :=
    findFinIdx?_of_only hi (h.name_eq hi)
  rw [Town.switchTo, hfound]

/-- From whomever the detective turned to, the name of the active suspect leads back. -/
theorem switchTo_back (h : t.Sound) {i : Nat} (hi : i < t.sessions.length) :
    ({ t with active := i, active_lt := hi } : Town).switchTo t.activeSession.name = .ok t := by
  have hother : ({ t with active := i, active_lt := hi } : Town).Sound :=
    ⟨h.names, h.marked, h.sorted⟩
  exact hother.switchTo_name t.active_lt

end Sound

/-- The town with new sessions that go on from the transcripts, and without an inventory. -/
def resumed (settings : Settings) (t : Town) : Town where
  sessions := t.sessions.map fun s => (SavedSuspect.ofSession s).session settings
  active := t.active
  culprit := t.culprit
  detective := t.detective
  inventory := none
  active_lt := by rw [List.length_map]; exact t.active_lt
  culprit_lt := by rw [List.length_map]; exact t.culprit_lt

theorem profiles_resumed (settings : Settings) (t : Town) :
    (t.resumed settings).profiles = t.profiles := by
  show (t.sessions.map _).map Session.profile = t.sessions.map Session.profile
  rw [List.map_map]
  rfl

theorem activeSession_resumed (settings : Settings) (t : Town) :
    (t.resumed settings).activeSession =
      (SavedSuspect.ofSession t.activeSession).session settings := by
  exact List.getElem_map _

theorem culpritName_resumed (settings : Settings) (t : Town) :
    (t.resumed settings).culpritName = t.culpritName := by
  have hculprit : (t.resumed settings).sessions.get ⟨t.culprit, (t.resumed settings).culprit_lt⟩ =
      (SavedSuspect.ofSession (t.sessions.get ⟨t.culprit, t.culprit_lt⟩)).session settings :=
    List.getElem_map _
  exact (congrArg Session.name hculprit).trans rfl

theorem Sound.resumed {t : Town} (h : t.Sound) (settings : Settings) :
    (t.resumed settings).Sound where
  names := by
    rw [profiles_resumed]
    exact h.names
  marked := by
    rw [profiles_resumed]
    exact h.marked
  sorted := by
    intro s hs
    obtain ⟨u, hu, rfl⟩ := List.mem_map.1 hs
    exact h.sorted u hu

end Town

namespace SavedTown

/-- **The save of a sound town is restored.** -/
theorem restore_capture {t : Town} (h : t.Sound) (now : Timestamp) (settings : Settings) :
    restore settings (capture now t) = .ok (t.resumed settings) := by
  have hr := h.resumed settings
  have hsessions : (capture now t).suspects.map (SavedSuspect.session settings) =
      (t.resumed settings).sessions := by
    show (t.sessions.map _).map _ = t.sessions.map _
    rw [List.map_map]
    rfl
  have hculprit : (t.resumed settings).culpritName = (capture now t).culprit :=
    Town.culpritName_resumed settings t
  have hactive : (t.resumed settings).activeSession.name = (capture now t).active :=
    (congrArg Session.name (Town.activeSession_resumed settings t)).trans rfl
  have hback := hr.switchTo_back (Nat.zero_lt_of_lt (t.resumed settings).active_lt)
  rw [hactive] at hback
  rw [restore, hsessions, hr.ofSessions_eq]
  show (if (t.resumed settings).culpritName = (capture now t).culprit then _ else _) = _
  rw [if_pos hculprit]
  exact hback

/-- The restored town has the same save, but for the time. -/
theorem capture_resumed (now later : Timestamp) (settings : Settings) (t : Town) :
    capture later (t.resumed settings) = { capture now t with savedAt := later } := by
  have hsuspects : (t.resumed settings).sessions.map SavedSuspect.ofSession =
      t.sessions.map SavedSuspect.ofSession := by
    show (t.sessions.map _).map _ = _
    rw [List.map_map]
    rfl
  have hactive : (t.resumed settings).activeSession.name = t.activeSession.name := by
    rw [Town.activeSession_resumed]
    rfl
  rw [capture, capture, hsuspects, hactive, Town.culpritName_resumed]
  rfl

end SavedTown

end Inquest

import Inquest.Proofs.Save.Restoring

/-! # Which saves are accepted

A save is restored just where it is `Coherent`: one suspect alone is marked, under the name that is saved
for the culprit, and the one whom the detective was talking to is among the suspects. Whether names repeat is
not looked at, although a new town is refused for that; and where they do, only the first of a name can be
turned to.

* `switchTo_eq_ok_iff`: a name leads to the first suspect who has it.
* `reached_iff`, `reached_all_iff`: who can be turned to by name, and when everybody can.
* `of_restore`, `restore_of_coherent`: the saves that are restored, and as what.
* `restored_iff_coherent`: both. `namesakes_restored`: a save with two suspects of one name.
-/

namespace Inquest

namespace Town

variable {t u : Town} {name : String}

/-! ## Names and places -/

/-- The names of the suspects in order. -/
def names (t : Town) : List String := t.sessions.map Session.name

/-- No suspect before has the name of the one at a place. -/
def FirstNamed (t : Town) (i : Nat) : Prop := ∀ k < i, t.names[k]? ≠ t.names[i]?

theorem getElem?_names {i : Nat} (hi : i < t.sessions.length) :
    t.names[i]? = some t.sessions[i].name := by
  rw [names, List.getElem?_map, List.getElem?_eq_getElem hi]
  rfl

/-- **A name leads to the first suspect who has it.** -/
theorem switchTo_eq_ok_iff :
    t.switchTo name = .ok u ↔ ∃ (i : Nat) (hi : i < t.sessions.length), t.names[i]? = some name ∧
      t.FirstNamed i ∧ u = { t with active := i, active_lt := hi } := by
  have hplace {i : Fin t.sessions.length} :
      t.sessions.findFinIdx? (fun s => s.name == name) = some i ↔
        t.names[i.val]? = some name ∧ t.FirstNamed i := by
    rw [List.findFinIdx?_eq_some_iff, FirstNamed, getElem?_names i.isLt]
    simp only [beq_iff_eq, Fin.getElem_fin, Option.some.injEq]
    refine and_congr_right fun hname => ⟨fun hfirst k hk => ?_, fun hfirst k hk heq => ?_⟩
    · rw [getElem?_names (Nat.lt_trans hk i.isLt), hname]
      exact fun heq => hfirst ⟨k, Nat.lt_trans hk i.isLt⟩ hk (Option.some.inj heq)
    · refine hfirst k hk ?_
      rw [getElem?_names k.isLt, hname, heq]
  rw [switchTo]
  cases hfound : t.sessions.findFinIdx? fun s => s.name == name with
  | some i =>
    obtain ⟨hname, hfirst⟩ := hplace.1 hfound
    constructor
    · rintro ⟨⟩
      exact ⟨i, i.isLt, hname, hfirst, rfl⟩
    · rintro ⟨k, hk, hname', hfirst', rfl⟩
      have hsame := hfound.symm.trans ((hplace (i := ⟨k, hk⟩)).2 ⟨hname', hfirst'⟩)
      cases hsame
      rfl
  | none =>
    refine iff_of_false (fun h => by cases h) ?_
    rintro ⟨k, hk, hname, hfirst, -⟩
    rw [(hplace (i := ⟨k, hk⟩)).2 ⟨hname, hfirst⟩] at hfound
    cases hfound

theorem switchTo_eq_error_iff {e : TownError} :
    t.switchTo name = .error e ↔ name ∉ t.names ∧ e = .unknownNpc name := by
  rw [switchTo]
  cases hfound : t.sessions.findFinIdx? fun s => s.name == name with
  | some i =>
    refine iff_of_false (fun h => by cases h) ?_
    rintro ⟨hno, -⟩
    have hname := (List.findFinIdx?_eq_some_iff.1 hfound).1
    exact hno (List.mem_map.2 ⟨_, List.getElem_mem i.isLt, by simpa using hname⟩)
  | none =>
    have hno : name ∉ t.names := by
      rintro hmem
      obtain ⟨s, hs, rfl⟩ := List.mem_map.1 hmem
      simpa using List.findFinIdx?_eq_none_iff.1 hfound s hs
    simp [hno, eq_comm]

/-- The first with the name of a suspect is that suspect or one before. -/
theorem exists_firstNamed (t : Town) (i : Nat) :
    ∃ j ≤ i, t.names[j]? = t.names[i]? ∧ t.FirstNamed j := by
  induction i using Nat.strongRecOn with
  | _ i ih =>
  by_cases hfirst : t.FirstNamed i
  · exact ⟨i, Nat.le_refl i, rfl, hfirst⟩
  · simp only [FirstNamed, not_forall, not_not] at hfirst
    obtain ⟨k, hk, hsame⟩ := hfirst
    obtain ⟨j, hj, hname, hfirst⟩ := ih k hk
    exact ⟨j, Nat.le_of_lt (Nat.lt_of_le_of_lt hj hk), hname.trans hsame, hfirst⟩

/-- Who can be turned to by name. -/
theorem reached_iff {i : Nat} (hi : i < t.sessions.length) :
    (∃ name u, t.switchTo name = .ok u ∧ u.active = i) ↔ t.FirstNamed i := by
  constructor
  · rintro ⟨name, u, hturn, rfl⟩
    obtain ⟨i, hi, -, hfirst, rfl⟩ := switchTo_eq_ok_iff.1 hturn
    exact hfirst
  · intro hfirst
    exact ⟨_, _, switchTo_eq_ok_iff.2 ⟨i, hi, getElem?_names hi, hfirst, rfl⟩, rfl⟩

/-- **Everybody can be turned to by name just where no name repeats.** -/
theorem reached_all_iff :
    (∀ i (hi : i < t.sessions.length),
      t.switchTo t.sessions[i].name = .ok { t with active := i, active_lt := hi }) ↔
      t.names.Nodup := by
  have hlength : t.names.length = t.sessions.length := List.length_map _
  rw [List.nodup_iff_getElem?_ne_getElem?]
  constructor
  · intro h k i hk hi
    rw [hlength] at hi
    obtain ⟨j, hj, hname, hfirst, htown⟩ := switchTo_eq_ok_iff.1 (h i hi)
    obtain rfl : i = j := congrArg Town.active htown
    exact hfirst k hk
  · intro h i hi
    exact switchTo_eq_ok_iff.2
      ⟨i, hi, getElem?_names hi, fun k hk => h k i hk (hlength ▸ hi), rfl⟩

/-! ## Sessions that make a town -/

variable {sessions : List Session}

theorem of_ofSessions (h : ofSessions sessions = .ok t) :
    t.sessions = sessions ∧
      ∃ s, sessions.filter (fun s => s.profile.isCulprit) = [s] ∧ t.culpritName = s.name := by
  rw [ofSessions] at h
  split at h
  · cases h
  · split at h
    · cases h
    · next c hfound =>
      split at h
      · next hcount =>
        cases h
        rw [List.countP_eq_length_filter, List.length_eq_one_iff] at hcount
        obtain ⟨s, hs⟩ := hcount
        refine ⟨rfl, s, hs, ?_⟩
        have hmem : sessions[c] ∈ sessions.filter (fun s => s.profile.isCulprit) :=
          List.mem_filter.2 ⟨List.getElem_mem c.isLt, (List.findFinIdx?_eq_some_iff.1 hfound).1⟩
        rw [hs, List.mem_singleton] at hmem
        exact congrArg Session.name hmem
      · cases h

theorem ofSessions_of_marked {s : Session}
    (h : sessions.filter (fun s => s.profile.isCulprit) = [s]) : ∃ t, ofSessions sessions = .ok t := by
  have hmem : s ∈ sessions ∧ s.profile.isCulprit = true :=
    List.mem_filter.1 (h ▸ List.mem_singleton_self s)
  have hsome : sessions.isEmpty = false :=
    List.isEmpty_eq_false_iff.2 (List.ne_nil_of_mem hmem.1)
  have hcount : sessions.countP (fun s => s.profile.isCulprit) = 1 := by
    rw [List.countP_eq_length_filter, h]
    rfl
  rw [ofSessions, hsome, if_neg Bool.false_ne_true]
  split
  · next hnone => exact absurd hmem.2 (List.findFinIdx?_eq_none_iff.1 hnone s hmem.1)
  · rw [if_pos hcount]
    exact ⟨_, rfl⟩

end Town

/-! ## Saves -/

namespace SavedTown

variable {settings : Settings} {s : SavedTown} {t : Town}

/-- The profiles of the suspects. -/
def profiles (s : SavedTown) : List Profile := s.suspects.map SavedSuspect.profile

/-- The names of the suspects. -/
def names (s : SavedTown) : List String := s.profiles.map Profile.name

/-- A save that says one thing about the culprit, and whose active suspect there is. -/
structure Coherent (s : SavedTown) : Prop where
  some : s.suspects ≠ []
  /-- One suspect alone is marked, and has the name saved for the culprit. -/
  marked : ∃ p, s.profiles.filter Profile.isCulprit = [p] ∧ p.name = s.culprit
  active : s.active ∈ s.names

/-- The sessions of a restored town. -/
def sessions (settings : Settings) (s : SavedTown) : List Session :=
  s.suspects.map (SavedSuspect.session settings)

theorem profiles_sessions (settings : Settings) (s : SavedTown) :
    (s.sessions settings).map Session.profile = s.profiles := by
  rw [sessions, List.map_map]
  rfl

theorem names_sessions (settings : Settings) (s : SavedTown) :
    (s.sessions settings).map Session.name = s.names := by
  rw [names, ← profiles_sessions settings, List.map_map]
  rfl

theorem filter_profiles (settings : Settings) (s : SavedTown) :
    s.profiles.filter Profile.isCulprit =
      ((s.sessions settings).filter fun x => x.profile.isCulprit).map Session.profile := by
  rw [← profiles_sessions settings, List.filter_map]
  rfl

/-- What a save is restored as: its suspects in order, the detective turned to the first with the name that
is saved for the active one. -/
theorem of_restore (h : restore settings s = .ok t) :
    s.Coherent ∧ t.sessions = s.sessions settings ∧ t.names[t.active]? = some s.active ∧
      t.FirstNamed t.active ∧ t.culpritName = s.culprit ∧ t.detective = s.detective := by
  rw [restore] at h
  split at h
  · cases h
  · next u hu =>
    obtain ⟨hsessions, x, hmarked, hculprit⟩ := Town.of_ofSessions hu
    dsimp only at h
    split at h
    · next hname =>
      obtain ⟨i, hi, hactive, hfirst, rfl⟩ := Town.switchTo_eq_ok_iff.1 h
      have hnames : u.names = s.names :=
        (congrArg (List.map Session.name) hsessions).trans (names_sessions settings s)
      have hprofile : s.profiles.filter Profile.isCulprit = [x.profile] := by
        rw [filter_profiles settings, sessions, hmarked]
        rfl
      refine ⟨⟨?_, ⟨x.profile, hprofile, hculprit.symm.trans hname⟩, ?_⟩, hsessions, hactive, hfirst,
        hname, rfl⟩
      · intro hnone
        rw [profiles, hnone] at hprofile
        cases hprofile
      · rw [← hnames]
        exact List.mem_of_getElem? hactive
    · cases h

theorem restore_of_coherent (h : s.Coherent) (settings : Settings) :
    ∃ t, restore settings s = .ok t := by
  obtain ⟨p, hp, hname⟩ := h.marked
  rw [filter_profiles settings, List.map_eq_singleton_iff] at hp
  obtain ⟨x, hmarked, rfl⟩ := hp
  obtain ⟨u, hu⟩ := Town.ofSessions_of_marked hmarked
  obtain ⟨hsessions, x', hmarked', hculprit⟩ := Town.of_ofSessions hu
  obtain rfl : x = x' := by simpa using hmarked.symm.trans hmarked'
  have hnames : u.names = s.names :=
    (congrArg (List.map Session.name) hsessions).trans (names_sessions settings s)
  obtain ⟨t, ht⟩ : ∃ t, ({ u with detective := s.detective } : Town).switchTo s.active = .ok t := by
    cases hturn : ({ u with detective := s.detective } : Town).switchTo s.active with
    | ok t => exact ⟨t, rfl⟩
    | error e =>
      have hno : s.active ∉ u.names := (Town.switchTo_eq_error_iff.1 hturn).1
      exact absurd (hnames ▸ h.active) hno
  refine ⟨t, ?_⟩
  rw [restore, show Town.ofSessions (s.suspects.map (SavedSuspect.session settings)) = .ok u from hu]
  exact (if_pos (hculprit.trans hname)).trans ht

/-- **Which saves are accepted, and who can be talked to then.** A save is restored just where it is coherent.
In the restored town the suspects stand in the order of the save, and a suspect's name leads to the first who
has it, for turning to and for talking; so a suspect with a namesake before is not reached by any name,
and everybody is reached just where the names in the save are distinct. -/
theorem restored_iff_coherent (settings : Settings) (s : SavedTown) :
    ((∃ t, restore settings s = .ok t) ↔ s.Coherent) ∧
    ∀ t, restore settings s = .ok t →
      t.sessions = s.sessions settings ∧ t.culpritName = s.culprit ∧
      t.activeSession.name = s.active ∧ t.detective = s.detective ∧
      (∀ i (hi : i < t.sessions.length), ∃ j, ∃ hj : j < t.sessions.length, j ≤ i ∧
        t.FirstNamed j ∧
        t.switchTo t.sessions[i].name = .ok { t with active := j, active_lt := hj } ∧
        ∀ {σ ε : Type} (model : Model σ) (casting : Casting ε) (now : Timestamp) (text : String)
          (a : σ) (e : ε),
          (Play.mk t a e).talk model casting now t.sessions[i].name text =
            (Play.mk { t with active := j, active_lt := hj } a e).send model casting now text) ∧
      (∀ i < t.sessions.length,
        (∃ name u, t.switchTo name = .ok u ∧ u.active = i) ↔ t.FirstNamed i) ∧
      ((∀ i (hi : i < t.sessions.length),
        t.switchTo t.sessions[i].name = .ok { t with active := i, active_lt := hi }) ↔
        s.names.Nodup) := by
  constructor
  · exact ⟨fun ⟨t, ht⟩ => (of_restore ht).1, fun h => restore_of_coherent h settings⟩
  · intro t ht
    obtain ⟨-, hsessions, hactive, -, hculprit, hdetective⟩ := of_restore ht
    have hnames : t.names = s.names :=
      (congrArg (List.map Session.name) hsessions).trans (names_sessions settings s)
    refine ⟨hsessions, hculprit, ?_, hdetective, ?_, fun i hi => Town.reached_iff hi,
      hnames ▸ Town.reached_all_iff⟩
    · rw [Town.getElem?_names t.active_lt] at hactive
      exact Option.some.inj hactive
    · intro i hi
      -- the name of a session leads to the first session of that name, at or before it
      obtain ⟨j, hle, hname, hfirst⟩ := t.exists_firstNamed i
      have hj : j < t.sessions.length := Nat.lt_of_le_of_lt hle hi
      rw [Town.getElem?_names hi] at hname
      have hturn := Town.switchTo_eq_ok_iff.2 ⟨j, hj, hname, hfirst, rfl⟩
      refine ⟨j, hj, hle, hfirst, hturn, fun model casting now text a e => ?_⟩
      rw [Play.talk, Play.turnTo, hturn]
      rfl

/-- A save of two suspects, the first of whom is marked. -/
def pairSave (first second : String) : SavedTown where
  version := currentVersion
  savedAt := default
  detective := Town.defaultDetective
  culprit := first
  active := second
  suspects := [⟨⟨first, "cook", "a knife", true⟩, "Be brief.", []⟩,
    ⟨⟨second, "maid", "a broom", false⟩, "Be kind.", []⟩]

theorem coherent_pairSave (first second : String) : (pairSave first second).Coherent where
  some := List.cons_ne_nil _ _
  marked := ⟨_, rfl, rfl⟩
  active := List.mem_cons_of_mem _ (List.mem_singleton_self second)

/-- Two suspects of two names are restored, and both are reached. -/
theorem restored_iff_coherent_pair :
    ∃ t, restore .default (pairSave "Rosa" "Ida") = .ok t ∧ t.activeSession.name = "Ida" ∧
      ∀ i (hi : i < t.sessions.length),
        t.switchTo t.sessions[i].name = .ok { t with active := i, active_lt := hi } := by
  obtain ⟨haccepted, hrestored⟩ := restored_iff_coherent .default (pairSave "Rosa" "Ida")
  obtain ⟨t, ht⟩ := haccepted.2 (coherent_pairSave "Rosa" "Ida")
  obtain ⟨-, -, hactive, -, -, -, hall⟩ := hrestored t ht
  exact ⟨t, ht, hactive, hall.2 (by decide)⟩

/-- **A save with two suspects of one name is restored, and no name reaches the second.** -/
theorem namesakes_restored :
    ¬ (pairSave "Rosa" "Rosa").names.Nodup ∧
      ∃ t, restore .default (pairSave "Rosa" "Rosa") = .ok t ∧ t.names = ["Rosa", "Rosa"] ∧
        ∀ name u, t.switchTo name = .ok u → u.active = 0 := by
  refine ⟨by decide, ?_⟩
  obtain ⟨t, ht⟩ := restore_of_coherent (coherent_pairSave "Rosa" "Rosa") .default
  obtain ⟨-, hsessions, -⟩ := of_restore ht
  have hnames : t.names = ["Rosa", "Rosa"] :=
    (congrArg (List.map Session.name) hsessions).trans (names_sessions ..)
  refine ⟨t, ht, hnames, fun name u hturn => ?_⟩
  obtain ⟨i, hi, -, hfirst, rfl⟩ := Town.switchTo_eq_ok_iff.1 hturn
  have hlength : t.sessions.length = 2 := congrArg List.length hsessions
  show i = 0
  by_contra hpos
  obtain rfl : i = 1 := by omega
  refine hfirst 0 Nat.one_pos ?_
  rw [hnames]
  rfl

end SavedTown

end Inquest

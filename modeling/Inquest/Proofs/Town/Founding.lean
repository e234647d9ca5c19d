import Inquest.Proofs.Save.Restoring
import Inquest.Proofs.Town.Isolation
import Inquest.Rehearsal.SampleTown

/-! # How a town is founded

A town is set up just when it has suspects with distinct names, one of whom may be the culprit, and one
template for each. Otherwise the first of these that fails is told.

* `CulpritPolicy.Picks`: whom a policy makes the culprit.
* `firstRepeated_eq_some`, `enlist_cases`: the checks one by one.
* `start_cases`: which check comes first.
* `Peopled`: who lives in a town; nothing that happens there later changes it.
* `start_exactly`: all of this together.
-/

namespace Inquest

/-! ## The culprit -/

namespace CulpritPolicy

/-- What a policy asks of the culprit. -/
def Admits : CulpritPolicy → Profile → Prop
  | .fixedRole role, p => p.role = normalizeRole role
  | .excludeRole role _, p => p.role ≠ normalizeRole role
  | .named name, p => p.name = name

/-- The policy has a seed, and leaves the choice to it. -/
def Seeded : CulpritPolicy → Prop
  | .excludeRole _ _ => True
  | _ => False

variable {policy : CulpritPolicy} {profiles : List Profile}

theorem suits_iff {p : Profile} : policy.suits p = true ↔ policy.Admits p := by
  cases policy <;> simp [suits, Admits, Profile.hasRole]

/-- The culprit's place is that of somebody whom the policy admits, and of the first such one unless a
seed chooses. -/
structure Picks (policy : CulpritPolicy) (profiles : List Profile) (place : Nat) : Prop where
  admitted : ∃ p, profiles[place]? = some p ∧ policy.Admits p
  first : ¬ policy.Seeded → ∀ p ∈ profiles.take place, ¬ policy.Admits p

theorem mem_eligible {i : Fin profiles.length} :
    i ∈ policy.eligible profiles ↔ policy.Admits (profiles.get i) := by
  rw [eligible, List.mem_filter, suits_iff]
  exact and_iff_right (List.mem_finRange i)

theorem select?_eq_none (h : policy.select? profiles = none) :
    ∀ p ∈ profiles, ¬ policy.Admits p := by
  have hnobody : policy.eligible profiles = [] := by
    cases policy with
    | excludeRole role seed =>
      simp only [select?, dite_eq_right_iff, reduceCtorEq, imp_false, Nat.not_lt] at h
      exact List.length_eq_zero_iff.1 (Nat.le_zero.1 h)
    | fixedRole role | named name => exact List.head?_eq_none_iff.1 h
  intro p hp hadmits
  obtain ⟨i, hi, rfl⟩ := List.mem_iff_getElem.1 hp
  have hmem : ⟨i, hi⟩ ∈ policy.eligible profiles := mem_eligible.2 hadmits
  rw [hnobody] at hmem
  exact absurd hmem List.not_mem_nil

/-- The places that a policy admits stand in order. -/
theorem eligible_sorted (policy : CulpritPolicy) (profiles : List Profile) :
    (policy.eligible profiles).Pairwise (· < ·) :=
  (List.pairwise_lt_finRange _).filter _

theorem picks_of_select? {i : Fin profiles.length} (h : policy.select? profiles = some i) :
    policy.Picks profiles i where
  admitted :=
    ⟨profiles[i], List.getElem?_eq_getElem i.isLt, suits_iff.1 (suits_of_select? h)⟩
  first := by
    intro hseed p hp hadmits
    obtain ⟨j, hj, rfl⟩ := List.mem_iff_getElem.1 hp
    rw [List.length_take] at hj
    rw [List.getElem_take] at hadmits
    have hmem : ⟨j, by omega⟩ ∈ policy.eligible profiles := mem_eligible.2 hadmits
    have hhead : (policy.eligible profiles).head? = some i := by
      cases policy with
      | excludeRole => exact absurd trivial hseed
      | fixedRole | named => exact h
    obtain ⟨rest, hrest⟩ := List.head?_eq_some_iff.1 hhead
    have hsorted := eligible_sorted policy profiles
    rw [hrest] at hmem hsorted
    rcases List.mem_cons.1 hmem with hji | hmem
    · have := congrArg Fin.val hji
      simp only at this
      omega
    · have hlt : i < ⟨j, by omega⟩ := List.rel_of_pairwise_cons hsorted hmem
      have : (i : Nat) < j := hlt
      omega

end CulpritPolicy

/-! ## Templates -/

namespace PromptStore

/-- How many templates are for a profile. -/
def matching (s : PromptStore) (p : Profile) : Nat := s.templates.countP fun t => t.isFor p

theorem resolve_cases (s : PromptStore) (p : Profile) :
    (s.matching p = 0 ∧ s.resolve p = .error (.noTemplate p)) ∨
      (s.matching p = 1 ∧ ∃ text, s.resolve p = .ok text) ∨
      (1 < s.matching p ∧ s.resolve p = .error (.manyTemplates p)) := by
  rw [matching, List.countP_eq_length_filter, resolve]
  cases s.templates.filter fun t => t.isFor p with
  | nil => exact .inl ⟨rfl, rfl⟩
  | cons t rest =>
    cases rest with
    | nil => exact .inr (.inl ⟨rfl, _, rfl⟩)
    | cons t' rest => exact .inr (.inr ⟨by simp, rfl⟩)

theorem resolve_eq_error_iff {s : PromptStore} {p : Profile} {e : PromptError} :
    s.resolve p = .error e ↔
      (s.matching p = 0 ∧ e = .noTemplate p) ∨ (1 < s.matching p ∧ e = .manyTemplates p) := by
  rcases s.resolve_cases p with ⟨hn, h⟩ | ⟨hn, text, h⟩ | ⟨hn, h⟩ <;> rw [h] <;> grind

theorem resolve_eq_ok_iff {s : PromptStore} {p : Profile} :
    (∃ text, s.resolve p = .ok text) ↔ s.matching p = 1 := by
  rcases s.resolve_cases p with ⟨hn, h⟩ | ⟨hn, text, h⟩ | ⟨hn, h⟩ <;> rw [h] <;> grind

end PromptStore

namespace Town

/-! ## The checks -/

/-- A name that repeats an earlier one, before any other does. -/
def FirstRepeat (names : List String) (name : String) : Prop :=
  ∃ before after, names = before ++ name :: after ∧ name ∈ before ∧ before.Nodup

theorem firstRepeated_eq_some {earlier names : List String} {name : String}
    (h : firstRepeated earlier names = some name) (hearlier : earlier.Nodup) :
    FirstRepeat (earlier.reverse ++ names) name := by
  induction names generalizing earlier with
  | nil => cases h
  | cons n rest ih =>
    unfold firstRepeated at h
    split at h
    · next hn =>
      cases h
      exact ⟨earlier.reverse, rest, rfl, List.mem_reverse.2 (List.contains_iff_mem.1 hn),
        List.nodup_reverse.2 hearlier⟩
    · next hn =>
      rw [List.contains_iff_mem] at hn
      have hrest := ih h (List.nodup_cons.2 ⟨hn, hearlier⟩)
      rwa [List.reverse_cons, List.append_assoc] at hrest

/-- Names of which one is the first to repeat another repeat no other first. -/
theorem FirstRepeat.unique {names : List String} {n m : String} (hn : FirstRepeat names n)
    (hm : FirstRepeat names m) : n = m := by
  obtain ⟨before, after, hwhole, hmem, hnodup⟩ := hn
  obtain ⟨before', after', hwhole', hmem', hnodup'⟩ := hm
  rw [hwhole] at hwhole'
  rcases List.append_eq_append_iff.1 hwhole' with ⟨between, rfl, hafter⟩ | ⟨between, rfl, hafter⟩
  · cases between with
    | nil => exact (List.cons.inj hafter).1
    | cons x between =>
      -- the first name that is repeated stands before the other one a second time
      obtain ⟨rfl, -⟩ := List.cons.inj hafter
      exact absurd rfl ((List.nodup_append.1 hnodup').2.2 n hmem n List.mem_cons_self)
  · cases between with
    | nil => exact (List.cons.inj hafter).1.symm
    | cons x between =>
      obtain ⟨rfl, -⟩ := List.cons.inj hafter
      exact absurd rfl ((List.nodup_append.1 hnodup).2.2 m hmem' m List.mem_cons_self)

theorem FirstRepeat.not_nodup {names : List String} {n : String} (h : FirstRepeat names n) :
    ¬ names.Nodup := by
  obtain ⟨before, after, rfl, hmem, -⟩ := h
  intro hnodup
  exact absurd rfl ((List.nodup_append.1 hnodup).2.2 n hmem n List.mem_cons_self)

variable {prompts : PromptStore} {settings : Settings} {profiles : List Profile}

/-- Sessions with the instructions of their profiles. -/
def Instructed (prompts : PromptStore) (settings : Settings) (p : Profile) (s : Session) : Prop :=
  ∃ text, prompts.resolve p = .ok text ∧ s = .new p text settings

/-- The complaint about the first profile that has no template or more than one. -/
def FirstMisfit (prompts : PromptStore) (profiles : List Profile) (e : PromptError) : Prop :=
  ∃ before p after, profiles = before ++ p :: after ∧ (∀ q ∈ before, prompts.matching q = 1) ∧
    ((prompts.matching p = 0 ∧ e = .noTemplate p) ∨
      (1 < prompts.matching p ∧ e = .manyTemplates p))

theorem enlist_misfit (settings : Settings) {e : PromptError}
    (h : FirstMisfit prompts profiles e) :
    enlist prompts settings profiles = .error e := by
  obtain ⟨before, p, after, rfl, hbefore, hp⟩ := h
  rw [← PromptStore.resolve_eq_error_iff] at hp
  induction before with
  | nil =>
    rw [List.nil_append, enlist, hp]
    rfl
  | cons q before ih =>
    obtain ⟨text, hq⟩ := PromptStore.resolve_eq_ok_iff.2 (hbefore q List.mem_cons_self)
    have hrest := ih fun q hq => hbefore q (List.mem_cons_of_mem _ hq)
    rw [List.cons_append, enlist, hq, hrest]
    rfl

theorem enlist_cases (prompts : PromptStore) (settings : Settings) (profiles : List Profile) :
    (∃ e, FirstMisfit prompts profiles e ∧ enlist prompts settings profiles = .error e) ∨
      ∃ sessions, (∀ p ∈ profiles, prompts.matching p = 1) ∧
        List.Forall₂ (Instructed prompts settings) profiles sessions ∧
        enlist prompts settings profiles = .ok sessions := by
  induction profiles with
  | nil => exact .inr ⟨[], nofun, .nil, rfl⟩
  | cons p rest ih =>
    rw [enlist]
    cases hp : prompts.resolve p with
    | error e =>
      exact .inl ⟨e, ⟨[], p, rest, rfl, nofun, PromptStore.resolve_eq_error_iff.1 hp⟩, rfl⟩
    | ok text =>
      have hone : prompts.matching p = 1 := PromptStore.resolve_eq_ok_iff.1 ⟨text, hp⟩
      rcases ih with ⟨e, ⟨before, q, after, rfl, hbefore, hq⟩, he⟩ | ⟨sessions, hfit, hall, hok⟩
      · rw [he]
        exact .inl ⟨e, ⟨p :: before, q, after, rfl, List.forall_mem_cons.2 ⟨hone, hbefore⟩, hq⟩, rfl⟩
      · exact .inr ⟨.new p text settings :: sessions, List.forall_mem_cons.2 ⟨hone, hfit⟩,
          .cons ⟨text, hp, rfl⟩ hall, by
            rw [hok]
            rfl⟩

theorem instructed_of_enlist {sessions : List Session}
    (h : enlist prompts settings profiles = .ok sessions) :
    List.Forall₂ (Instructed prompts settings) profiles sessions := by
  rcases enlist_cases prompts settings profiles with ⟨e, -, herror⟩ | ⟨sessions', -, hall, hok⟩
  · rw [h] at herror
    cases herror
  · rw [h] at hok
    cases hok
    exact hall

/-- **Which check comes first.** There are suspects, their names are distinct, somebody may be the
culprit, everybody has one template. -/
theorem start_cases (profiles : List Profile) (prompts : PromptStore) (policy : CulpritPolicy)
    (settings : Settings) :
    (profiles = [] ∧ start profiles prompts policy settings = .error .noProfiles) ∨
      (∃ name, FirstRepeat (profiles.map Profile.name) name ∧
        start profiles prompts policy settings = .error (.duplicateNpc name)) ∨
      (profiles ≠ [] ∧ (profiles.map Profile.name).Nodup ∧ (∀ p ∈ profiles, ¬ policy.Admits p) ∧
        start profiles prompts policy settings = .error (.noEligibleCulprit policy.describe)) ∨
      ∃ culprit, (profiles.map Profile.name).Nodup ∧ policy.Picks profiles culprit ∧
        ((∃ e, enlist prompts settings (markCulprit culprit profiles) = .error e ∧
            start profiles prompts policy settings = .error (.prompt e)) ∨
          ∃ sessions t, enlist prompts settings (markCulprit culprit profiles) = .ok sessions ∧
            start profiles prompts policy settings = .ok t ∧ t.sessions = sessions ∧
            t.active = 0 ∧ t.culprit = culprit) := by
  unfold start
  split
  · next hempty => exact .inl ⟨List.isEmpty_iff.1 hempty, rfl⟩
  · next hempty =>
    split
    · next name hname => exact .inr (.inl ⟨name, firstRepeated_eq_some hname .nil, rfl⟩)
    · next hnames =>
      have hnodup := (nodup_of_firstRepeated hnames).1
      unfold CulpritPolicy.select
      cases hselect : policy.select? profiles with
      | none =>
        exact .inr (.inr (.inl ⟨fun hnil => hempty (List.isEmpty_iff.2 hnil), hnodup,
          CulpritPolicy.select?_eq_none hselect, rfl⟩))
      | some culprit =>
        refine .inr (.inr (.inr ⟨culprit, hnodup, CulpritPolicy.picks_of_select? hselect, ?_⟩))
        dsimp only
        split
        · next e he => exact .inl ⟨e, he, rfl⟩
        · next sessions hsessions => exact .inr ⟨sessions, _, hsessions, rfl, rfl, rfl, rfl⟩

/-! ## A town and what becomes of it -/

/-- What may become of a town: the detective does something, in whatever company and with whatever
success, or takes another name. -/
inductive Later (t : Town) : Town → Prop
  | now : Later t t
  | done {t'} (c : Company) (o : Operation) : Later t t' → Later t (t'.perform c o)
  | renamed {t'} (name : String) : Later t t' → Later t { t' with detective := name }

/-- Whatever becomes of a town, nobody's profile or place changes, nor who is the culprit. -/
theorem Later.same {t t' : Town} (h : t.Later t') :
    t'.profiles = t.profiles ∧ t'.culprit = t.culprit := by
  induction h with
  | now => exact ⟨rfl, rfl⟩
  | @done t' c o _ ih =>
    exact ⟨(t'.profiles_perform c o).trans ih.1, (t'.culprit_perform c o).trans ih.2⟩
  | renamed name _ ih => exact ih

/-- Those who live in a town, with distinct names, exactly one of them marked, and that is the
culprit; the detective is talking to one of them. -/
structure Peopled (people : List Profile) (culprit : Nat) (t : Town) : Prop where
  profiles : t.profiles = people
  place : t.culprit = culprit
  names : (t.profiles.map Profile.name).Nodup
  marked : ∀ (i : Nat) (p : Profile), t.profiles[i]? = some p → (p.isCulprit = true ↔ i = culprit)
  one : t.profiles.countP Profile.isCulprit = 1
  culpritName : people[culprit]?.map Profile.name = some t.culpritName
  active : t.active < t.profiles.length

theorem culpritName_eq (t : Town) :
    t.profiles[t.culprit]?.map Profile.name = some t.culpritName := by
  rw [profiles, List.getElem?_map, List.getElem?_eq_getElem t.culprit_lt]
  rfl

theorem active_lt_profiles (t : Town) : t.active < t.profiles.length := by
  rw [profiles, List.length_map]
  exact t.active_lt

/-- **Who lives in a town, and who is the culprit, never changes.** -/
theorem Peopled.later {people : List Profile} {culprit : Nat} {t t' : Town}
    (h : Peopled people culprit t) (hlater : t.Later t') : Peopled people culprit t' := by
  have hkeeps {u : Town} (hprofiles : u.profiles = t.profiles) (hculprit : u.culprit = t.culprit) :
      Peopled people culprit u := by
    refine ⟨hprofiles.trans h.profiles, hculprit.trans h.place, ?_, ?_, ?_, ?_,
      u.active_lt_profiles⟩
    · rw [hprofiles]
      exact h.names
    · rw [hprofiles]
      exact h.marked
    · rw [hprofiles]
      exact h.one
    · rw [← u.culpritName_eq, hprofiles, hculprit, h.profiles, h.place]
  exact hkeeps hlater.same.1 hlater.same.2

theorem Peopled.of_marked {culprit : Nat} {t : Town} (hnames : (profiles.map Profile.name).Nodup)
    (hprofiles : t.profiles = markCulprit culprit profiles) (hculprit : t.culprit = culprit) :
    Peopled (markCulprit culprit profiles) culprit t where
  profiles := hprofiles
  place := hculprit
  names := by
    rw [hprofiles, names_markCulprit]
    exact hnames
  marked := by
    intro i p hp
    rw [hprofiles] at hp
    rw [isCulprit_markCulprit hp, decide_eq_true_iff]
  one := by
    have hlt : culprit < t.profiles.length := by
      rw [← hculprit, Town.profiles, List.length_map]
      exact t.culprit_lt
    rw [hprofiles] at hlt ⊢
    exact countP_of_only hlt fun i hi => isCulprit_markCulprit (List.getElem?_eq_getElem hi)
  culpritName := by
    rw [← t.culpritName_eq, hprofiles, hculprit]
  active := t.active_lt_profiles

/-- How a town turns out whose culprit is picked. -/
theorem enlisted {culprit : Nat} {result : Except TownError Town}
    (hnames : (profiles.map Profile.name).Nodup)
    (h : (∃ e, enlist prompts settings (markCulprit culprit profiles) = .error e ∧
        result = .error (.prompt e)) ∨
      ∃ sessions t, enlist prompts settings (markCulprit culprit profiles) = .ok sessions ∧
        result = .ok t ∧ t.sessions = sessions ∧ t.active = 0 ∧ t.culprit = culprit) :
    let people := markCulprit culprit profiles
    (∀ e, result = .error e ↔ ∃ cause, FirstMisfit prompts people cause ∧ e = .prompt cause) ∧
      ((∀ p ∈ people, prompts.matching p = 1) →
        ∃ t, result = .ok t ∧ List.Forall₂ (Instructed prompts settings) people t.sessions ∧
          t.active = 0 ∧ ∀ t', t.Later t' → Peopled people culprit t') := by
  intro people
  rcases h with ⟨cause, henlist, rfl⟩ | ⟨_, t, henlist, rfl, rfl, hactive, hculprit⟩
  · -- an enlisting that fails names the first misfit
    have hmisfit : FirstMisfit prompts people cause := by
      rcases enlist_cases prompts settings people with ⟨e, he, herror⟩ | ⟨_, -, -, hok⟩
      · rw [henlist] at herror
        cases herror
        exact he
      · rw [henlist] at hok
        cases hok
    refine ⟨fun e => ⟨?_, ?_⟩, fun hfit => ?_⟩
    · rintro ⟨⟩
      exact ⟨cause, hmisfit, rfl⟩
    · -- and there is one first misfit only
      rintro ⟨cause', hmisfit', rfl⟩
      have henlist' := enlist_misfit settings hmisfit'
      rw [henlist] at henlist'
      cases henlist'
      rfl
    · obtain ⟨before, p, after, hwhole, -, hp⟩ := hmisfit
      have hone : prompts.matching p = 1 := hfit p (hwhole ▸ by simp)
      omega
  · refine ⟨fun e => iff_of_false nofun ?_, fun _ => ⟨t, rfl, ?_, hactive, fun t' hlater => ?_⟩⟩
    · -- an enlisting that succeeds met no misfit
      rintro ⟨cause, hmisfit, -⟩
      rw [enlist_misfit settings hmisfit] at henlist
      cases henlist
    · exact instructed_of_enlist henlist
    · exact (Peopled.of_marked hnames (profiles_enlist henlist) hculprit).later hlater

/-- **A town is set up just when it should be, and is the same town for good.** Without suspects there is
none; then the first name that repeats another is told, then that nobody may be the culprit. Otherwise
somebody whom the policy picks is marked, and only they; then the first who has no template or more than
one is told. If there is none such, everybody has a session with the instructions from the template, the
detective begins with the first, and whatever happens later, the same people live there, with distinct
names, and the same one of them alone is marked. -/
theorem start_exactly (profiles : List Profile) (prompts : PromptStore) (policy : CulpritPolicy)
    (settings : Settings) :
    let result := start profiles prompts policy settings
    let names := profiles.map Profile.name
    (result = .error .noProfiles ↔ profiles = []) ∧
      (∀ name, result = .error (.duplicateNpc name) ↔ FirstRepeat names name) ∧
      (∀ rule, result = .error (.noEligibleCulprit rule) ↔
        rule = policy.describe ∧ profiles ≠ [] ∧ names.Nodup ∧ ∀ p ∈ profiles, ¬ policy.Admits p) ∧
      (names.Nodup → (∃ p ∈ profiles, policy.Admits p) →
        ∃ culprit, policy.Picks profiles culprit ∧
          let people := markCulprit culprit profiles
          (∀ e, result = .error e ↔ ∃ cause, FirstMisfit prompts people cause ∧ e = .prompt cause) ∧
            ((∀ p ∈ people, prompts.matching p = 1) →
              ∃ t, result = .ok t ∧ List.Forall₂ (Instructed prompts settings) people t.sessions ∧
                t.active = 0 ∧ ∀ t', t.Later t' → Peopled people culprit t')) := by
  intro result names
  have hresult : start profiles prompts policy settings = result := rfl
  have hnil_names : profiles = [] → names.Nodup := by
    rintro hnil
    rw [show names = profiles.map Profile.name from rfl, hnil]
    exact .nil
  -- one case for each check that can fail and one for the rest; a check that fails rules out the
  -- others' errors
  rcases start_cases profiles prompts policy settings with ⟨hnil, h⟩ | ⟨name, hname, h⟩ |
    ⟨hsome, hnames, hnobody, h⟩ | ⟨culprit, hnames, hpicks, hrest⟩
  · -- nobody to start with
    rw [hresult] at h
    refine ⟨iff_of_true h hnil, fun name => iff_of_false (by simp [h]) ?_,
      fun rule => iff_of_false (by simp [h]) ?_, ?_⟩
    · exact fun hname => hname.not_nodup (hnil_names hnil)
    · exact fun hrule => hrule.2.1 hnil
    · rintro - ⟨p, hp, -⟩
      rw [hnil] at hp
      cases hp
  · -- a name that is repeated, and the first such name is the only one
    rw [hresult] at h
    refine ⟨iff_of_false (by simp [h]) fun hnil => hname.not_nodup (hnil_names hnil),
      fun name' => ?_, fun rule => iff_of_false (by simp [h]) fun hrule => ?_, fun hnodup => ?_⟩
    · rw [h]
      constructor
      · rintro ⟨⟩
        exact hname
      · intro hname'
        rw [hname.unique hname']
    · exact hname.not_nodup hrule.2.2.1
    · exact absurd hnodup hname.not_nodup
  · -- nobody whom the policy admits
    rw [hresult] at h
    refine ⟨iff_of_false (by simp [h]) hsome, fun name => iff_of_false (by simp [h]) ?_,
      fun rule => ?_, ?_⟩
    · exact fun hname => hname.not_nodup hnames
    · rw [h]
      constructor
      · rintro ⟨⟩
        exact ⟨rfl, hsome, hnames, hnobody⟩
      · rintro ⟨rfl, -⟩
        rfl
    · rintro - ⟨p, hp, hadmits⟩
      exact absurd hadmits (hnobody p hp)
  · -- a culprit is picked: what can still fail is the enlisting
    rw [hresult] at hrest
    obtain ⟨p, hp, hadmits⟩ := hpicks.admitted
    have hmem : p ∈ profiles := List.mem_of_getElem? hp
    -- so no error but that of a prompt comes out
    have hother {e : TownError} (he : ∀ cause, e ≠ .prompt cause) : result ≠ .error e := by
      intro h
      rcases hrest with ⟨cause, -, hprompt⟩ | ⟨sessions, t, -, hok, -⟩
      · rw [hprompt] at h
        exact he cause (Except.error.inj h).symm
      · rw [hok] at h
        cases h
    refine ⟨iff_of_false (hother nofun) (List.ne_nil_of_mem hmem),
      fun name => iff_of_false (hother nofun) fun hname => hname.not_nodup hnames,
      fun rule => iff_of_false (hother nofun) fun hrule => hrule.2.2.2 p hmem hadmits,
      fun _ _ => ⟨culprit, hpicks, enlisted hnames hrest⟩⟩

/-- All who come are marked. Of those who are not farmers a seed picks one, who alone stays marked. -/
theorem start_exactly_of_all_marked :
    let profiles := SampleTown.profiles.map fun p => { p with isCulprit := true }
    let policy := CulpritPolicy.excludeRole " Farmer " 7
    ∃ culprit t, policy.Picks profiles culprit ∧
      start profiles SampleTown.prompts policy .default = .ok t ∧ t.active = 0 ∧
      ∀ t', t.Later t' → Peopled (markCulprit culprit profiles) culprit t' := by
  intro profiles policy
  have hnames : (profiles.map Profile.name).Nodup := by decide +kernel
  have hsomebody : ∃ p ∈ profiles, policy.Admits p :=
    ⟨{ Profile.new "Mara" "Innkeeper" "a ledger, a cellar key" with isCulprit := true },
      by decide +kernel, show _ ≠ _ by decide +kernel⟩
  obtain ⟨culprit, hpicks, -, hfounded⟩ :=
    (start_exactly profiles SampleTown.prompts policy .default).2.2.2 hnames hsomebody
  -- every role has a template for the culprit and one for the others
  have hfit : ∀ p ∈ profiles, ∀ marked : Bool,
      SampleTown.prompts.matching { p with isCulprit := marked } = 1 := by decide +kernel
  obtain ⟨t, hstart, -, hactive, hlater⟩ := hfounded (by
    intro p hp
    obtain ⟨place, hplace⟩ := List.mem_iff_getElem?.1 hp
    rw [markCulprit, List.getElem?_mapIdx, Option.map_eq_some_iff] at hplace
    obtain ⟨q, hq, rfl⟩ := hplace
    exact hfit q (List.mem_of_getElem? hq) _)
  exact ⟨culprit, t, hpicks, hstart, hactive, hlater⟩

end Town

end Inquest

import Inquest.Proofs.Session.Rounds
import Inquest.Proofs.Tool.Parameters
import Inquest.Town.Talk
import Mathlib.Logic.Relation

/-! # What holds of a town from its start on

Whatever the detective does, the suspects keep their profiles and their places (`Sound`): the names
are distinct, exactly the culprit is marked, and the arguments on record are sorted.

* `Step`: what may happen to a town; a reply may be dropped after any of its chunks.
* `sound_start`, `Sound.step`, `Sound.run`: a town is sound at its start, after a step, after a run.
-/

namespace Inquest

/-! ## Sorted transcripts -/

/-- The arguments of the action, if there is one, are sorted. -/
def Turn.Sorted (t : Turn) : Prop := ∀ i ∈ t.activity, i.parameters.Sorted

/-- The arguments of all its actions are sorted. -/
def Transcript.Sorted (t : Transcript) : Prop := ∀ turn ∈ t, turn.Sorted

/-- Arguments are never kept otherwise than sorted: whoever is given sorted arguments puts sorted
arguments on record. -/
def Executor.Orderly {ε : Type} (executor : Executor ε) : Prop :=
  ∀ {now e name p i e'}, p.Sorted → executor.perform now e name p = (.finished (.ok i), e') →
    i.parameters.Sorted

namespace Session

variable {σ ε : Type}

theorem perform_sorted {executor : Executor ε} (h : executor.Orderly) {now : Timestamp}
    {tools : Toolbox} {e e' : ε} {c : Call} {i : Invocation}
    (hi : perform executor now tools e c = (some i, e')) : i.parameters.Sorted := by
  have hfailed (error : ActionError) : (failedCall now c.name error).parameters.Sorted := .nil
  unfold perform at hi
  split at hi
  · cases hi
    exact hfailed _
  · split at hi
    · cases hi
      exact hfailed _
    · next p hp =>
      split at hi
      · next hperform =>
        cases hi
        exact h (Parameters.sorted_parse hp) hperform
      · cases hi
        exact hfailed _
      · cases hi
        exact hfailed _
      · cases hi

theorem brings_sorted {executor : Executor ε} (h : executor.Orderly) :
    Brings executor fun i => i.parameters.Sorted := by
  intro now tools calls e is finished e' hc
  induction calls generalizing e is with
  | nil =>
    cases hc
    exact nofun
  | cons c rest ih =>
    unfold carryOut at hc
    split at hc
    · cases hc
      exact nofun
    · next i state hi =>
      cases hc
      intro j hj
      rcases List.mem_cons.1 hj with rfl | hj
      · exact perform_sorted h hi
      · exact ih rfl j hj

theorem sorted_concat {t : Transcript} {turn : Turn} (ht : t.Sorted) (hturn : turn.Sorted) :
    Transcript.Sorted (t ++ [turn]) := by
  intro u hu
  rcases List.mem_append.1 hu with hu | hu
  · exact ht u hu
  · rw [List.mem_singleton.1 hu]
    exact hturn

/-- **A turn leaves the profile as it is and the transcript sorted**, however far it is followed. -/
theorem turn_sound (ask : Asking σ) {executor : Executor ε} (h : executor.Orderly) (now : Timestamp)
    (sender text : String) (scene : Scene σ ε) (hsorted : scene.session.transcript.Sorted)
    (k : Nat) :
    let s := ((turn ask executor now sender text scene).upTo k).2.session
    s.profile = scene.session.profile ∧ s.transcript.Sorted := by
  refine turn_keeps (P := fun s => s.profile = scene.session.profile ∧ s.transcript.Sorted)
    (brings_sorted h) ?spoken ?acted ?commit ?begin ask now sender text scene ⟨rfl, hsorted⟩ k
  case spoken => exact fun s now sender recipient text hs => ⟨hs.1, sorted_concat hs.2 nofun⟩
  case acted =>
    intro s sender i hi hs
    refine ⟨hs.1, sorted_concat hs.2 fun j hj => ?_⟩
    cases hj
    exact hi
  case commit => exact fun s r items hs => hs
  case begin => exact fun now sender text s hs => ⟨hs.1, sorted_concat hs.2 nofun⟩

end Session

namespace Town

/-! ## The invariant -/

/-- Names are distinct, exactly the culprit is marked, and the arguments on record are sorted. -/
structure Sound (t : Town) : Prop where
  names : (t.profiles.map Profile.name).Nodup
  marked : ∀ {i p}, t.profiles[i]? = some p → p.isCulprit = decide (i = t.culprit)
  sorted : ∀ s ∈ t.sessions, s.transcript.Sorted

theorem profiles_setActive {t : Town} {s : Session} (h : s.profile = t.activeSession.profile) :
    (t.setActive s).profiles = t.profiles := by
  have hlt : t.active < (t.sessions.map Session.profile).length := by
    rw [List.length_map]
    exact t.active_lt
  have hactive : t.activeSession.profile = (t.sessions.map Session.profile)[t.active] := by
    rw [List.getElem_map]
    rfl
  show (t.sessions.set t.active s).map Session.profile = t.sessions.map Session.profile
  rw [List.map_set, h, hactive, List.set_getElem_self]

namespace Sound

variable {t t' : Town}

theorem activeSession (h : t.Sound) : t.activeSession.transcript.Sorted :=
  h.sorted _ (List.getElem_mem t.active_lt)

/-- The conversation with the active suspect may go on as long as it stays their own. -/
theorem setActive (h : t.Sound) {s : Session} (hprofile : s.profile = t.activeSession.profile)
    (hsorted : s.transcript.Sorted) : (t.setActive s).Sound where
  names := by
    rw [profiles_setActive hprofile]
    exact h.names
  marked := by
    rw [profiles_setActive hprofile]
    exact h.marked
  sorted := by
    intro u hu
    rcases List.mem_or_eq_of_mem_set hu with hu | rfl
    · exact h.sorted u hu
    · exact hsorted

theorem switchTo (h : t.Sound) {name : String} (hs : t.switchTo name = .ok t') : t'.Sound := by
  unfold Town.switchTo at hs
  split at hs
  · cases hs
    exact ⟨h.names, h.marked, h.sorted⟩
  · cases hs

theorem switchToIndex (h : t.Sound) {index : Nat} (hs : t.switchToIndex index = .ok t') :
    t'.Sound := by
  unfold Town.switchToIndex at hs
  split at hs
  · cases hs
    exact ⟨h.names, h.marked, h.sorted⟩
  · cases hs

theorem updateInstructions (h : t.Sound) {changed : Bool}
    (hu : t.updateInstructions = .ok (changed, t')) : t'.Sound := by
  unfold Town.updateInstructions at hu
  split at hu
  · cases hu
  · cases hu
    exact h
  · cases hu
    exact h.setActive rfl h.activeSession

end Sound

/-! ## A new town -/

theorem nodup_of_firstRepeated {earlier names : List String}
    (h : firstRepeated earlier names = none) :
    names.Nodup ∧ ∀ n ∈ names, n ∉ earlier := by
  induction names generalizing earlier with
  | nil => exact ⟨.nil, nofun⟩
  | cons n rest ih =>
    unfold firstRepeated at h
    split at h
    · cases h
    · next hn =>
      obtain ⟨hrest, hearlier⟩ := ih h
      refine ⟨List.nodup_cons.2 ⟨fun hmem => hearlier n hmem List.mem_cons_self, hrest⟩, ?_⟩
      intro m hm
      rcases List.mem_cons.1 hm with rfl | hm
      · rwa [List.contains_iff_mem] at hn
      · exact fun hmem => hearlier m hm (List.mem_cons_of_mem _ hmem)

/-- Nobody's name changes when the culprit is marked. -/
theorem names_markCulprit (culprit : Nat) (profiles : List Profile) :
    (markCulprit culprit profiles).map Profile.name = profiles.map Profile.name := by
  refine List.ext_getElem? fun i => ?_
  rw [markCulprit, List.getElem?_map, List.getElem?_mapIdx, List.getElem?_map, Option.map_map]
  rfl

theorem isCulprit_markCulprit {culprit i : Nat} {profiles : List Profile} {p : Profile}
    (h : (markCulprit culprit profiles)[i]? = some p) : p.isCulprit = decide (i = culprit) := by
  rw [markCulprit, List.getElem?_mapIdx, Option.map_eq_some_iff] at h
  obtain ⟨q, _, rfl⟩ := h
  exact Bool.beq_eq_decide_eq i culprit

theorem transcript_enlist {prompts : PromptStore} {settings : Settings} {profiles : List Profile}
    {sessions : List Session} (h : enlist prompts settings profiles = .ok sessions) :
    ∀ s ∈ sessions, s.transcript = [] := by
  induction profiles generalizing sessions with
  | nil =>
    cases h
    exact nofun
  | cons p rest ih =>
    rw [enlist, bind_eq_ok] at h
    obtain ⟨instructions, _, h⟩ := h
    rw [bind_eq_ok] at h
    obtain ⟨others, hothers, h⟩ := h
    cases h
    intro s hs
    rcases List.mem_cons.1 hs with rfl | hs
    · rfl
    · exact ih hothers s hs

/-- **A new town is sound.** -/
theorem sound_start {profiles : List Profile} {prompts : PromptStore} {policy : CulpritPolicy}
    {settings : Settings} {t : Town} (h : start profiles prompts policy settings = .ok t) :
    t.Sound := by
  unfold start at h
  split at h
  · cases h
  · split at h
    · cases h
    · next hrepeated =>
      split at h
      · cases h
      · next culprit _ =>
        split at h
        · cases h
        · next sessions henlist =>
          cases h
          have hprofiles : sessions.map Session.profile = markCulprit culprit profiles :=
            profiles_enlist henlist
          refine ⟨?names, ?marked, ?sorted⟩
          case names =>
            show ((sessions.map Session.profile).map Profile.name).Nodup
            rw [hprofiles, names_markCulprit]
            exact (nodup_of_firstRepeated hrepeated).1
          case marked =>
            intro i p hp
            change (sessions.map Session.profile)[i]? = some p at hp
            rw [hprofiles] at hp
            exact isCulprit_markCulprit hp
          case sorted =>
            intro s hs
            rw [transcript_enlist henlist s hs]
            exact fun turn hturn => absurd hturn List.not_mem_nil

end Town

/-! ## What may happen to a town -/

namespace Play

variable {σ ε : Type}

/-- The play as it is left by whoever stops listening after some chunks; if there is nothing to
listen to, it stays as it is. -/
def left (heard : Except TownError (Told (Play σ ε)) × Play σ ε) (chunks : Nat) : Play σ ε :=
  match heard with
  | (.ok told, p) => told.after p chunks
  | (.error _, p) => p

end Play

namespace Town

/-- What may happen to a town. The model, those who carry out actions and the states that they are
in may be others every time. -/
inductive Step : Town → Town → Prop
  | renamed {t} (name : String) : Step t { t with detective := name }
  | equipped {t} (inventory : Option Inventory) : Step t { t with inventory := inventory }
  | turned {t t' name} : t.switchTo name = .ok t' → Step t t'
  | turnedTo {t t' index} : t.switchToIndex index = .ok t' → Step t t'
  | updated {t t' changed} : t.updateInstructions = .ok (changed, t') → Step t t'
  | sent {t} {σ ε : Type} (model : Model σ) (casting : Casting ε) (now : Timestamp) (text : String)
      (a : σ) (e : ε) : (∀ p ps, (casting p ps).Orderly) →
    Step t ((Play.mk t a e).send model casting now text).2.town
  | talked {t} {σ ε : Type} (model : Model σ) (casting : Casting ε) (now : Timestamp)
      (name text : String) (a : σ) (e : ε) : (∀ p ps, (casting p ps).Orderly) →
    Step t ((Play.mk t a e).talk model casting now name text).2.town
  /-- A reply is streamed and dropped after some chunks, or followed to its end. -/
  | streamed {t} {σ ε : Type} (model : Model σ) (casting : Casting ε) (now : Timestamp)
      (text : String) (a : σ) (e : ε) (chunks : Nat) : (∀ p ps, (casting p ps).Orderly) →
    Step t (Play.left ((Play.mk t a e).stream model casting now text) chunks).town
  | streamedTo {t} {σ ε : Type} (model : Model σ) (casting : Casting ε) (now : Timestamp)
      (name text : String) (a : σ) (e : ε) (chunks : Nat) : (∀ p ps, (casting p ps).Orderly) →
    Step t (Play.left ((Play.mk t a e).streamTo model casting now name text) chunks).town

/-- What may happen to a town in time. -/
abbrev Run : Town → Town → Prop := Relation.ReflTransGen Step

end Town

namespace Play

variable {σ ε : Type} {p p' : Play σ ε}

theorem sound_turnTo (h : p.town.Sound) {name : String} (hp : p.turnTo name = .ok p') :
    p'.town.Sound := by
  rw [turnTo] at hp
  rcases hs : p.town.switchTo name with reason | t
  · rw [hs] at hp
    cases hp
  · rw [hs] at hp
    cases hp
    exact h.switchTo hs

theorem sound_update (h : p.town.Sound) (hp : p.update = .ok p') : p'.town.Sound := by
  unfold update at hp
  split at hp
  · next hu =>
    cases hp
    exact h.updateInstructions hu
  · cases hp

section
variable {casting : Casting ε} (horderly : ∀ p ps, (casting p ps).Orderly)
include horderly

/-- A turn with the active suspect, however far it is followed. -/
theorem sound_turn (h : p.town.Sound) (ask : Asking σ) (now : Timestamp) (text : String) (k : Nat) :
    (p.resume ((Session.turn ask (p.activeExecutor casting) now p.town.detective text p.scene).upTo
      k).2).town.Sound := by
  obtain ⟨hprofile, hsorted⟩ := Session.turn_sound ask (horderly p.town.activeSession.profile
    p.town.profiles) now p.town.detective text p.scene h.activeSession k
  exact h.setActive hprofile hsorted

theorem sound_send (h : p.town.Sound) (model : Model σ) (now : Timestamp) (text : String) :
    (p.send model casting now text).2.town.Sound := by
  unfold send
  split
  · exact h
  · next p' hp =>
    have hturn := sound_turn horderly (sound_update h hp) model.byResponse now text
      (Session.turn model.byResponse (p'.activeExecutor casting) now p'.town.detective text
        p'.scene).chunks.length
    rw [Told.upTo_length] at hturn
    rw [Session.send_eq]
    exact hturn

theorem sound_stream (h : p.town.Sound) (model : Model σ) (now : Timestamp) (text : String)
    (chunks : Nat) : (left (p.stream model casting now text) chunks).town.Sound := by
  unfold stream
  split
  · exact h
  · next p' hp =>
    have hp' := sound_update h hp
    cases chunks with
    | zero => exact hp'
    | succ k =>
      show ((Told.map _ (Session.stream ..)).after p' (k + 1)).town.Sound
      rw [Told.after_succ, Told.upTo_map, Session.stream_eq]
      exact sound_turn horderly hp' model.byEvents now text k

theorem sound_talk (h : p.town.Sound) (model : Model σ) (now : Timestamp) (name text : String) :
    (p.talk model casting now name text).2.town.Sound := by
  unfold talk
  split
  · exact h
  · next hp => exact sound_send horderly (sound_turnTo h hp) model now text

theorem sound_streamTo (h : p.town.Sound) (model : Model σ) (now : Timestamp) (name text : String)
    (chunks : Nat) : (left (p.streamTo model casting now name text) chunks).town.Sound := by
  unfold streamTo
  split
  · exact h
  · next hp => exact sound_stream horderly (sound_turnTo h hp) model now text chunks

end

end Play

namespace Town.Sound

variable {t t' : Town}

/-- **Nothing that happens to a town makes it unsound.** -/
theorem step (h : t.Sound) (hstep : t.Step t') : t'.Sound := by
  cases hstep with
  | renamed name => exact ⟨h.names, h.marked, h.sorted⟩
  | equipped inventory => exact ⟨h.names, h.marked, h.sorted⟩
  | turned hs => exact h.switchTo hs
  | turnedTo hs => exact h.switchToIndex hs
  | updated hu => exact h.updateInstructions hu
  | sent model casting now text a e horderly =>
    exact Play.sound_send (p := ⟨t, a, e⟩) horderly h model now text
  | talked model casting now name text a e horderly =>
    exact Play.sound_talk (p := ⟨t, a, e⟩) horderly h model now name text
  | streamed model casting now text a e chunks horderly =>
    exact Play.sound_stream (p := ⟨t, a, e⟩) horderly h model now text chunks
  | streamedTo model casting now name text a e chunks horderly =>
    exact Play.sound_streamTo (p := ⟨t, a, e⟩) horderly h model now name text chunks

/-- **A town stays sound.** -/
theorem run (h : t.Sound) (hrun : t.Run t') : t'.Sound := by
  induction hrun with
  | refl => exact h
  | tail _ hstep ih => exact ih.step hstep

end Town.Sound

end Inquest

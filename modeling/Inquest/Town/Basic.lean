import Inquest.Prompt.Store
import Inquest.Town.Culprit

/-! # The town

A `Town` holds a session for every suspect, knows the culprit, and whom the detective is talking to.
A name stands for the first session that has it.

* `start`: a new town; what is wrong with it is told in a fixed order.
* `ofSessions`: a town of sessions that exist already, one of them marked as the culprit's.
* `switchTo`, `switchToIndex`: whom the detective talks to.
* `updateInstructions`: the evidence told to the one talked to.
-/

namespace Inquest

/-- The suspects and the detective's place among them. -/
structure Town where
  sessions : List Session
  /-- The place of the one whom the detective is talking to. -/
  active : Nat
  /-- The place of the culprit. -/
  culprit : Nat
  detective : String
  /-- Where the evidence is looked up. -/
  inventory : Option Inventory
  active_lt : active < sessions.length
  culprit_lt : culprit < sessions.length

namespace Town

/-- The detective's name unless another is given. -/
def defaultDetective : String := "Detective"

/-! ## A new town -/

/-- The first name that repeats an earlier one. -/
def firstRepeated : (earlier : List String) → List String → Option String
  | _, [] => none
  | earlier, n :: rest => if earlier.contains n then some n else firstRepeated (n :: earlier) rest

/-- The profiles with one of them marked as the culprit's. -/
def markCulprit (culprit : Nat) (profiles : List Profile) : List Profile :=
  profiles.mapIdx fun i p => { p with isCulprit := i == culprit }

/-- A session for every profile. -/
def enlist (prompts : PromptStore) (settings : Settings) :
    List Profile → Except PromptError (List Session)
  | [] => .ok []
  | p :: rest => do
    let instructions ← prompts.resolve p
    let others ← enlist prompts settings rest
    return .new p instructions settings :: others

theorem profiles_enlist {prompts : PromptStore} {settings : Settings} {profiles : List Profile}
    {sessions : List Session} (h : enlist prompts settings profiles = .ok sessions) :
    sessions.map Session.profile = profiles := by
  induction profiles generalizing sessions with
  | nil =>
    simp only [enlist, Except.ok.injEq] at h
    subst h
    rfl
  | cons p rest ih =>
    simp only [enlist, bind, Except.bind, pure, Except.pure] at h
    split at h
    · cases h
    · split at h
      · cases h
      · next h2 =>
        simp only [Except.ok.injEq] at h
        subst h
        simp [Session.new, ih h2]

theorem length_enlist {prompts : PromptStore} {settings : Settings} {profiles : List Profile}
    {sessions : List Session} (h : enlist prompts settings profiles = .ok sessions) :
    sessions.length = profiles.length := by
  rw [← profiles_enlist h, List.length_map]

/-- A new town: the culprit is picked and marked before the instructions are looked up, and the
detective turns to the first suspect. -/
def start (profiles : List Profile) (prompts : PromptStore) (policy : CulpritPolicy)
    (settings : Settings) : Except TownError Town :=
  if profiles.isEmpty then .error .noProfiles
  else
    match firstRepeated [] (profiles.map Profile.name) with
    | some name => .error (.duplicateNpc name)
    | none =>
      match policy.select profiles with
      | .error e => .error e
      | .ok culprit =>
        match h : enlist prompts settings (markCulprit culprit profiles) with
        | .error e => .error (.prompt e)
        | .ok sessions =>
          have hl : culprit < sessions.length := by
            rw [length_enlist h, markCulprit, List.length_mapIdx]
            exact culprit.isLt
          .ok {
            sessions := sessions
            active := 0
            culprit := culprit
            detective := defaultDetective
            inventory := none
            active_lt := Nat.zero_lt_of_lt hl
            culprit_lt := hl }

/-- A town of sessions that exist already, of which exactly one must be the culprit's. -/
def ofSessions (sessions : List Session) : Except TownError Town :=
  if sessions.isEmpty then .error .noProfiles
  else
    match sessions.findFinIdx? fun s => s.profile.isCulprit with
    | none => .error (.noEligibleCulprit "a restored town")
    | some culprit =>
      if sessions.countP (fun s => s.profile.isCulprit) = 1 then
        .ok {
          sessions := sessions
          active := 0
          culprit := culprit
          detective := defaultDetective
          inventory := none
          active_lt := Nat.zero_lt_of_lt culprit.isLt
          culprit_lt := culprit.isLt }
      else .error (.noEligibleCulprit "a restored town")

/-! ## Looking around -/

/-- The profiles of all suspects. -/
def profiles (t : Town) : List Profile := t.sessions.map Session.profile

/-- The session of a name. -/
def session? (t : Town) (name : String) : Option Session := t.sessions.find? fun s => s.name == name

/-- The session of the one whom the detective is talking to. -/
def activeSession (t : Town) : Session := t.sessions.get ⟨t.active, t.active_lt⟩

/-- The culprit's name. -/
def culpritName (t : Town) : String := (t.sessions.get ⟨t.culprit, t.culprit_lt⟩).name

/-- The transcript of a suspect. -/
def transcript? (t : Town) (name : String) : Option Transcript :=
  (t.session? name).map Session.transcript

/-- The evidence as it stands; without an inventory there is none. -/
def evidence (t : Town) : List Evidence := (t.inventory.map Inventory.items).getD []

/-! ## Turning to a suspect -/

/-- The detective turns to the suspect at a place. -/
def switchToIndex (t : Town) (index : Nat) : Except TownError Town :=
  if h : index < t.sessions.length then .ok { t with active := index, active_lt := h }
  else .error (.indexOutOfRange index t.sessions.length)

/-- The detective turns to the suspect of a name. -/
def switchTo (t : Town) (name : String) : Except TownError Town :=
  match t.sessions.findFinIdx? fun s => s.name == name with
  | some i => .ok { t with active := i, active_lt := i.isLt }
  | none => .error (.unknownNpc name)

/-- The town with another state of the conversation with the active suspect. -/
def setActive (t : Town) (s : Session) : Town :=
  { t with
    sessions := t.sessions.set t.active s
    active_lt := by rw [List.length_set]; exact t.active_lt
    culprit_lt := by rw [List.length_set]; exact t.culprit_lt }

theorem activeSession_setActive (t : Town) (s : Session) : (t.setActive s).activeSession = s := by
  simp [activeSession, setActive]

/-- The active suspect is told the evidence; whether the instructions changed. -/
def updateInstructions (t : Town) : Except Evidence.InjectError (Bool × Town) :=
  match Evidence.inject t.activeSession.instructions t.evidence with
  | .error e => .error e
  | .ok none => .ok (false, t)
  | .ok (some text) => .ok (true, t.setActive { t.activeSession with instructions := text })

end Town

end Inquest

import Inquest.Proofs.Session.Threading
import Inquest.Proofs.Town.Talking

/-! # Suspects do not interfere with each other

An `Operation` is something the detective does in a town. Which suspects it concerns is a matter of the
town's `Bearing` alone: of names, of whom the detective is talking to, of the evidence at hand, and of
nothing that was ever said.

* `Session.undergo`: what a deed, the evidence told and words said, does to one session.
* `Bearing.deeds`: the deeds that a list of operations does to the session at a place.
* `session_perform`, `session_performAll`: of an operation, and of a list of them, a session sees only
  its own deeds.
* `suspects_do_not_interfere`: so it is with every suspect, and nobody's profile or place changes.
-/

namespace Inquest

/-! ## Deeds -/

/-- A model and those who carry out actions, in the states in which an operation finds them. -/
structure Company : Type 1 where
  {σ ε : Type}
  model : Model σ
  casting : Casting ε
  modelState : σ
  executorState : ε

/-- What is done to the session of an active suspect: the evidence is told, and words may follow. -/
structure Deed : Type 1 where
  evidence : List Evidence
  suspects : List Profile
  said : Option (Company × Session.Message)

namespace Session

/-- The session after a deed; instructions that cannot take the evidence keep it from being done. -/
def undergo (s : Session) (d : Deed) : Session :=
  match s.informed d.evidence with
  | .error _ => s
  | .ok s =>
    match d.said with
    | none => s
    | some (c, m) =>
      let executor := c.casting s.profile d.suspects
      (m.deliver c.model executor ⟨s, c.modelState, c.executorState⟩).2.session

section
variable {P : Session → Prop}
  (hspoken : ∀ s now sender recipient text, P s → P (s.record (.spoken now sender recipient text)))
  (hacted : ∀ s sender i, P s → P (s.record (.acted s.name sender i)))
  (hcommit : ∀ s r items, P s → P (s.commit r items))
  (hbegin : ∀ now sender text s, P s → P (s.beginTurn now sender text))
include hspoken hacted hcommit hbegin

/-- What messages, records and commits keep is kept by a message delivered. -/
theorem deliver_keeps {σ ε : Type} (model : Model σ) (executor : Executor ε) (m : Message)
    (scene : Scene σ ε) (h : P scene.session) : P (m.deliver model executor scene).2.session := by
  have hturn (ask : Asking σ) (k : Nat) :
      P ((turn ask executor m.now m.sender m.text scene).upTo k).2.session :=
    turn_keeps (Q := fun _ => True) (fun _ _ _ => trivial) hspoken
      (fun s sender i _ => hacted s sender i) hcommit hbegin ask m.now m.sender m.text scene h k
  obtain ⟨now, sender, text, _ | _ | k⟩ := m
  · have hwhole := hturn model.byResponse
      (turn model.byResponse executor now sender text scene).chunks.length
    rw [Told.upTo_length] at hwhole
    simpa only [Message.deliver, send_eq] using hwhole
  · exact h
  · simpa only [Message.deliver, stream_eq] using hturn model.byEvents k

/-- What messages, records and commits keep holds after a deed if it holds as soon as the evidence is
told, or as things are where the evidence cannot be told. -/
theorem undergo_keeps {s : Session} {d : Deed}
    (hopen : Evidence.splitSection s.instructions.toList = .unclosed → P s)
    (hinformed : Evidence.splitSection s.instructions.toList ≠ .unclosed →
      P { s with instructions := Evidence.revised d.evidence s.instructions }) :
    P (s.undergo d) := by
  unfold undergo
  rw [informed_eq]
  by_cases h : Evidence.splitSection s.instructions.toList = .unclosed
  · rw [if_pos h]
    exact hopen h
  · rw [if_neg h]
    rcases d.said with _ | ⟨c, m⟩
    · exact hinformed h
    · exact deliver_keeps hspoken hacted hcommit hbegin c.model _ m _ (hinformed h)

end

/-- Nothing that is done to a session makes it another suspect's. -/
theorem profile_undergo (s : Session) (d : Deed) : (s.undergo d).profile = s.profile :=
  undergo_keeps (P := fun s' => s'.profile = s.profile) (fun _ _ _ _ _ h => h) (fun _ _ _ h => h)
    (fun _ _ _ h => h) (fun _ _ _ _ h => h) (fun _ => rfl) (fun _ => rfl)

/-- Of all that is done to a session only the evidence changes the instructions. -/
theorem instructions_undergo (s : Session) (d : Deed) :
    (s.undergo d).instructions = Evidence.revised d.evidence s.instructions := by
  refine undergo_keeps (P := fun s' => s'.instructions = Evidence.revised d.evidence s.instructions)
    (fun _ _ _ _ _ h => h) (fun _ _ _ h => h) (fun _ _ _ h => h) (fun _ _ _ _ h => h)
    (fun hopen => ?_) (fun _ => rfl)
  rw [Evidence.revised, hopen]

end Session

namespace Town

/-- The town after a deed to the active suspect. -/
def undergo (t : Town) (d : Deed) : Town := t.setActive (t.activeSession.undergo d)

theorem profiles_undergo (t : Town) (d : Deed) : (t.undergo d).profiles = t.profiles :=
  profiles_setActive (t.activeSession.profile_undergo d)

theorem activeSession_undergo (t : Town) (d : Deed) :
    (t.undergo d).sessions[t.active]? = some (t.activeSession.undergo d) :=
  List.getElem?_set_self t.active_lt

/-- A deed is done to the active suspect's session and to no other. -/
theorem session_undergo (t : Town) (d : Deed) (i : Nat) :
    (t.undergo d).sessions[i]? =
      t.sessions[i]?.map fun s => (if t.active = i then [d] else []).foldl Session.undergo s := by
  by_cases hi : t.active = i
  · subst hi
    rw [activeSession_undergo, List.getElem?_eq_getElem t.active_lt, if_pos rfl]
    rfl
  · rw [if_neg hi, undergo, setActive, List.getElem?_set_ne hi]
    cases t.sessions[i]? <;> rfl

end Town

/-! ## Operations -/

/-- Words of the detective: when and what, and after how many chunks a streamed reply is dropped;
without that the reply is waited for as a whole. -/
structure Words where
  now : Timestamp
  text : String
  chunks : Option Nat

/-- The words as a message. -/
def Words.by (w : Words) (sender : String) : Session.Message := ⟨w.now, sender, w.text, w.chunks⟩

/-- What the detective may do in a town. -/
inductive Operation
  | equip (inventory : Option Inventory)
  | turnTo (name : String)
  | turnToIndex (index : Nat)
  | update
  | speak (w : Words)
  | address (name : String) (w : Words)

namespace Play

variable {σ ε : Type} (model : Model σ) (casting : Casting ε)

/-- The play after words to the active suspect. -/
def speak (p : Play σ ε) (w : Words) : Play σ ε :=
  match w.chunks with
  | none => (p.send model casting w.now w.text).2
  | some k => left (p.stream model casting w.now w.text) k

/-- The play after words to a suspect by name. -/
def address (p : Play σ ε) (name : String) (w : Words) : Play σ ε :=
  match w.chunks with
  | none => (p.talk model casting w.now name w.text).2
  | some k => left (p.streamTo model casting w.now name w.text) k

/-- The play after an operation, which may fail. -/
def perform (p : Play σ ε) : Operation → Play σ ε
  | .equip inventory => { p with town := { p.town with inventory := inventory } }
  | .turnTo name =>
    match p.town.switchTo name with
    | .ok t => { p with town := t }
    | .error _ => p
  | .turnToIndex index =>
    match p.town.switchToIndex index with
    | .ok t => { p with town := t }
    | .error _ => p
  | .update =>
    match p.town.updateInstructions with
    | .ok (_, t) => { p with town := t }
    | .error _ => p
  | .speak w => p.speak model casting w
  | .address name w => p.address model casting name w

theorem speak_eq (p : Play σ ε) (w : Words) :
    p.speak model casting w =
      match p.town.activeSession.informed p.town.evidence with
      | .error _ => p
      | .ok s => p.resume ((w.by p.town.detective).deliver model (p.activeExecutor casting)
          ⟨s, p.model, p.executor⟩).2 := by
  obtain ⟨now, text, _ | k⟩ := w
  · simp only [speak, send_eq]
    cases p.town.activeSession.informed p.town.evidence <;> rfl
  · simp only [speak, stream_eq]
    cases p.town.activeSession.informed p.town.evidence with
    | error e => rfl
    | ok s =>
      cases k with
      | zero => rfl
      | succ k => simp only [left, Told.after_succ, Told.upTo_map, Words.by, Session.Message.deliver]

theorem town_speak (p : Play σ ε) (w : Words) :
    (p.speak model casting w).town = p.town.undergo ⟨p.town.evidence, p.town.profiles,
      some (⟨model, casting, p.model, p.executor⟩, w.by p.town.detective)⟩ := by
  rw [speak_eq, Town.undergo, Session.undergo, Session.informed_eq]
  by_cases hopen : Evidence.splitSection p.town.activeSession.instructions.toList = .unclosed
  · rw [if_pos hopen]
    exact p.town.setActive_activeSession.symm
  · rw [if_neg hopen]
    rfl

theorem address_eq (p : Play σ ε) (name : String) (w : Words) :
    p.address model casting name w =
      match p.town.switchTo name with
      | .error _ => p
      | .ok t => speak model casting { p with town := t } w := by
  obtain ⟨now, text, _ | k⟩ := w <;> simp only [address, talk, streamTo, turnTo] <;>
    cases p.town.switchTo name <;> rfl

end Play

/-! ## Bearings -/

/-- Who is in a town, whom the detective is talking to and with what at hand: a town without its
conversations. -/
structure Bearing where
  profiles : List Profile
  active : Nat
  detective : String
  inventory : Option Inventory

namespace Bearing

/-- The place of the suspect of a name. -/
def place? (b : Bearing) (name : String) : Option Nat :=
  b.profiles.findIdx? fun p => p.name == name

/-- The bearing with the detective turned to a suspect by name, if there is such a one. -/
def turn (b : Bearing) (name : String) : Bearing :=
  { b with active := (b.place? name).getD b.active }

theorem turn_absent {b : Bearing} {name : String} (h : b.place? name = none) : b.turn name = b := by
  rw [turn, h]
  rfl

/-- The bearing after an operation. -/
def after (b : Bearing) : Operation → Bearing
  | .equip inventory => { b with inventory := inventory }
  | .turnTo name | .address name _ => b.turn name
  | .turnToIndex index => if index < b.profiles.length then { b with active := index } else b
  | .update | .speak _ => b

theorem profiles_after (b : Bearing) (o : Operation) : (b.after o).profiles = b.profiles := by
  cases o with
  | turnToIndex index =>
    rw [after]
    split <;> rfl
  | _ => rfl

theorem detective_after (b : Bearing) (o : Operation) : (b.after o).detective = b.detective := by
  cases o with
  | turnToIndex index =>
    rw [after]
    split <;> rfl
  | _ => rfl

/-- The deed that is some words, or none, to the active suspect. -/
def deed (b : Bearing) (said : Option (Company × Words)) : Deed :=
  ⟨(b.inventory.map Inventory.items).getD [], b.profiles,
    said.map fun (c, w) => (c, w.by b.detective)⟩

/-- The deed that is done by an operation, if it comes to one. -/
def deed? (b : Bearing) (c : Company) : Operation → Option Deed
  | .update => some (b.deed none)
  | .speak w => some (b.deed (some (c, w)))
  | .address name w => (b.place? name).map fun _ => b.deed (some (c, w))
  | _ => none

/-- What an operation does to the session at a place: its deed, if the suspect there is the active one
then. -/
def deedsOf (b : Bearing) (i : Nat) (c : Company) (o : Operation) : List Deed :=
  if (b.after o).active = i then (b.deed? c o).toList else []

/-- What operations do to the session at a place. -/
def deeds (i : Nat) : Bearing → List (Company × Operation) → List Deed
  | _, [] => []
  | b, (c, o) :: os => b.deedsOf i c o ++ deeds i (b.after o) os

end Bearing

namespace Town

/-- The town's bearing. -/
def bearing (t : Town) : Bearing := ⟨t.profiles, t.active, t.detective, t.inventory⟩

/-- The town after an operation in company. -/
def perform (t : Town) (c : Company) (o : Operation) : Town :=
  (Play.perform c.model c.casting ⟨t, c.modelState, c.executorState⟩ o).town

/-- The town after operations, each in its own company. -/
def performAll (t : Town) (os : List (Company × Operation)) : Town :=
  os.foldl (fun t (c, o) => t.perform c o) t

/-- The town is as it was but for its bearing. -/
structure Turned (t : Town) (b : Bearing) (t' : Town) : Prop where
  sessions : t'.sessions = t.sessions
  culprit : t'.culprit = t.culprit
  bearing : t'.bearing = b

theorem bearing_undergo (t : Town) (d : Deed) : (t.undergo d).bearing = t.bearing := by
  rw [bearing, profiles_undergo]
  rfl

/-- Whether there is a suspect of a name is a matter of bearing. -/
theorem switchTo_cases (t : Town) (name : String) :
    (t.bearing.place? name = none ∧ t.switchTo name = .error (.unknownNpc name)) ∨
      ∃ i t', t.bearing.place? name = some i ∧ t.switchTo name = .ok t' ∧
        t.Turned (t.bearing.turn name) t' := by
  have hplace : t.bearing.place? name =
      (t.sessions.findFinIdx? fun s => s.name == name).map Fin.val := by
    rw [← List.findIdx?_eq_map_findFinIdx?_val]
    exact List.findIdx?_map ..
  unfold switchTo
  cases hfind : t.sessions.findFinIdx? fun s => s.name == name with
  | none =>
    rw [hfind] at hplace
    exact .inl ⟨hplace, rfl⟩
  | some i =>
    rw [hfind] at hplace
    exact .inr ⟨i, _, hplace, rfl, rfl, rfl, by rw [Bearing.turn, hplace]; rfl⟩

/-- **What an operation comes to:** the detective turns, then a deed is done if there is one. -/
theorem perform_cases (t : Town) (c : Company) (o : Operation) :
    ∃ t', t.Turned (t.bearing.after o) t' ∧
      t.perform c o =
        match t.bearing.deed? c o with
        | none => t'
        | some d => t'.undergo d := by
  -- an operation turns to a session, or to none, and then does at most one deed to it
  cases o with
  | equip inventory => exact ⟨{ t with inventory := inventory }, ⟨rfl, rfl, rfl⟩, rfl⟩
  | turnTo name =>
    rcases t.switchTo_cases name with ⟨hplace, hswitch⟩ | ⟨i, t', hplace, hswitch, hturned⟩
    · refine ⟨t, ⟨rfl, rfl, (Bearing.turn_absent hplace).symm⟩, ?_⟩
      simp only [perform, Play.perform, hswitch, Bearing.deed?]
    · refine ⟨t', hturned, ?_⟩
      simp only [perform, Play.perform, hswitch, Bearing.deed?]
  | turnToIndex index =>
    have hlength : t.bearing.profiles.length = t.sessions.length := List.length_map ..
    simp only [perform, Play.perform, switchToIndex, Bearing.after, Bearing.deed?, hlength]
    by_cases hi : index < t.sessions.length
    · rw [dif_pos hi, if_pos hi]
      exact ⟨{ t with active := index, active_lt := hi }, ⟨rfl, rfl, rfl⟩, rfl⟩
    · rw [dif_neg hi, if_neg hi]
      exact ⟨t, ⟨rfl, rfl, rfl⟩, rfl⟩
  | update =>
    refine ⟨t, ⟨rfl, rfl, rfl⟩, ?_⟩
    simp only [perform, Play.perform, updateInstructions_eq, Bearing.deed?, undergo, Session.undergo]
    -- an update that fails puts back the session it took
    show _ = t.setActive (match t.activeSession.informed t.evidence with
      | .error _ => t.activeSession
      | .ok s => s)
    cases t.activeSession.informed t.evidence with
    | error e => exact t.setActive_activeSession.symm
    | ok s => rfl
  | speak w => exact ⟨t, ⟨rfl, rfl, rfl⟩, Play.town_speak ..⟩
  | address name w =>
    simp only [perform, Play.perform, Play.address_eq, Bearing.deed?]
    rcases t.switchTo_cases name with ⟨hplace, hswitch⟩ | ⟨i, t', hplace, hswitch, hturned⟩
    · exact ⟨t, ⟨rfl, rfl, (Bearing.turn_absent hplace).symm⟩, by rw [hswitch, hplace]; rfl⟩
    · refine ⟨t', hturned, ?_⟩
      rw [hswitch, hplace]
      -- the detective turned before the words, but a deed does not depend on whom one turned to
      have hdeed : t'.bearing.deed (some (c, w)) = t.bearing.deed (some (c, w)) := by
        rw [hturned.bearing]
        rfl
      exact (Play.town_speak ..).trans (congrArg t'.undergo hdeed)

section
variable (t : Town) (c : Company) (o : Operation)

theorem bearing_perform : (t.perform c o).bearing = t.bearing.after o := by
  obtain ⟨t', hturned, hperform⟩ := t.perform_cases c o
  rw [hperform, ← hturned.bearing]
  cases t.bearing.deed? c o with
  | none => rfl
  | some d => exact t'.bearing_undergo d

theorem profiles_perform : (t.perform c o).profiles = t.profiles :=
  (congrArg Bearing.profiles (t.bearing_perform c o)).trans (Bearing.profiles_after ..)

theorem detective_perform : (t.perform c o).detective = t.detective :=
  (congrArg Bearing.detective (t.bearing_perform c o)).trans (Bearing.detective_after ..)

theorem culprit_perform : (t.perform c o).culprit = t.culprit := by
  obtain ⟨t', hturned, hperform⟩ := t.perform_cases c o
  rw [hperform, ← hturned.culprit]
  cases t.bearing.deed? c o <;> rfl

/-- **Of an operation a session sees its own deeds only.** -/
theorem session_perform (i : Nat) :
    (t.perform c o).sessions[i]? =
      t.sessions[i]?.map fun s => (t.bearing.deedsOf i c o).foldl Session.undergo s := by
  obtain ⟨t', hturned, hperform⟩ := t.perform_cases c o
  rw [hperform, ← hturned.sessions, Bearing.deedsOf, ← hturned.bearing]
  cases t.bearing.deed? c o with
  | none =>
    rw [Option.toList_none, ite_self]
    exact Option.map_id'.symm
  | some d => exact t'.session_undergo d i

end

/-! ## Runs -/

theorem profiles_performAll (t : Town) (os : List (Company × Operation)) :
    (t.performAll os).profiles = t.profiles := by
  induction os generalizing t with
  | nil => rfl
  | cons o os ih => exact (ih _).trans (t.profiles_perform o.1 o.2)

theorem culprit_performAll (t : Town) (os : List (Company × Operation)) :
    (t.performAll os).culprit = t.culprit := by
  induction os generalizing t with
  | nil => rfl
  | cons o os ih => exact (ih _).trans (t.culprit_perform o.1 o.2)

/-- **Of many operations a session sees its own deeds only.** -/
theorem session_performAll (t : Town) (os : List (Company × Operation)) (i : Nat) :
    (t.performAll os).sessions[i]? =
      t.sessions[i]?.map fun s => (t.bearing.deeds i os).foldl Session.undergo s := by
  induction os generalizing t with
  | nil => exact Option.map_id'.symm
  | cons o os ih =>
    obtain ⟨c, o⟩ := o
    -- the later deeds hang on the bearing after the first operation, not on the sessions
    show ((t.perform c o).performAll os).sessions[i]? = _
    rw [ih, session_perform, bearing_perform, Option.map_map]
    simp only [Bearing.deeds, List.foldl_append]
    rfl

end Town

namespace Play

variable {σ ε : Type} (model : Model σ) (casting : Casting ε)

/-- Operations, each in the company that a play is in when it comes to them. -/
def accompanied (p : Play σ ε) : List Operation → List (Company × Operation)
  | [] => []
  | o :: os =>
    (⟨model, casting, p.model, p.executor⟩, o) :: (p.perform model casting o).accompanied os

/-- In a play every operation is accompanied by what the earlier ones have made of the model and of
those who carry out actions. -/
theorem town_foldl_perform (p : Play σ ε) (os : List Operation) :
    (os.foldl (perform model casting) p).town =
      p.town.performAll (p.accompanied model casting os) := by
  induction os generalizing p with
  | nil => rfl
  | cons o os ih => exact ih (p.perform model casting o)

end Play

namespace Town

/-- **Suspects do not interfere with each other.** Whatever is done in a town, everybody keeps profile
and place, and every session is what its own deeds make of it. Nothing else matters: operations in
another order, or on other suspects, that come to the same deeds for a session make the same of it. -/
theorem suspects_do_not_interfere (t : Town) (os : List (Company × Operation)) :
    (t.performAll os).profiles = t.profiles ∧ (t.performAll os).culprit = t.culprit ∧
      (∀ i : Nat, (t.performAll os).sessions[i]? =
        t.sessions[i]?.map fun s => (t.bearing.deeds i os).foldl Session.undergo s) ∧
      ∀ (t' : Town) (os' : List (Company × Operation)) (i : Nat),
        t'.sessions[i]? = t.sessions[i]? → t'.bearing.deeds i os' = t.bearing.deeds i os →
          (t'.performAll os').sessions[i]? = (t.performAll os).sessions[i]? := by
  refine ⟨t.profiles_performAll os, t.culprit_performAll os, t.session_performAll os, ?_⟩
  intro t' os' i hsession hdeeds
  rw [session_performAll, session_performAll, hsession, hdeeds]

/-- A town of two. -/
def ofTwo : Town where
  sessions :=
    [.new (.new "Rosa" "cook" "a knife") "[COLLECTED EVIDENCE][END COLLECTED EVIDENCE]" .default,
      .new (.new "Bo" "guard" "a key") "[COLLECTED EVIDENCE][END COLLECTED EVIDENCE]" .default]
  active := 1
  culprit := 0
  detective := "Ann"
  inventory := none
  active_lt := by decide
  culprit_lt := by decide

/-- The first suspect is told of the rope and asked; whether the second was asked before that or after
it, with the rope or without it, is all the same to the first. -/
theorem suspects_do_not_interfere_ofTwo :
    let company : Company := ⟨Session.counting, fun _ _ => ⟨fun _ e _ _ => (.panicked, e)⟩, 0, ()⟩
    let rope : Company × Operation := (company, .equip (some (.fixed [⟨"rope", "wet"⟩])))
    let toRosa : Company × Operation := (company, .address "Rosa" ⟨default, "Hello.", none⟩)
    let toBo : Company × Operation := (company, .address "Bo" ⟨default, "Hi.", some 1⟩)
    ofTwo.bearing.deeds 0 [rope, toRosa, toBo] = ofTwo.bearing.deeds 0 [toBo, rope, toRosa] ∧
      (ofTwo.performAll [rope, toRosa, toBo]).sessions[0]? =
        (ofTwo.performAll [toBo, rope, toRosa]).sessions[0]? ∧
      (ofTwo.performAll [rope, toRosa, toBo]).sessions.map (fun s => s.history.length) = [2, 2] ∧
      (ofTwo.performAll [rope, toRosa, toBo]).sessions.map Session.instructions ≠
        (ofTwo.performAll [toBo, rope, toRosa]).sessions.map Session.instructions := by
  intro company rope toRosa toBo
  have hdeeds : ofTwo.bearing.deeds 0 [rope, toRosa, toBo] =
      ofTwo.bearing.deeds 0 [toBo, rope, toRosa] := by rfl
  exact ⟨hdeeds, (suspects_do_not_interfere ofTwo [toBo, rope, toRosa]).2.2.2 ofTwo _ 0 rfl hdeeds,
    by decide +kernel, by decide +kernel⟩

end Town

end Inquest

import Inquest.Proofs.Session.Rounds

/-! # The course of a turn

A turn is committed round by round until something brings it to a halt: the model fails or falls
silent, an executor never finishes, whoever listens stops, or there is a reply.

* `Dispatched`: calls carried out to their end. `carryOut_pending`: those before one that never ends.
* `Committed`: rounds committed one after the other, each with its response and its invocations.
* `Stops`: whether a round is the last, by what it brought and by how many went before it.
* `Halt`: where a turn may come to a halt after its committed rounds, and how things are then.
  `Halt.unreplied`, `Halt.replies`, `Halt.givenUp`: what follows from where it comes to a halt.
* `rounds_halt`: these are all the points at which a turn can be left (`Told.points`).
-/

namespace Inquest

/-- A chunk on the way to a reply. -/
def Chunk.Underway : Chunk → Prop
  | .done _ => False
  | _ => True

/-- What is heard last of a turn: a chunk, or its end. -/
inductive Point
  | told (c : Chunk)
  | ended (ending : Ending)

/-- The reply, once it was given. -/
def Point.reply? : Point → Option Reply
  | .told (.done r) => some r
  | .ended (.replied r) => some r
  | _ => none

theorem Chunk.Underway.reply? {c : Chunk} (h : c.Underway) : (Point.told c).reply? = none := by
  cases c with
  | done r => exact h.elim
  | _ => rfl

namespace Told

variable {α : Type}

/-- The points at which a turn can be left, with the state of things there. -/
def points (t : Told α) : List (Point × α) :=
  (t.chunks.map fun (c, a) => (.told c, a)) ++ [(.ended t.ending, t.final)]

theorem mem_points {t : Told α} {x : Point × α} :
    x ∈ t.points ↔ (∃ c ∈ t.chunks, x = (.told c.1, c.2)) ∨ x = (.ended t.ending, t.final) := by
  simp only [points, List.mem_append, List.mem_map, List.mem_singleton]
  constructor
  · rintro (⟨c, hc, rfl⟩ | rfl)
    · exact .inl ⟨c, hc, rfl⟩
    · exact .inr rfl
  · rintro (⟨c, hc, rfl⟩ | rfl)
    · exact .inl ⟨c, hc, rfl⟩
    · exact .inr rfl

theorem mem_points_prepend {t : Told α} {chunks : List (Chunk × α)} {x : Point × α} :
    x ∈ (t.prepend chunks).points ↔ (∃ c ∈ chunks, x = (.told c.1, c.2)) ∨ x ∈ t.points := by
  simp only [mem_points, chunks_prepend, ending_prepend, final_prepend, List.mem_append]
  constructor
  · rintro (⟨c, hc | hc, rfl⟩ | rfl)
    · exact .inl ⟨c, hc, rfl⟩
    · exact .inr (.inl ⟨c, hc, rfl⟩)
    · exact .inr (.inr rfl)
  · rintro (⟨c, hc, rfl⟩ | ⟨c, hc, rfl⟩ | rfl)
    · exact .inl ⟨c, .inl hc, rfl⟩
    · exact .inl ⟨c, .inr hc, rfl⟩
    · exact .inr rfl

end Told

namespace Session

variable {σ ε : Type}

/-! ## Chunks on the way -/

theorem underway_listen (events : List (Except ApiError Event)) :
    ∀ c ∈ (listen events).1, c.Underway := by
  induction events with
  | nil => exact nofun
  | cons x rest ih =>
    rcases x with e | event
    · exact nofun
    · cases event with
      | textDelta index delta => exact List.forall_mem_cons.2 ⟨trivial, ih⟩
      | itemAdded index item =>
        cases item with
        | call => exact List.forall_mem_cons.2 ⟨trivial, ih⟩
        | _ => exact ih
      | completed r => exact nofun
      | error m => exact nofun
      | _ => exact ih

/-- What is told while the model is listened to is on the way. -/
def Underway (ask : Asking σ) : Prop := ∀ a q, ∀ c ∈ (ask a q).1.1, c.Underway

theorem underway_byResponse (model : Model σ) : Underway model.byResponse := by
  intro a q
  rcases h : model.respond a q with ⟨(_ | _) | _, a'⟩ <;> simp only [Model.byResponse, h] <;>
    exact List.forall_mem_nil _

theorem underway_byEvents (model : Model σ) : Underway model.byEvents := by
  intro a q
  rcases h : model.stream a q with ⟨(_ | events) | _, a'⟩ <;> simp only [Model.byEvents, h]
  · exact List.forall_mem_nil _
  · exact underway_listen events
  · exact List.forall_mem_nil _

/-! ## Calls -/

/-- Calls carried out to their end, one after the other. -/
inductive Dispatched (executor : Executor ε) (now : Timestamp) (tools : Toolbox) :
    ε → List Call → List Invocation → ε → Prop
  | none {e} : Dispatched executor now tools e [] [] e
  | next {e e₁ e' c i calls is} :
    perform executor now tools e c = (some i, e₁) →
    Dispatched executor now tools e₁ calls is e' →
    Dispatched executor now tools e (c :: calls) (i :: is) e'

section
variable {executor : Executor ε} {now : Timestamp} {tools : Toolbox} {calls : List Call} {e e' : ε}
  {is : List Invocation}

theorem carryOut_finished (h : carryOut executor now tools calls e = (is, true, e')) :
    Dispatched executor now tools e calls is e' := by
  induction calls generalizing e is with
  | nil =>
    cases h
    exact .none
  | cons c rest ih =>
    simp only [carryOut] at h
    split at h
    · cases h
    · next i e₁ hp =>
      rcases hc : carryOut executor now tools rest e₁ with ⟨is', finished, e₂⟩
      rw [hc] at h
      cases h
      exact .next hp (ih hc)

/-- Calls that are given up are carried out up to one that never ends. -/
theorem carryOut_pending (h : carryOut executor now tools calls e = (is, false, e')) :
    ∃ before c after e₁, calls = before ++ c :: after ∧
      Dispatched executor now tools e before is e₁ ∧
      perform executor now tools e₁ c = (none, e') := by
  induction calls generalizing e is with
  | nil => cases h
  | cons c rest ih =>
    simp only [carryOut] at h
    split at h
    · next hp =>
      cases h
      exact ⟨[], c, rest, e, rfl, .none, hp⟩
    · next i e₁ hp =>
      rcases hc : carryOut executor now tools rest e₁ with ⟨is', finished, e₂⟩
      rw [hc] at h
      cases h
      obtain ⟨before, d, after, e₃, rfl, hdone, hpending⟩ := ih hc
      exact ⟨c :: before, d, after, e₃, rfl, .next hp hdone, hpending⟩

theorem Dispatched.carryOut (h : Dispatched executor now tools e calls is e') :
    carryOut executor now tools calls e = (is, true, e') := by
  induction h with
  | none => rfl
  | next hp _ ih => simp only [Session.carryOut, hp, ih]

end

/-! ## Committed rounds -/

/-- A request, its response, and the invocations of the response's calls in order. -/
structure Round where
  request : Request
  response : Response
  invocations : List Invocation

/-- Rounds committed one after the other: each request was answered by a response, and the calls of
the response were carried out. -/
inductive Committed (ask : Asking σ) (executor : Executor ε) (now : Timestamp) (sender : String) :
    Scene σ ε → List Round → Scene σ ε → Prop
  | none {scene} : Committed ask executor now sender scene [] scene
  | next {s a e chunks r a' is e' rounds scene} :
    ask a s.request = ((chunks, some (.completed r)), a') →
    Dispatched executor now s.tools e r.calls is e' →
    Committed ask executor now sender
      ⟨(s.recordActs sender is).commit r (outputs r.calls is), a', e'⟩ rounds scene →
    Committed ask executor now sender ⟨s, a, e⟩ (⟨s.request, r, is⟩ :: rounds) scene

/-- What commits and the records of actions keep is kept by committed rounds. -/
theorem Committed.keeps {ask : Asking σ} {executor : Executor ε} {now : Timestamp} {sender : String}
    {scene scene' : Scene σ ε} {rounds : List Round} {P : Session → Prop}
    (h : Committed ask executor now sender scene rounds scene')
    (hround : ∀ s r is items, P s → P ((s.recordActs sender is).commit r items))
    (hscene : P scene.session) : P scene'.session := by
  induction h with
  | none => exact hscene
  | next _ _ _ ih => exact ih (hround _ _ _ _ hscene)

/-! ## The last round -/

/-- Whether no other round follows one that `before` rounds of its turn went before. -/
def Stops (settings : Settings) (bound before : Nat) (r : Response) : Prop :=
  settings.followUp = .never ∨ r.calls = [] ∨ Text.isBlank r.text = false ∨ before = bound

theorem stops_succ {settings : Settings} {bound before : Nat} {r : Response} :
    Stops settings (bound + 1) (before + 1) r ↔ Stops settings bound before r := by
  simp only [Stops, Nat.add_right_cancel_iff]

theorem asksAgain_eq_false_iff {settings : Settings} {draft : Draft} {r : Response} :
    asksAgain settings draft r = false ↔ Stops settings draft.roundsLeft 0 r := by
  have hleft : decide (0 < draft.roundsLeft) = false ↔ 0 = draft.roundsLeft := by
    rw [decide_eq_false_iff_not]
    omega
  rw [asksAgain, Stops, ← hleft]
  cases settings.followUp <;> cases r.calls <;> cases Text.isBlank r.text <;> simp

/-- Another round follows each of the rounds. -/
def GoesOn (settings : Settings) (bound : Nat) (rounds : List Round) : Prop :=
  ∀ k x, rounds[k]? = some x → ¬ Stops settings bound k x.response

/-- Another round follows each of the rounds but the last. -/
def Finished (settings : Settings) (bound : Nat) (rounds : List Round) : Prop :=
  rounds ≠ [] ∧
    ∀ k x, rounds[k]? = some x → (Stops settings bound k x.response ↔ k + 1 = rounds.length)

section
variable {settings : Settings} {bound : Nat} {x : Round} {rounds : List Round}

theorem goesOn_nil : GoesOn settings bound [] := fun _ _ h => by cases h

theorem GoesOn.cons (hx : ¬ Stops settings (bound + 1) 0 x.response)
    (h : GoesOn settings bound rounds) : GoesOn settings (bound + 1) (x :: rounds) := by
  intro k y hk
  cases k with
  | zero =>
    cases hk
    exact hx
  | succ k =>
    rw [stops_succ]
    exact h k y hk

theorem finished_singleton (hx : Stops settings bound 0 x.response) :
    Finished settings bound [x] := by
  refine ⟨List.cons_ne_nil _ _, fun k y hk => ?_⟩
  cases k with
  | zero =>
    cases hk
    exact iff_of_true hx rfl
  | succ k => cases hk

theorem Finished.cons (hx : ¬ Stops settings (bound + 1) 0 x.response)
    (h : Finished settings bound rounds) : Finished settings (bound + 1) (x :: rounds) := by
  refine ⟨List.cons_ne_nil _ _, fun k y hk => ?_⟩
  cases k with
  | zero =>
    cases hk
    have hlength : rounds.length ≠ 0 := fun hnil => h.1 (List.length_eq_zero_iff.1 hnil)
    exact iff_of_false hx (by rw [List.length_cons]; omega)
  | succ k =>
    rw [stops_succ, h.2 k y hk, List.length_cons, Nat.add_right_cancel_iff]

/-- Every round before the last has another one to follow it. -/
theorem GoesOn.length_le (h : GoesOn settings bound rounds) : rounds.length ≤ bound := by
  refine Nat.le_of_not_lt fun hlt => ?_
  exact h bound rounds[bound] (List.getElem?_eq_getElem hlt) (.inr (.inr (.inr rfl)))

theorem Finished.length_le (h : Finished settings bound rounds) : rounds.length ≤ bound + 1 := by
  refine Nat.le_of_not_lt fun hlt => ?_
  have hbound : bound < rounds.length := by omega
  have hlast : bound + 1 = rounds.length :=
    (h.2 bound rounds[bound] (List.getElem?_eq_getElem hbound)).1 (.inr (.inr (.inr rfl)))
  omega

end

/-- What a turn has gathered after its rounds, the last of which is the last of the turn. -/
def gathered (draft : Draft) : List Round → Draft
  | [] => draft
  | [x] => gather draft x.response x.invocations false
  | x :: rest => gathered (gather draft x.response x.invocations true) rest

theorem gathered_cons {draft : Draft} {x : Round} {rounds : List Round} (h : rounds ≠ []) :
    gathered draft (x :: rounds) =
      gathered (gather draft x.response x.invocations true) rounds := by
  cases rounds with
  | nil => exact absurd rfl h
  | cons y rest => rw [gathered]; simp

theorem sender_gathered {draft : Draft} {rounds : List Round} :
    (gathered draft rounds).sender = draft.sender := by
  fun_induction gathered with
  | case1 => rfl
  | case2 => rfl
  | case3 draft x rest hrest ih => exact ih

/-- The actions of all rounds are gathered in order. -/
theorem activities_gathered {draft : Draft} {rounds : List Round} :
    (gathered draft rounds).activities =
      draft.activities ++ rounds.flatMap Round.invocations := by
  fun_induction gathered with
  | case1 => rw [List.flatMap_nil, List.append_nil]
  | case2 draft x => rw [List.flatMap_singleton]; rfl
  | case3 draft x rest hrest ih => rw [ih, List.flatMap_cons, ← List.append_assoc]; rfl

theorem finish_eq {now : Timestamp} {draft : Draft} {s s' : Session} {reply : Reply}
    (h : finish now draft s = (reply, s')) :
    s' = s.record (.spoken now s.name draft.sender reply.message) ∧
      reply.message = spokenText draft ∧ reply.activities = draft.activities ∧
      reply.responseId = draft.responseId ∧ reply.raw = draft.raw := by
  cases h
  exact ⟨rfl, rfl, rfl, rfl, rfl⟩

/-! ## Where a turn comes to a halt -/

/-- A turn comes to a halt after its committed rounds, which left things as they are in `between`;
`acts` are the invocations of a round that is given up. -/
inductive Halt (ask : Asking σ) (executor : Executor ε) (now : Timestamp) (bound : Nat)
    (draft : Draft) (rounds : List Round) (between : Scene σ ε) :
    (acts : List Invocation) → Point → Scene σ ε → Prop
  /-- The listener leaves while the model is answering. -/
  | hearing {chunks heard a c} : GoesOn between.session.settings bound rounds →
    ask between.model between.session.request = ((chunks, heard), a) → c ∈ chunks →
    Halt ask executor now bound draft rounds between [] (.told c) { between with model := a }
  /-- The model is never heard of again. -/
  | silent {chunks a} : GoesOn between.session.settings bound rounds →
    ask between.model between.session.request = ((chunks, none), a) →
    Halt ask executor now bound draft rounds between [] (.ended .abandoned)
      { between with model := a }
  | failed {chunks reason a} : GoesOn between.session.settings bound rounds →
    ask between.model between.session.request = ((chunks, some (.failed reason)), a) →
    Halt ask executor now bound draft rounds between [] (.ended (.failed reason))
      { between with model := a }
  /-- A call of the next response never ends. -/
  | pending {chunks r a before c after is e e'} : GoesOn between.session.settings bound rounds →
    ask between.model between.session.request = ((chunks, some (.completed r)), a) →
    r.calls = before ++ c :: after →
    Dispatched executor now between.session.tools between.executor before is e →
    perform executor now between.session.tools e c = (none, e') →
    Halt ask executor now bound draft rounds between is (.ended .abandoned)
      ⟨between.session.recordActs draft.sender is, a, e'⟩
  /-- The listener leaves while the actions of the last round are told. -/
  | telling {x i} :
    GoesOn between.session.settings bound rounds ∨
      Finished between.session.settings bound rounds →
    rounds.getLast? = some x → i ∈ x.invocations →
    Halt ask executor now bound draft rounds between [] (.told (.action i)) between
  | replied {point reply s} : Finished between.session.settings bound rounds →
    finish now (gathered draft rounds) between.session = (reply, s) → point.reply? = some reply →
    Halt ask executor now bound draft rounds between [] point { between with session := s }

section
variable {ask : Asking σ} {executor : Executor ε} {now : Timestamp} {bound : Nat} {draft : Draft}
  {rounds : List Round} {between later : Scene σ ε} {acts : List Invocation} {point : Point}

/-- A round before those after which a turn comes to a halt. -/
theorem Halt.cons {x : Round}
    (h : Halt ask executor now bound (gather draft x.response x.invocations true) rounds between
      acts point later)
    (hx : ¬ Stops between.session.settings (bound + 1) 0 x.response) :
    Halt ask executor now (bound + 1) draft (x :: rounds) between acts point later := by
  cases h with
  | hearing hon ha hc => exact .hearing (hon.cons hx) ha hc
  | silent hon ha => exact .silent (hon.cons hx) ha
  | failed hon ha => exact .failed (hon.cons hx) ha
  | pending hon ha hcalls hdone hpending => exact .pending (hon.cons hx) ha hcalls hdone hpending
  | @telling y i hrounds hlast hi =>
    refine .telling (hrounds.imp (fun hon => hon.cons hx) fun hfin => hfin.cons hx) ?_ hi
    rw [List.getLast?_cons, hlast]
    rfl
  | replied hfin hclosing hreply =>
    rw [← gathered_cons hfin.1] at hclosing
    exact .replied (hfin.cons hx) hclosing hreply

/-- Without a reply nothing happens to the session, but that the actions of a round that is given up
are on record. -/
theorem Halt.unreplied (h : Halt ask executor now bound draft rounds between acts point later)
    (hnone : point.reply? = none) :
    later.session = between.session.recordActs draft.sender acts := by
  cases h with
  | pending => rfl
  | replied _ _ hreply =>
    rw [hreply] at hnone
    cases hnone
  | _ => exact (recordActs_nil ..).symm

/-- A reply comes after the last round of a turn. -/
theorem Halt.replies (h : Halt ask executor now bound draft rounds between acts point later)
    (hask : Underway ask) {reply : Reply} (hreply : point.reply? = some reply) :
    Finished between.session.settings bound rounds ∧ acts = [] ∧ later.model = between.model ∧
      finish now (gathered draft rounds) between.session = (reply, later.session) := by
  cases h with
  | hearing _ ha hc =>
    have hunderway := hask between.model between.session.request _ (by rwa [ha])
    rw [hunderway.reply?] at hreply
    cases hreply
  | silent => cases hreply
  | failed => cases hreply
  | pending => cases hreply
  | telling => cases hreply
  | replied hfin hclosing hsome =>
    cases hsome.symm.trans hreply
    exact ⟨hfin, rfl, rfl, hclosing⟩

/-- A turn is given up where the model is silent or a call never ends. -/
theorem Halt.givenUp
    (h : Halt ask executor now bound draft rounds between acts (.ended .abandoned) later) :
    (ask between.model between.session.request).1.2 = none ∧ acts = [] ∨
      ∃ chunks r a before c after e e',
        ask between.model between.session.request = ((chunks, some (.completed r)), a) ∧
        r.calls = before ++ c :: after ∧
        Dispatched executor now between.session.tools between.executor before acts e ∧
        perform executor now between.session.tools e c = (none, e') := by
  cases h with
  | silent _ ha => exact .inl ⟨by rw [ha], rfl⟩
  | pending _ ha hcalls hdone hpending =>
    exact .inr ⟨_, _, _, _, _, _, _, _, ha, hcalls, hdone, hpending⟩
  | replied _ _ hreply => cases hreply

/-- While the model is listened to nothing else happens. -/
theorem halt_heard {s : Session} {a a' : σ} {e : ε} {chunks : List Chunk} {heard : Option Heard}
    (ha : ask a s.request = ((chunks, heard), a')) {c : Chunk × Scene σ ε}
    (hc : c ∈ chunks.map fun c => (c, (⟨s, a', e⟩ : Scene σ ε))) :
    Halt ask executor now bound draft [] ⟨s, a, e⟩ [] (.told c.1) c.2 := by
  obtain ⟨d, hd, rfl⟩ := List.mem_map.1 hc
  exact .hearing goesOn_nil ha hd

end

/-- **Wherever a turn is left, its rounds so far are committed, and it comes to a halt there.** -/
theorem rounds_halt (ask : Asking σ) (executor : Executor ε) (now : Timestamp) (left : Nat)
    (draft : Draft) (scene : Scene σ ε) :
    ∀ x ∈ (rounds ask executor now left draft scene).points, ∃ rounds between acts,
      Committed ask executor now draft.sender scene rounds between ∧
        Halt ask executor now left draft rounds between acts x.1 x.2 := by
  -- every point of the loop is told as the rounds committed before it and the way it halts there;
  -- a point is a chunk that was heard, or the end
  refine rounds_induction (P := fun left draft scene told => ∀ x ∈ told.points,
    ∃ rounds between acts, Committed ask executor now draft.sender scene rounds between ∧
      Halt ask executor now left draft rounds between acts x.1 x.2)
    ?silent ?failed ?pending ?again ?last left draft scene
  case silent =>
    intro left draft s a e chunks a' ha x hx
    refine ⟨[], ⟨s, a, e⟩, [], .none, ?_⟩
    rcases Told.mem_points.1 hx with ⟨c, hchunk, rfl⟩ | rfl
    · exact halt_heard ha hchunk
    · exact .silent goesOn_nil ha
  case failed =>
    intro left draft s a e chunks a' reason ha x hx
    refine ⟨[], ⟨s, a, e⟩, [], .none, ?_⟩
    rcases Told.mem_points.1 hx with ⟨c, hchunk, rfl⟩ | rfl
    · exact halt_heard ha hchunk
    · exact .failed goesOn_nil ha
  case pending =>
    intro left draft s a e chunks a' r is e' ha hc x hx
    rcases Told.mem_points.1 hx with ⟨c, hchunk, rfl⟩ | rfl
    · exact ⟨[], ⟨s, a, e⟩, [], .none, halt_heard ha hchunk⟩
    · obtain ⟨before, c, after, e₁, hcalls, hdone, hpending⟩ := carryOut_pending hc
      exact ⟨[], ⟨s, a, e⟩, is, .none, .pending goesOn_nil ha hcalls hdone hpending⟩
  case again =>
    intro left draft s a e chunks a' r is e' ha hc hagain scene told ih x hx
    have hdone := carryOut_finished hc
    -- the round did not stop the loop, so it goes in front of those that follow
    have hon : ¬ Stops s.settings (left + 1) 0 r := by
      intro hstops
      rw [asksAgain_eq_false_iff.2 hstops] at hagain
      cases hagain
    rcases Told.mem_points_prepend.1 hx with ⟨c, hchunk, rfl⟩ | hx
    · rcases List.mem_append.1 hchunk with hchunk | hchunk
      · exact ⟨[], ⟨s, a, e⟩, [], .none, halt_heard ha hchunk⟩
      · obtain ⟨i, hi, rfl⟩ := List.mem_map.1 hchunk
        exact ⟨[⟨s.request, r, is⟩], scene, [], .next ha hdone .none,
          .telling (.inl (goesOn_nil.cons hon)) rfl hi⟩
    · -- a later point has its rounds by induction, with this one in front
      obtain ⟨rounds, between, acts, hcommitted, hhalt⟩ := ih x hx
      have hsettings : between.session.settings = s.settings :=
        hcommitted.keeps (P := fun s' => s'.settings = s.settings) (fun _ _ _ _ h => h) rfl
      rw [← hsettings] at hon
      exact ⟨⟨s.request, r, is⟩ :: rounds, between, acts, .next ha hdone hcommitted, hhalt.cons hon⟩
  case last =>
    intro left draft s a e chunks a' r is e' ha hc hagain committed closing x hx
    -- the round stops the loop, whose points are its chunks, its actions and the reply
    have hfin : Finished s.settings left [⟨s.request, r, is⟩] :=
      finished_singleton (asksAgain_eq_false_iff.1 hagain)
    have hround : Committed ask executor now draft.sender ⟨s, a, e⟩ [⟨s.request, r, is⟩]
        ⟨committed, a', e'⟩ := .next ha (carryOut_finished hc) .none
    rcases Told.mem_points.1 hx with ⟨c, hchunk, rfl⟩ | rfl
    · rcases List.mem_append.1 hchunk with hchunk | hchunk
      · rcases List.mem_append.1 hchunk with hchunk | hchunk
        · exact ⟨[], ⟨s, a, e⟩, [], .none, halt_heard ha hchunk⟩
        · obtain ⟨i, hi, rfl⟩ := List.mem_map.1 hchunk
          exact ⟨[⟨s.request, r, is⟩], _, [], hround, .telling (.inr hfin) rfl hi⟩
      · rw [List.mem_singleton.1 hchunk]
        exact ⟨[⟨s.request, r, is⟩], _, [], hround, .replied hfin rfl rfl⟩
    · exact ⟨[⟨s.request, r, is⟩], _, [], hround, .replied hfin rfl rfl⟩

end Session

end Inquest

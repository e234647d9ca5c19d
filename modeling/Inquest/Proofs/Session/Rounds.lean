import Inquest.Session.Send

/-! # The rounds of a turn, however the model is asked

`send` waits for a whole response and `stream` listens to its events; what they do about a response
is the same. `rounds` is that common loop over an `Asking`, the way in which one request comes to a
response.

* `streamRounds_eq`, `sendRounds_eq`: both turns are `rounds`, `send` without the chunks.
* `runCalls_eq`: the calls of a response are carried out by `carryOut`, which knows no session, and
  put on record by `recordActs`.
* `rounds_induction`: the five ways in which a round can go on. What holds of every turn is proved
  by it.
* `turn_keeps`: what messages, records and commits keep is kept by a turn, whenever one stops
  listening (`Told.Always`).
-/

namespace Inquest

/-- How a request comes to a response: the chunks told on the way, what is heard in the end, if the
end ever comes, and the model's new state. -/
abbrev Asking (σ : Type) := σ → Request → (List Chunk × Option Session.Heard) × σ

section
variable {σ : Type}

/-- Asking for a whole response. -/
def Model.byResponse (model : Model σ) : Asking σ := fun a q =>
  match model.respond a q with
  | (.never, a) => (([], none), a)
  | (.came (.error e), a) => (([], some (.failed (.model e))), a)
  | (.came (.ok r), a) => (([], some (.completed r)), a)

/-- Asking for the events of a response. -/
def Model.byEvents (model : Model σ) : Asking σ := fun a q =>
  match model.stream a q with
  | (.never, a) => (([], none), a)
  | (.came (.error e), a) => (([], some (.failed (.model e))), a)
  | (.came (.ok events), a) => (((Session.listen events).1, some (Session.listen events).2), a)

end

namespace Told

variable {α : Type} (chunks : List (Chunk × α)) (t : Told α)

@[simp] theorem chunks_prepend : (t.prepend chunks).chunks = chunks ++ t.chunks := rfl

@[simp] theorem ending_prepend : (t.prepend chunks).ending = t.ending := rfl

@[simp] theorem final_prepend : (t.prepend chunks).final = t.final := rfl

/-- A turn that is followed for `k + 1` chunks: the chunks, the end if there are fewer, and the
state of things. -/
def upTo (t : Told α) (k : Nat) : (List Chunk × Option Ending) × α :=
  (((t.chunks.take (k + 1)).map Prod.fst, if t.chunks.length ≤ k then some t.ending else none),
    match t.chunks[k]? with
    | some (_, a) => a
    | none => t.final)

theorem after_succ (before : α) (k : Nat) : t.after before (k + 1) = (t.upTo k).2 := rfl

/-- Whoever hears the end has heard all. -/
theorem upTo_ended {k : Nat} {ending : Ending} (h : (t.upTo k).1.2 = some ending) :
    t.ending = ending ∧ t.final = (t.upTo k).2 := by
  simp only [upTo] at h ⊢
  split at h
  · rename_i hk
    rw [List.getElem?_eq_none hk]
    exact ⟨Option.some.inj h, rfl⟩
  · cases h

/-- Nothing is left to be heard. -/
theorem upTo_length :
    t.upTo t.chunks.length = ((t.chunks.map Prod.fst, some t.ending), t.final) := by
  simp [upTo, List.take_of_length_le]

theorem upTo_map {β : Type} (f : α → β) (k : Nat) :
    (t.map f).upTo k = ((t.upTo k).1, f (t.upTo k).2) := by
  simp only [upTo, map, List.map_take, List.map_map, List.length_map, List.getElem?_map]
  cases t.chunks[k]? <;> rfl

theorem upTo_prepend_of_lt {k : Nat} (h : k < chunks.length) :
    (t.prepend chunks).upTo k = (((chunks.take (k + 1)).map Prod.fst, none), chunks[k].2) := by
  have hlength : ¬ (chunks ++ t.chunks).length ≤ k := by
    rw [List.length_append]
    omega
  simp only [upTo, chunks_prepend, hlength, if_false, List.getElem?_append_left h,
    List.getElem?_eq_getElem h, List.take_append_of_le_length (show k + 1 ≤ chunks.length from h)]

theorem upTo_prepend_of_ge {k : Nat} (h : chunks.length ≤ k) :
    (t.prepend chunks).upTo k =
      let later := t.upTo (k - chunks.length)
      ((chunks.map Prod.fst ++ later.1.1, later.1.2), later.2) := by
  have htake : (chunks ++ t.chunks).take (k + 1) =
      chunks ++ t.chunks.take (k - chunks.length + 1) := by
    rw [List.take_append, List.take_of_length_le (Nat.le_succ_of_le h), Nat.succ_sub h]
  have hlength : (chunks ++ t.chunks).length ≤ k ↔ t.chunks.length ≤ k - chunks.length := by
    rw [List.length_append]
    omega
  simp only [upTo, chunks_prepend, ending_prepend, final_prepend, htake, List.map_append, hlength,
    List.getElem?_append_right h]

/-- Turns that go on alike from the same chunks are alike. -/
theorem upTo_prepend_map {β : Type} (f : α → β) (u : Told β) (k : Nat)
    (h : chunks.length ≤ k → u.upTo (k - chunks.length) =
      ((t.upTo (k - chunks.length)).1, f (t.upTo (k - chunks.length)).2)) :
    (u.prepend (chunks.map fun (c, a) => (c, f a))).upTo k =
      (((t.prepend chunks).upTo k).1, f ((t.prepend chunks).upTo k).2) := by
  rcases Nat.lt_or_ge k chunks.length with hk | hk
  · rw [upTo_prepend_of_lt _ _ hk, upTo_prepend_of_lt _ _ (by rwa [List.length_map])]
    simp only [← List.map_take, List.map_map, List.getElem_map]
    rfl
  · rw [upTo_prepend_of_ge _ _ hk, upTo_prepend_of_ge _ _ (by rwa [List.length_map])]
    simp only [List.length_map, h hk, List.map_map]
    rfl

/-! ### What holds whenever something is told -/

/-- It holds when a chunk is told, whichever it is, and in the end. -/
def Always (t : Told α) (Q : α → Prop) : Prop := Q t.final ∧ ∀ c ∈ t.chunks, Q c.2

section
variable {Q : α → Prop} {a b : α} {ending : Ending}

theorem Always.upTo {t : Told α} (h : t.Always Q) (k : Nat) : Q (t.upTo k).2 := by
  simp only [Told.upTo]
  split
  · next hc => exact h.2 _ (List.mem_of_getElem? hc)
  · exact h.1

theorem Always.imp {t : Told α} {R : α → Prop} (h : t.Always Q) (himp : ∀ a, Q a → R a) :
    t.Always R :=
  ⟨himp _ h.1, fun c hc => himp _ (h.2 c hc)⟩

/-- While the model is listened to nothing else happens. -/
theorem always_heard (heard : List Chunk) (ha : Q a) (hb : Q b) :
    Always ⟨heard.map fun c => (c, a), ending, b⟩ Q := by
  refine ⟨hb, fun c hc => ?_⟩
  obtain ⟨c, _, rfl⟩ := List.mem_map.1 hc
  exact ha

/-- A round in front of what is told later: the model is listened to, then the actions are told. -/
theorem Always.prepend {t : Told α} (h : t.Always Q) (heard : List Chunk) (is : List Invocation)
    (ha : Q a) (hb : Q b) :
    (t.prepend ((heard.map fun c => (c, a)) ++ is.map fun i => (.action i, b))).Always Q := by
  refine ⟨h.1, fun c hc => ?_⟩
  rcases List.mem_append.1 hc with hc | hc
  · rcases List.mem_append.1 hc with hc | hc
    · obtain ⟨c, _, rfl⟩ := List.mem_map.1 hc
      exact ha
    · obtain ⟨i, _, rfl⟩ := List.mem_map.1 hc
      exact hb
  · exact h.2 c hc

theorem always_done (r : Reply) (ha : Q a) : Always ⟨[(.done r, a)], ending, a⟩ Q := by
  refine ⟨ha, fun c hc => ?_⟩
  rw [List.mem_singleton.1 hc]
  exact ha

end

end Told

namespace Session

variable {σ ε : Type}

/-! ## The calls of a response -/

/-- The invocations put on record, one turn each. -/
def recordActs (s : Session) (sender : String) (is : List Invocation) : Session :=
  { s with transcript := s.transcript ++ is.map (Turn.acted s.name sender) }

@[simp] theorem recordActs_nil (s : Session) (sender : String) : s.recordActs sender [] = s := by
  simp [recordActs]

theorem record_recordActs (s : Session) (sender : String) (i : Invocation) (is : List Invocation) :
    (s.record (.acted s.name sender i)).recordActs sender is = s.recordActs sender (i :: is) := by
  simp [record, recordActs, name]

/-- The calls of a response carried out in order, up to one that never finishes: the invocations,
and whether all calls finished. -/
def carryOut (executor : Executor ε) (now : Timestamp) (tools : Toolbox) :
    List Call → ε → List Invocation × Bool × ε
  | [], e => ([], true, e)
  | c :: rest, e =>
    match perform executor now tools e c with
    | (none, e) => ([], false, e)
    | (some i, e) =>
      let (is, finished, e) := carryOut executor now tools rest e
      (i :: is, finished, e)

theorem runCalls_eq {executor : Executor ε} {now : Timestamp} (sender : String) {calls : List Call}
    {s : Session} (a : σ) {e e' : ε} {is : List Invocation} {finished : Bool}
    (h : carryOut executor now s.tools calls e = (is, finished, e')) :
    runCalls executor now sender calls ⟨s, a, e⟩ =
      (is, finished, ⟨s.recordActs sender is, a, e'⟩) := by
  induction calls generalizing s e is with
  | nil =>
    cases h
    simp [runCalls]
  | cons c rest ih =>
    simp only [carryOut] at h
    simp only [runCalls]
    rcases hp : perform executor now s.tools e c with ⟨_ | i, state⟩
    · simp only [hp] at h ⊢
      cases h
      simp
    · rcases hc : carryOut executor now s.tools rest state with ⟨is', finished', state'⟩
      simp only [hp, hc] at h ⊢
      cases h
      have hr := ih (s := s.record (.acted s.name sender i)) hc
      simp only [hr, record_recordActs]

theorem length_carryOut_le {executor : Executor ε} {now : Timestamp} {tools : Toolbox}
    {calls : List Call} {e e' : ε} {is : List Invocation} {finished : Bool}
    (h : carryOut executor now tools calls e = (is, finished, e')) : is.length ≤ calls.length := by
  induction calls generalizing e is with
  | nil =>
    cases h
    exact Nat.le_refl _
  | cons c rest ih =>
    simp only [carryOut] at h
    split at h
    · cases h
      exact Nat.zero_le _
    · cases h
      exact Nat.succ_le_succ (ih rfl)

/-- Where all calls finished, every call has its invocation. -/
theorem length_carryOut {executor : Executor ε} {now : Timestamp} {tools : Toolbox}
    {calls : List Call} {e e' : ε} {is : List Invocation}
    (h : carryOut executor now tools calls e = (is, true, e')) : is.length = calls.length := by
  induction calls generalizing e is with
  | nil =>
    cases h
    rfl
  | cons c rest ih =>
    simp only [carryOut] at h
    split at h
    · cases h
    · rename_i i state _
      rcases hc : carryOut executor now tools rest state with ⟨is', finished', e''⟩
      simp only [hc] at h
      cases h
      exact congrArg Nat.succ (ih hc)

/-! ## The loop -/

/-- The rounds of a turn, of which at most `left` follow the first. -/
def rounds (ask : Asking σ) (executor : Executor ε) (now : Timestamp) :
    (left : Nat) → Draft → Scene σ ε → Told (Scene σ ε)
  | left, draft, ⟨s, a, e⟩ =>
    let ((chunks, heard), a) := ask a s.request
    let told := chunks.map fun c => (c, (⟨s, a, e⟩ : Scene σ ε))
    match heard with
    | none => ⟨told, .abandoned, ⟨s, a, e⟩⟩
    | some (.failed reason) => ⟨told, .failed reason, ⟨s, a, e⟩⟩
    | some (.completed r) =>
      let (is, finished, e) := carryOut executor now s.tools r.calls e
      let s := s.recordActs draft.sender is
      if finished then
        let again := asksAgain s.settings { draft with roundsLeft := left } r
        let s := s.commit r (outputs r.calls is)
        let draft := gather draft r is again
        let told := told ++ is.map fun i => (.action i, ⟨s, a, e⟩)
        match left, again with
        | left + 1, true => (rounds ask executor now left draft ⟨s, a, e⟩).prepend told
        | _, _ =>
          let (reply, s) := finish now draft s
          ⟨told ++ [(.done reply, ⟨s, a, e⟩)], .replied reply, ⟨s, a, e⟩⟩
      else ⟨told, .abandoned, ⟨s, a, e⟩⟩

theorem streamRounds_eq (model : Model σ) (executor : Executor ε) (now : Timestamp) (left : Nat)
    (draft : Draft) (scene : Scene σ ε) :
    streamRounds model executor now left draft scene =
      rounds model.byEvents executor now left draft scene := by
  induction left using Nat.strongRecOn generalizing draft scene with
  | _ left ih =>
  obtain ⟨s, a, e⟩ := scene
  rw [streamRounds.eq_def, rounds.eq_def]
  simp only [Model.byEvents]
  rcases hm : model.stream a s.request with ⟨(reason | events) | _, a'⟩
  · rfl
  · rcases hl : listen events with ⟨chunks, r | reason⟩
    · rcases hc : carryOut executor now s.tools r.calls e with ⟨is, finished, e'⟩
      simp only [hl, hc, runCalls_eq draft.sender a' hc]
      cases finished
      · rfl
      · rcases hagain : asksAgain (s.recordActs draft.sender is).settings
          { draft with roundsLeft := left } r with _ | _ <;> cases left
        · simp
        · simp
        · simp
        · simp [ih]
    · simp only [hl]
  · rfl

theorem sendRounds_eq (model : Model σ) (executor : Executor ε) (now : Timestamp) (left : Nat)
    (draft : Draft) (scene : Scene σ ε) :
    sendRounds model executor now left draft scene =
      ((rounds model.byResponse executor now left draft scene).ending,
        (rounds model.byResponse executor now left draft scene).final) := by
  induction left using Nat.strongRecOn generalizing draft scene with
  | _ left ih =>
  obtain ⟨s, a, e⟩ := scene
  rw [sendRounds.eq_def, rounds.eq_def]
  simp only [Model.byResponse]
  rcases hm : model.respond a s.request with ⟨(reason | r) | _, a'⟩
  · rfl
  · rcases hc : carryOut executor now s.tools r.calls e with ⟨is, finished, e'⟩
    simp only [hc, runCalls_eq draft.sender a' hc]
    cases finished
    · rfl
    · rcases hagain : asksAgain (s.recordActs draft.sender is).settings
        { draft with roundsLeft := left } r with _ | _ <;> cases left
      · simp
      · simp
      · simp
      · simp [ih]
  · rfl

/-! ## The five ways of a round -/

section
variable {ask : Asking σ} {executor : Executor ε} {now : Timestamp} {left : Nat} {draft : Draft}
  {s : Session} {a a' : σ} {e e' : ε} {chunks : List Chunk} {r : Response} {is : List Invocation}

theorem rounds_silent (ha : ask a s.request = ((chunks, none), a')) :
    rounds ask executor now left draft ⟨s, a, e⟩ =
      ⟨chunks.map fun c => (c, ⟨s, a', e⟩), .abandoned, ⟨s, a', e⟩⟩ := by
  rw [rounds.eq_def]
  simp [ha]

theorem rounds_failed {reason : TurnError}
    (ha : ask a s.request = ((chunks, some (.failed reason)), a')) :
    rounds ask executor now left draft ⟨s, a, e⟩ =
      ⟨chunks.map fun c => (c, ⟨s, a', e⟩), .failed reason, ⟨s, a', e⟩⟩ := by
  rw [rounds.eq_def]
  simp [ha]

variable (ha : ask a s.request = ((chunks, some (.completed r)), a'))
include ha

theorem rounds_pending (hc : carryOut executor now s.tools r.calls e = (is, false, e')) :
    rounds ask executor now left draft ⟨s, a, e⟩ =
      ⟨chunks.map fun c => (c, ⟨s, a', e⟩), .abandoned,
        ⟨s.recordActs draft.sender is, a', e'⟩⟩ := by
  rw [rounds.eq_def]
  simp [ha, hc]

theorem rounds_again (hc : carryOut executor now s.tools r.calls e = (is, true, e'))
    (hagain : asksAgain s.settings { draft with roundsLeft := left + 1 } r = true) :
    let scene := ⟨(s.recordActs draft.sender is).commit r (outputs r.calls is), a', e'⟩
    rounds ask executor now (left + 1) draft ⟨s, a, e⟩ =
      (rounds ask executor now left (gather draft r is true) scene).prepend
        ((chunks.map fun c => (c, ⟨s, a', e⟩)) ++ is.map fun i => (.action i, scene)) := by
  rw [rounds.eq_def]
  simp [ha, hc, show (s.recordActs draft.sender is).settings = s.settings from rfl, hagain]

theorem rounds_last (hc : carryOut executor now s.tools r.calls e = (is, true, e'))
    (hagain : asksAgain s.settings { draft with roundsLeft := left } r = false) :
    let committed := (s.recordActs draft.sender is).commit r (outputs r.calls is)
    let closing := finish now (gather draft r is false) committed
    rounds ask executor now left draft ⟨s, a, e⟩ =
      ⟨(chunks.map fun c => (c, ⟨s, a', e⟩)) ++
        (is.map fun i => (.action i, ⟨committed, a', e'⟩)) ++
          [(.done closing.1, ⟨closing.2, a', e'⟩)], .replied closing.1, ⟨closing.2, a', e'⟩⟩ := by
  rw [rounds.eq_def]
  cases left <;>
    simp [ha, hc, show (s.recordActs draft.sender is).settings = s.settings from rfl, hagain]

end

/-- **Induction over the rounds of a turn.** The model is never heard of again, the round fails, an
executor never finishes, another round follows, or the turn ends with a reply. -/
theorem rounds_induction {ask : Asking σ} {executor : Executor ε} {now : Timestamp}
    {P : Nat → Draft → Scene σ ε → Told (Scene σ ε) → Prop}
    (silent : ∀ {left draft s a e chunks a'}, ask a s.request = ((chunks, none), a') →
      P left draft ⟨s, a, e⟩ ⟨chunks.map fun c => (c, ⟨s, a', e⟩), .abandoned, ⟨s, a', e⟩⟩)
    (failed : ∀ {left draft s a e chunks a' reason},
      ask a s.request = ((chunks, some (.failed reason)), a') →
      P left draft ⟨s, a, e⟩ ⟨chunks.map fun c => (c, ⟨s, a', e⟩), .failed reason, ⟨s, a', e⟩⟩)
    (pending : ∀ {left draft s a e chunks a' r is e'},
      ask a s.request = ((chunks, some (.completed r)), a') →
      carryOut executor now s.tools r.calls e = (is, false, e') →
      P left draft ⟨s, a, e⟩ ⟨chunks.map fun c => (c, ⟨s, a', e⟩), .abandoned,
        ⟨s.recordActs draft.sender is, a', e'⟩⟩)
    (again : ∀ {left draft s a e chunks a' r is e'},
      ask a s.request = ((chunks, some (.completed r)), a') →
      carryOut executor now s.tools r.calls e = (is, true, e') →
      asksAgain s.settings { draft with roundsLeft := left + 1 } r = true →
      let scene := ⟨(s.recordActs draft.sender is).commit r (outputs r.calls is), a', e'⟩
      let told := rounds ask executor now left (gather draft r is true) scene
      P left (gather draft r is true) scene told →
      P (left + 1) draft ⟨s, a, e⟩ (told.prepend
        ((chunks.map fun c => (c, ⟨s, a', e⟩)) ++ is.map fun i => (.action i, scene))))
    (last : ∀ {left draft s a e chunks a' r is e'},
      ask a s.request = ((chunks, some (.completed r)), a') →
      carryOut executor now s.tools r.calls e = (is, true, e') →
      asksAgain s.settings { draft with roundsLeft := left } r = false →
      let committed := (s.recordActs draft.sender is).commit r (outputs r.calls is)
      let closing := finish now (gather draft r is false) committed
      P left draft ⟨s, a, e⟩ ⟨(chunks.map fun c => (c, ⟨s, a', e⟩)) ++
          (is.map fun i => (.action i, ⟨committed, a', e'⟩)) ++
          [(.done closing.1, ⟨closing.2, a', e'⟩)],
        .replied closing.1, ⟨closing.2, a', e'⟩⟩)
    (left : Nat) (draft : Draft) (scene : Scene σ ε) :
    P left draft scene (rounds ask executor now left draft scene) := by
  induction left using Nat.strongRecOn generalizing draft scene with
  | _ left ih =>
  obtain ⟨s, a, e⟩ := scene
  -- by the answer, then the calls, then whether the loop goes on, in the order in which it asks
  rcases ha : ask a s.request with ⟨⟨chunks, _ | r | reason⟩, a'⟩
  · rw [rounds_silent ha]
    exact silent ha
  · rcases hc : carryOut executor now s.tools r.calls e with ⟨is, _ | _, e'⟩
    · rw [rounds_pending ha hc]
      exact pending ha hc
    · rcases hagain : asksAgain s.settings { draft with roundsLeft := left } r with _ | _
      · rw [rounds_last ha hc hagain]
        exact last ha hc hagain
      · cases left with
        | zero => simp [asksAgain] at hagain
        | succ left =>
          rw [rounds_again ha hc hagain]
          exact again ha hc hagain (ih left (Nat.lt_succ_self _) _ _)
  · rw [rounds_failed ha]
    exact failed ha

/-! ## Whole turns -/

/-- A turn: the message goes on record, and the model is asked round after round. -/
def turn (ask : Asking σ) (executor : Executor ε) (now : Timestamp) (sender text : String)
    (scene : Scene σ ε) : Told (Scene σ ε) :=
  let left := scene.session.settings.maxToolRounds
  rounds ask executor now left (.start sender left)
    { scene with session := scene.session.beginTurn now sender text }

/-- What holds of every invocation that an executor brings about. -/
def Brings (executor : Executor ε) (Q : Invocation → Prop) : Prop :=
  ∀ {now tools calls e is finished e'},
    carryOut executor now tools calls e = (is, finished, e') → ∀ i ∈ is, Q i

section
variable {P : Session → Prop} {Q : Invocation → Prop} {executor : Executor ε}
  (hbrings : Brings executor Q)
  (hspoken : ∀ s now sender recipient text, P s → P (s.record (.spoken now sender recipient text)))
  (hacted : ∀ s sender i, Q i → P s → P (s.record (.acted s.name sender i)))
  (hcommit : ∀ s r items, P s → P (s.commit r items))

include hacted in
theorem recordActs_keeps (sender : String) {is : List Invocation} (his : ∀ i ∈ is, Q i)
    {s : Session}
    (h : P s) : P (s.recordActs sender is) := by
  induction is generalizing s with
  | nil => rwa [recordActs_nil]
  | cons i is ih =>
    rw [← record_recordActs]
    exact ih (fun j hj => his j (List.mem_cons_of_mem _ hj))
      (hacted s sender i (his i List.mem_cons_self) h)

include hbrings hspoken hacted hcommit

/-- What records and commits keep is kept by the rounds of a turn. -/
theorem rounds_keeps (ask : Asking σ) (now : Timestamp) (left : Nat) (draft : Draft)
    (scene : Scene σ ε) :
    P scene.session →
      (rounds ask executor now left draft scene).Always fun scene => P scene.session := by
  refine rounds_induction (P := fun _ _ scene told =>
    P scene.session → told.Always fun scene => P scene.session) ?silent ?failed ?pending ?again ?last
    left draft scene
  case silent =>
    intro left draft s a e chunks a' ha h
    exact Told.always_heard chunks h h
  case failed =>
    intro left draft s a e chunks a' reason ha h
    exact Told.always_heard chunks h h
  case pending =>
    intro left draft s a e chunks a' r is e' ha hc h
    exact Told.always_heard chunks h (recordActs_keeps hacted _ (hbrings hc) h)
  case again =>
    intro left draft s a e chunks a' r is e' ha hc hagain scene told ih h
    have hscene : P scene.session := hcommit _ _ _ (recordActs_keeps hacted _ (hbrings hc) h)
    exact (ih hscene).prepend chunks is h hscene
  case last =>
    intro left draft s a e chunks a' r is e' ha hc hagain committed closing h
    have hcommitted : P committed := hcommit _ _ _ (recordActs_keeps hacted _ (hbrings hc) h)
    have hclosing : P closing.2 := hspoken _ _ _ _ _ hcommitted
    have hdone : Told.Always ⟨[(.done closing.1, ⟨closing.2, a', e'⟩)], .replied closing.1,
        ⟨closing.2, a', e'⟩⟩ fun scene : Scene σ ε => P scene.session :=
      Told.always_done closing.1 hclosing
    exact hdone.prepend chunks is h hcommitted

/-- What a message, records and commits keep is kept by a turn, however far it is followed. -/
theorem turn_keeps (hbegin : ∀ now sender text s, P s → P (s.beginTurn now sender text))
    (ask : Asking σ) (now : Timestamp) (sender text : String) (scene : Scene σ ε)
    (h : P scene.session) (k : Nat) :
    P ((turn ask executor now sender text scene).upTo k).2.session := by
  exact (rounds_keeps hbrings hspoken hacted hcommit ask now
    scene.session.settings.maxToolRounds (.start sender scene.session.settings.maxToolRounds)
    { scene with session := scene.session.beginTurn now sender text } (hbegin _ _ _ _ h)).upTo k

end

theorem stream_eq (model : Model σ) (executor : Executor ε) (now : Timestamp)
    (sender text : String) (scene : Scene σ ε) :
    stream model executor now sender text scene =
      turn model.byEvents executor now sender text scene :=
  streamRounds_eq ..

theorem send_eq (model : Model σ) (executor : Executor ε) (now : Timestamp) (sender text : String)
    (scene : Scene σ ε) :
    send model executor now sender text scene =
      ((turn model.byResponse executor now sender text scene).ending,
        (turn model.byResponse executor now sender text scene).final) :=
  sendRounds_eq ..

end Session

end Inquest

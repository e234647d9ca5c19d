import Mathlib.Logic.Relation
import Inquest.Proofs.Session.Rounds

/-! # Conversations, moment by moment

A `Moment` is a session with what its turn is waiting for and the exchanges that it has had with the
model. `Moment.Step` is what may happen next, whatever the model answers and the executor does; a
turn may be dropped at every moment.

* `Conversation`: the moments that a session comes to by whole turns, by streams that are followed
  for some chunks, and by single steps.
* `steps_rounds`: the rounds of a turn are steps, and so is every chunk that a stream tells.
* `Conversation.steps`: hence a conversation consists of steps alone. An invariant is proved for
  each step and holds in every conversation.
-/

namespace Inquest

/-- A request and the response that it got. -/
structure Exchange where
  request : Request
  response : Response

/-- The exchanges of an asking can be read off the model's state, the newest first. -/
structure Asking.Keeps {σ : Type} (ask : Asking σ) (log : σ → List Exchange) : Prop where
  completed : ∀ {a q chunks r a'}, ask a q = ((chunks, some (.completed r)), a') →
    log a' = ⟨q, r⟩ :: log a
  failed : ∀ {a q chunks reason a'}, ask a q = ((chunks, some (.failed reason)), a') →
    log a' = log a
  silent : ∀ {a q chunks a'}, ask a q = ((chunks, none), a') → log a' = log a

theorem Asking.Keeps.suffix {σ : Type} {ask : Asking σ} {log : σ → List Exchange}
    (h : ask.Keeps log) {a a' : σ} {q : Request} {chunks : List Chunk} {heard : Option Session.Heard}
    (ha : ask a q = ((chunks, heard), a')) : log a <:+ log a' := by
  rcases heard with _ | r | reason
  · simp [h.silent ha]
  · simp [h.completed ha]
  · simp [h.failed ha]

section
variable {σ : Type}

/-- A model that keeps the exchanges it has had, the newest first. It sees a request as `view` makes
it out of these. -/
def Model.keeping (view : List Exchange → Request → Request) (model : Model σ) :
    Model (σ × List Exchange) where
  respond := fun (a, log) q =>
    let (answer, a) := model.respond a (view log q)
    match answer with
    | .came (.ok r) => (.came (.ok r), a, ⟨q, r⟩ :: log)
    | answer => (answer, a, log)
  stream := fun (a, log) q =>
    let (answer, a) := model.stream a (view log q)
    match answer with
    | .came (.ok events) =>
      match (Session.listen events).2 with
      | .completed r => (.came (.ok events), a, ⟨q, r⟩ :: log)
      | .failed _ => (.came (.ok events), a, log)
    | answer => (answer, a, log)

/-- A model that keeps the exchanges it has had. -/
def Model.logged (model : Model σ) : Model (σ × List Exchange) := model.keeping fun _ q => q

/-- The asking of a model that keeps its exchanges. -/
def Asking.keeping (view : List Exchange → Request → Request) (ask : Asking σ) :
    Asking (σ × List Exchange) := fun (a, log) q =>
  let (answer, a) := ask a (view log q)
  match answer.2 with
  | some (.completed r) => (answer, a, ⟨q, r⟩ :: log)
  | _ => (answer, a, log)

theorem byResponse_keeping (view : List Exchange → Request → Request) (model : Model σ) :
    (model.keeping view).byResponse = Asking.keeping view model.byResponse := by
  funext ⟨a, log⟩ q
  simp only [Model.byResponse, Model.keeping, Asking.keeping]
  rcases hm : model.respond a (view log q) with ⟨(reason | r) | _, a'⟩ <;> simp only [hm]

theorem byEvents_keeping (view : List Exchange → Request → Request) (model : Model σ) :
    (model.keeping view).byEvents = Asking.keeping view model.byEvents := by
  funext ⟨a, log⟩ q
  simp only [Model.byEvents, Model.keeping, Asking.keeping]
  rcases hm : model.stream a (view log q) with ⟨(reason | events) | _, a'⟩
  · simp only [hm]
  · rcases hl : (Session.listen events).2 with r | reason <;> simp only [hm, hl]
  · simp only [hm]

theorem Asking.keeping_keeps (view : List Exchange → Request → Request) (ask : Asking σ) :
    (ask.keeping view).Keeps Prod.snd where
  completed := by
    intro ⟨a, log⟩ q chunks r a' h
    rcases ha : ask a (view log q) with ⟨⟨told, _ | r' | reason⟩, a''⟩
    all_goals
      simp only [Asking.keeping, ha] at h
      cases h
    rfl
  failed := by
    intro ⟨a, log⟩ q chunks reason a' h
    rcases ha : ask a (view log q) with ⟨⟨told, _ | r' | reason'⟩, a''⟩
    all_goals
      simp only [Asking.keeping, ha] at h
      cases h
    rfl
  silent := by
    intro ⟨a, log⟩ q chunks a' h
    rcases ha : ask a (view log q) with ⟨⟨told, _ | r' | reason⟩, a''⟩
    all_goals
      simp only [Asking.keeping, ha] at h
      cases h
    rfl

end

namespace Session

/-! ## Moments -/

/-- What a session's turn is waiting for. -/
inductive Phase
  /-- No turn is going on. -/
  | idle
  /-- For the model. -/
  | asking (draft : Draft)
  /-- For the first of the calls `rest`; the calls before it have the invocations `done`. -/
  | acting (draft : Draft) (r : Response) (done : List Invocation) (rest : List Call)
  /-- For whoever is told what the round did; then the model is asked again, or the turn ends. -/
  | telling (draft : Draft) (again : Bool)

/-- A session at some point of a conversation. -/
structure Moment where
  session : Session
  phase : Phase
  /-- The exchanges so far, the newest first. -/
  exchanges : List Exchange

/-- What may happen next. -/
inductive Moment.Step : Moment → Moment → Prop
  /-- Between two turns the instructions, the tools and the settings may change. -/
  | prepared {s log} (text : String) (tools : Toolbox) (settings : Settings) :
    Step ⟨s, .idle, log⟩
      ⟨{ s with instructions := text, tools := tools, settings := settings }, .idle, log⟩
  | began {s log} (now : Timestamp) (sender text : String) :
    Step ⟨s, .idle, log⟩
      ⟨s.beginTurn now sender text, .asking (.start sender s.settings.maxToolRounds), log⟩
  | answered {s draft log} (r : Response) :
    Step ⟨s, .asking draft, log⟩ ⟨s, .acting draft r [] r.calls, ⟨s.request, r⟩ :: log⟩
  | acted {s draft r done c rest log} (i : Invocation) :
    Step ⟨s, .acting draft r done (c :: rest), log⟩
      ⟨s.record (.acted s.name draft.sender i), .acting draft r (done ++ [i]) rest, log⟩
  | committed {s draft r done log} :
    Step ⟨s, .acting draft r done [], log⟩
      ⟨s.commit r (outputs r.calls done),
        .telling (gather draft r done (asksAgain s.settings draft r))
          (asksAgain s.settings draft r),
        log⟩
  | askedAgain {s draft log} : Step ⟨s, .telling draft true, log⟩ ⟨s, .asking draft, log⟩
  | replied {s draft log} (now : Timestamp) :
    Step ⟨s, .telling draft false, log⟩ ⟨(finish now draft s).2, .idle, log⟩
  /-- The turn fails or is dropped. -/
  | dropped {s phase log} : Step ⟨s, phase, log⟩ ⟨s, .idle, log⟩

/-- What may happen in time. -/
abbrev Moment.Steps : Moment → Moment → Prop := Relation.ReflTransGen Moment.Step

/-! ## Rounds are steps -/

theorem steps_acts (draft : Draft) (r : Response) (log : List Exchange) (is : List Invocation)
    {s : Session} {acts : List Invocation} {rest : List Call} (h : is.length ≤ rest.length) :
    Moment.Steps ⟨s, .acting draft r acts rest, log⟩
      ⟨s.recordActs draft.sender is, .acting draft r (acts ++ is) (rest.drop is.length), log⟩ := by
  induction is generalizing s acts rest with
  | nil => simpa using Relation.ReflTransGen.refl
  | cons i is ih =>
    cases rest with
    | nil => simp at h
    | cons c rest =>
      have hrest : Moment.Steps
          ⟨s.record (.acted s.name draft.sender i), .acting draft r (acts ++ [i]) rest, log⟩ _ :=
        ih (Nat.le_of_succ_le_succ h)
      rw [record_recordActs, List.append_assoc, List.singleton_append] at hrest
      exact .head (.acted i) hrest

/-- A drop ends the turn wherever it is. -/
theorem Moment.Steps.drop {m : Moment} {s : Session} {phase : Phase} {log : List Exchange}
    (h : m.Steps ⟨s, phase, log⟩) : m.Steps ⟨s, .idle, log⟩ :=
  h.tail .dropped

section
variable {σ ε : Type} {ask : Asking σ} {log : σ → List Exchange} (hlog : ask.Keeps log)
include hlog

theorem steps_heard {draft : Draft} {s : Session} {a a' : σ} {chunks : List Chunk} {r : Response}
    (ha : ask a s.request = ((chunks, some (.completed r)), a')) :
    Moment.Steps ⟨s, .asking draft, log a⟩ ⟨s, .idle, log a'⟩ := by
  rw [hlog.completed ha]
  exact .drop (.single (.answered r))

theorem steps_answered {executor : Executor ε} {now : Timestamp} {draft : Draft} {s : Session}
    {a a' : σ} {e e' : ε} {chunks : List Chunk} {r : Response} {is : List Invocation}
    {finished : Bool} (ha : ask a s.request = ((chunks, some (.completed r)), a'))
    (hc : carryOut executor now s.tools r.calls e = (is, finished, e')) :
    Moment.Steps ⟨s, .asking draft, log a⟩
      ⟨s.recordActs draft.sender is, .acting draft r is (r.calls.drop is.length), log a'⟩ := by
  rw [hlog.completed ha]
  exact .head (.answered r) (steps_acts draft r _ is (length_carryOut_le hc))

theorem steps_committed {executor : Executor ε} {now : Timestamp} {draft : Draft} {s : Session}
    {a a' : σ} {e e' : ε} {chunks : List Chunk} {r : Response} {is : List Invocation}
    (ha : ask a s.request = ((chunks, some (.completed r)), a'))
    (hc : carryOut executor now s.tools r.calls e = (is, true, e')) :
    Moment.Steps ⟨s, .asking draft, log a⟩
      ⟨(s.recordActs draft.sender is).commit r (outputs r.calls is),
        .telling (gather draft r is (asksAgain s.settings draft r)) (asksAgain s.settings draft r),
        log a'⟩ := by
  have hacted : Moment.Steps ⟨s, .asking draft, log a⟩ _ := steps_answered hlog ha hc
  rw [length_carryOut hc, List.drop_length] at hacted
  exact hacted.tail .committed

/-- **The rounds of a turn are steps**, up to its end and up to each of its chunks. -/
theorem steps_rounds (executor : Executor ε) (now : Timestamp) (left : Nat) (draft : Draft)
    (scene : Scene σ ε) :
    draft.roundsLeft = left →
      (rounds ask executor now left draft scene).Always fun state =>
        Moment.Steps ⟨scene.session, .asking draft, log scene.model⟩
          ⟨state.session, .idle, log state.model⟩ := by
  -- by the ways a round can end; each is a path of moments, from which the conversation may be
  -- dropped wherever something is heard
  refine rounds_induction (P := fun left draft scene told => draft.roundsLeft = left →
    told.Always fun state => Moment.Steps ⟨scene.session, .asking draft, log scene.model⟩
      ⟨state.session, .idle, log state.model⟩) ?silent ?failed ?pending ?again ?last left draft scene
  case silent =>
    intro left draft s a e chunks a' ha hleft
    have hdrop : Moment.Steps ⟨s, .asking draft, log a⟩ ⟨s, .idle, log a'⟩ := by
      rw [hlog.silent ha]
      exact .single .dropped
    exact Told.always_heard chunks hdrop hdrop
  case failed =>
    intro left draft s a e chunks a' reason ha hleft
    have hdrop : Moment.Steps ⟨s, .asking draft, log a⟩ ⟨s, .idle, log a'⟩ := by
      rw [hlog.failed ha]
      exact .single .dropped
    exact Told.always_heard chunks hdrop hdrop
  case pending =>
    intro left draft s a e chunks a' r is e' ha hc hleft
    exact Told.always_heard chunks (steps_heard hlog ha) (steps_answered hlog ha hc).drop
  case again =>
    intro left draft s a e chunks a' r is e' ha hc hagain scene told ih hleft
    -- one round is heard, carried out and committed; the later ones go on from there
    have hround : Moment.Steps ⟨s, .asking draft, log a⟩ _ := steps_committed hlog ha hc
    rw [← hleft] at hagain
    rw [show asksAgain s.settings draft r = true from hagain] at hround
    have hlater := (ih (by simp [gather, hleft])).imp fun state hstate =>
      (hround.tail .askedAgain).trans hstate
    exact hlater.prepend chunks is (steps_heard hlog ha) hround.drop
  case last =>
    intro left draft s a e chunks a' r is e' ha hc hagain committed closing hleft
    have hround : Moment.Steps ⟨s, .asking draft, log a⟩ _ := steps_committed hlog ha hc
    rw [← hleft] at hagain
    rw [show asksAgain s.settings draft r = false from hagain] at hround
    -- after the last round the reply is told as one more step
    have hreply := hround.tail (.replied now)
    have hdone : Told.Always ⟨[(.done closing.1, ⟨closing.2, a', e'⟩)], .replied closing.1,
        ⟨closing.2, a', e'⟩⟩ fun state : Scene σ ε =>
          Moment.Steps ⟨s, .asking draft, log a⟩ ⟨state.session, .idle, log state.model⟩ :=
      Told.always_done closing.1 hreply
    exact hdone.prepend chunks is (steps_heard hlog ha) hround.drop

theorem steps_upTo (executor : Executor ε) (now : Timestamp) (draft : Draft) (scene : Scene σ ε)
    (k : Nat) :
    let state := ((rounds ask executor now draft.roundsLeft draft scene).upTo k).2
    Moment.Steps ⟨scene.session, .asking draft, log scene.model⟩
      ⟨state.session, .idle, log state.model⟩ :=
  (steps_rounds hlog executor now draft.roundsLeft draft scene rfl).upTo k

/-- **A turn is steps**, however many of its chunks are waited for. -/
theorem steps_turn (executor : Executor ε) (now : Timestamp) (sender text : String)
    (scene : Scene σ ε) (k : Nat) :
    let state := ((turn ask executor now sender text scene).upTo k).2
    Moment.Steps ⟨scene.session, .idle, log scene.model⟩ ⟨state.session, .idle, log state.model⟩ :=
  .head (.began now sender text)
    (steps_upTo hlog executor now (.start sender scene.session.settings.maxToolRounds)
      { scene with session := scene.session.beginTurn now sender text } k)

end

/-! ## Conversations -/

/-- A session as it is before its first turn: new, or going on from a transcript. -/
inductive Opening : Session → Prop
  | new (profile : Profile) (instructions : String) (tools : Toolbox) (settings : Settings) :
    Opening { Session.new profile instructions settings with tools := tools }
  | resumed {s} (t : Transcript) : Opening s → Opening (s.withTranscript t)

/-- The moments of a session's conversation. The model, the executor and the states that they are in
may be others in every turn. -/
inductive Conversation (s₀ : Session) : Moment → Prop
  | opening : Conversation s₀ ⟨s₀, .idle, []⟩
  /-- A message is sent and whatever comes of it is waited for. -/
  | sent {s log} {σ ε : Type} (model : Model σ) (executor : Executor ε) (now : Timestamp)
      (sender text : String) (a : σ) (e : ε) {ending : Ending}
      {scene : Scene (σ × List Exchange) ε} :
    Conversation s₀ ⟨s, .idle, log⟩ →
    send model.logged executor now sender text ⟨s, (a, log), e⟩ = (ending, scene) →
    Conversation s₀ ⟨scene.session, .idle, scene.model.2⟩
  /-- A reply is streamed and dropped after some chunks, or followed to its end. -/
  | streamed {s log} {σ ε : Type} (model : Model σ) (executor : Executor ε) (now : Timestamp)
      (sender text : String) (a : σ) (e : ε) (chunks : Nat) {scene : Scene (σ × List Exchange) ε} :
    Conversation s₀ ⟨s, .idle, log⟩ →
    (stream model.logged executor now sender text ⟨s, (a, log), e⟩).after ⟨s, (a, log), e⟩ chunks =
      scene →
    Conversation s₀ ⟨scene.session, .idle, scene.model.2⟩
  /-- Anything else that may happen at a moment. -/
  | step {m m'} : Conversation s₀ m → m.Step m' → Conversation s₀ m'

/-- **A conversation consists of steps.** -/
theorem Conversation.steps {s₀ : Session} {m : Moment} (h : Conversation s₀ m) :
    Moment.Steps ⟨s₀, .idle, []⟩ m := by
  induction h with
  | opening => exact .refl
  | @sent s log σ ε model executor now sender text a e ending scene _ hscene ih =>
    have hkeeps : model.logged.byResponse.Keeps Prod.snd := by
      rw [Model.logged, byResponse_keeping]
      exact Asking.keeping_keeps _ _
    have hturn := steps_turn hkeeps executor now sender text ⟨s, (a, log), e⟩
      (turn model.logged.byResponse executor now sender text ⟨s, (a, log), e⟩).chunks.length
    rw [Told.upTo_length] at hturn
    rw [send_eq] at hscene
    cases hscene
    exact ih.trans hturn
  | @streamed s log σ ε model executor now sender text a e chunks scene _ hscene ih =>
    have hkeeps : model.logged.byEvents.Keeps Prod.snd := by
      rw [Model.logged, byEvents_keeping]
      exact Asking.keeping_keeps _ _
    rw [← hscene]
    cases chunks with
    | zero => exact ih
    | succ k =>
      rw [Told.after_succ, stream_eq]
      exact ih.trans (steps_turn hkeeps executor now sender text ⟨s, (a, log), e⟩ k)
  | step _ hstep ih => exact ih.tail hstep

end Session

end Inquest

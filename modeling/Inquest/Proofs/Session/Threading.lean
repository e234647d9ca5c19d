import Inquest.Proofs.Session.Conversation

/-! # Naming a response is as good as resending everything before it

A request either carries the whole history or only what is new, and then it names the response that
it goes on from. `context` is what the service holds under a response's id: the context of its
request, the request's input and the response's output.

* `Synced`: the service holds the first `submitted` items of the history under the id that the
  session names. `threads_step`: each step keeps that, while responses have ids of their own.
* `Model.threaded`: a service that answers from the resolved request alone.
* `upTo_rounds`, `converse_threaded`: whatever a session sends, such a service answers as the model
  inside it answers the whole history.
-/

namespace Inquest

/-- The ids of the responses. -/
def responseIds (log : List Exchange) : List String := log.map fun x => x.response.id

/-- What the service holds under the id of a response, or under none. The service had the older
exchanges when it took the request. -/
def context : List Exchange → Option String → List Item
  | _, none => []
  | [], some _ => []
  | x :: older, some id =>
    if x.response.id = id then
      context older x.request.previousResponseId ++ x.request.input ++ x.response.output
    else context older (some id)

@[simp] theorem context_none (log : List Exchange) : context log none = [] := by
  cases log <;> rfl

theorem context_newest (x : Exchange) (older : List Exchange) :
    context (x :: older) (some x.response.id) =
      context older x.request.previousResponseId ++ x.request.input ++ x.response.output := by
  rw [context, if_pos rfl]

/-- A response with an id of its own changes no other context. -/
theorem context_cons {x : Exchange} {older : List Exchange} {previous : Option String}
    (hknown : ∀ id, previous = some id → id ∈ responseIds older)
    (hids : (responseIds (x :: older)).Nodup) :
    context (x :: older) previous = context older previous := by
  cases previous with
  | none => rw [context_none, context_none]
  | some id =>
    have hne : x.response.id ≠ id := by
      intro h
      rw [responseIds, List.map_cons, List.nodup_cons, h] at hids
      exact hids.1 (hknown id rfl)
    rw [context, if_neg hne]

/-- The request with all that the service holds for it. -/
def Request.resolved (log : List Exchange) (q : Request) : Request :=
  { q with input := context log q.previousResponseId ++ q.input, previousResponseId := none }

/-- A service that answers from the resolved request alone. -/
def Model.threaded {σ : Type} (model : Model σ) : Model (σ × List Exchange) :=
  model.keeping Request.resolved

namespace Session

/-! ## What the service holds -/

/-- The session with another way to reach the model. -/
def under (c : ContextStrategy) (s : Session) : Session :=
  { s with settings := { s.settings with context := c } }

/-- The service holds what the session takes for submitted. -/
structure Synced (log : List Exchange) (s : Session) : Prop where
  bound : s.submitted ≤ s.history.length
  held : context log s.previousResponseId = s.history.take s.submitted
  known : ∀ id, s.previousResponseId = some id → id ∈ responseIds log

theorem Opening.synced {s : Session} (h : Opening s) : Synced [] s := by
  have hfresh : s.submitted = 0 ∧ s.previousResponseId = none := by
    induction h with
    | new => exact ⟨rfl, rfl⟩
    | resumed t _ ih => exact ih
  refine ⟨by rw [hfresh.1]; exact Nat.zero_le _, ?_, fun id hid => ?_⟩
  · rw [hfresh.1, hfresh.2, context_none, List.take_zero]
  · rw [hfresh.2] at hid
    cases hid

section
variable {log : List Exchange} {s : Session}

/-- Under what a request names the service holds all that it leaves out. -/
theorem Synced.whole (h : Synced log s) :
    context log s.request.previousResponseId ++ s.request.input = s.history := by
  rw [request]
  cases s.settings.context with
  | fullTranscript => rw [context_none, List.nil_append]
  | previousResponse => rw [h.held, unsent, List.take_append_drop]

/-- A session whose requests the service resolves to its history: it resends the history, or the
service is in step with it. -/
def Resolvable (log : List Exchange) (s : Session) : Prop :=
  Synced log s ∨ s.settings.context = .fullTranscript

theorem Resolvable.whole (h : Resolvable log s) :
    context log s.request.previousResponseId ++ s.request.input = s.history := by
  rcases h with h | h
  · exact h.whole
  · rw [request, h, context_none, List.nil_append]

theorem resolved_request (h : Resolvable log s) :
    s.request.resolved log = (s.under .fullTranscript).request := by
  rw [Request.resolved, h.whole]
  rfl

/-- A history that grows stays in step. -/
theorem Synced.grow (h : Synced log s) {s' : Session} {items : List Item}
    (hhistory : s'.history = s.history ++ items) (hsubmitted : s'.submitted = s.submitted)
    (hprevious : s'.previousResponseId = s.previousResponseId) : Synced log s' where
  bound := by
    rw [hhistory, hsubmitted, List.length_append]
    exact Nat.le_add_right_of_le h.bound
  held := by
    rw [hprevious, h.held, hhistory, hsubmitted, List.take_append_of_le_length h.bound]
  known := by
    rw [hprevious]
    exact h.known

theorem Synced.heard (h : Synced log s) {x : Exchange} (hids : (responseIds (x :: log)).Nodup) :
    Synced (x :: log) s where
  bound := h.bound
  held := by rw [context_cons h.known hids, h.held]
  known := fun id hid => List.mem_cons_of_mem _ (h.known id hid)

end

/-! ## Along a conversation -/

/-- The service holds what it should, and with the response that is being carried out the
history. -/
structure Threads (m : Moment) : Prop where
  synced : Synced m.exchanges m.session
  acting : ∀ {draft r acts rest}, m.phase = .acting draft r acts rest →
    ∃ q older, m.exchanges = ⟨q, r⟩ :: older ∧
      context older q.previousResponseId ++ q.input = m.session.history

/-- **Each step keeps the session and the service in step.** -/
theorem threads_step {m m' : Moment} (hstep : m.Step m') (h : Threads m)
    (hids : (responseIds m'.exchanges).Nodup) : Threads m' := by
  cases hstep with
  | prepared text tools settings => exact ⟨⟨h.synced.bound, h.synced.held, h.synced.known⟩, nofun⟩
  | began now sender text =>
    exact ⟨h.synced.grow (history_beginTurn ..) rfl rfl, nofun⟩
  | @answered s draft log r =>
    -- the service learns a response; under an id of its own it hides none of the earlier ones
    refine ⟨h.synced.heard hids, fun hp => ?_⟩
    cases hp
    exact ⟨s.request, log, rfl, h.synced.whole⟩
  | acted i =>
    have hsynced := h.synced
    refine ⟨⟨hsynced.bound, hsynced.held, hsynced.known⟩, fun hp => ?_⟩
    cases hp
    exact h.acting rfl
  | @committed s draft r acts log =>
    -- the session catches up with the response that the service has known since it answered
    obtain ⟨q, older, hlog, hheld⟩ := h.acting rfl
    have hlog : log = ⟨q, r⟩ :: older := hlog
    refine ⟨⟨?bound, ?held, ?known⟩, nofun⟩
    case bound => simp [commit]
    case held =>
      have hnewest := context_newest ⟨q, r⟩ older
      rw [hheld] at hnewest
      simp only [commit, hlog, hnewest, List.take_left]
    case known =>
      intro id hid
      cases hid
      rw [hlog]
      exact List.mem_cons_self
  | askedAgain => exact ⟨h.synced, nofun⟩
  | replied now =>
    have hsynced := h.synced
    exact ⟨⟨hsynced.bound, hsynced.held, hsynced.known⟩, nofun⟩
  | dropped => exact ⟨h.synced, nofun⟩

theorem Moment.Step.suffix {m m' : Moment} (h : m.Step m') : m.exchanges <:+ m'.exchanges := by
  cases h with
  | answered r => exact List.suffix_cons _ _
  | _ => exact List.suffix_refl _

theorem Moment.Steps.suffix {m m' : Moment} (h : m.Steps m') : m.exchanges <:+ m'.exchanges := by
  induction h with
  | refl => exact List.suffix_refl _
  | tail _ hstep ih => exact ih.trans hstep.suffix

theorem nodup_of_suffix {log log' : List Exchange} (h : log <:+ log')
    (hids : (responseIds log').Nodup) : (responseIds log).Nodup :=
  hids.sublist (h.sublist.map _)

/-- A service stays in step with a session that it hears no more of. -/
theorem Resolvable.later {log log' : List Exchange} {s : Session} (h : Resolvable log s)
    (hsuffix : log <:+ log')
    (hids : (responseIds log').Nodup ∨ s.settings.context = .fullTranscript) :
    Resolvable log' s := by
  rcases h with h | h
  · rcases hids with hids | hids
    · obtain ⟨newer, rfl⟩ := hsuffix
      induction newer with
      | nil => exact .inl h
      | cons x newer ih =>
        rcases ih (nodup_of_suffix (List.suffix_cons x _) hids) with h | h
        · exact .inl (h.heard hids)
        · exact .inr h
    · exact .inr hids
  · exact .inr h

theorem threads_steps {m m' : Moment} (hsteps : m.Steps m') (h : Threads m)
    (hids : (responseIds m'.exchanges).Nodup) : Threads m' := by
  induction hsteps with
  | refl => exact h
  | tail _ hstep ih => exact threads_step hstep (ih (nodup_of_suffix hstep.suffix hids)) hids

/-! ## Against a service that resolves requests -/

variable {σ ε : Type}

/-- The scene with a session that resends everything and the model behind the service. -/
def plain (scene : Scene (σ × List Exchange) ε) : Scene σ ε :=
  ⟨scene.session.under .fullTranscript, scene.model.1, scene.executor⟩

theorem keeping_answer {ask : Asking σ} {view : List Exchange → Request → Request} {a a' : σ}
    {log log' : List Exchange} {q : Request} {answer : List Chunk × Option Heard}
    (h : ask.keeping view (a, log) q = (answer, (a', log'))) :
    ask a (view log q) = (answer, a') := by
  rcases ha : ask a (view log q) with ⟨⟨told, _ | r | reason⟩, a''⟩
  all_goals
    simp only [Asking.keeping, ha] at h
    cases h
    rfl

theorem resolvable_committed {ask : Asking σ} {view : List Exchange → Request → Request}
    {executor : Executor ε} {now : Timestamp} {sender : String} {s : Session}
    {a a' : σ × List Exchange} {e e' : ε} {chunks : List Chunk} {r : Response}
    {is : List Invocation} (hs : Resolvable a.2 s)
    (ha : ask.keeping view a s.request = ((chunks, some (.completed r)), a'))
    (hc : carryOut executor now s.tools r.calls e = (is, true, e'))
    (hids : (responseIds a'.2).Nodup ∨ s.settings.context = .fullTranscript) :
    Resolvable a'.2 ((s.recordActs sender is).commit r (outputs r.calls is)) := by
  rcases hs with hs | hs
  · rcases hids with hids | hids
    · have hsteps : Moment.Steps ⟨s, .asking (.start sender 0), a.2⟩ _ :=
        steps_committed (ask.keeping_keeps view) ha hc
      exact .inl (threads_steps hsteps ⟨hs, nofun⟩ hids).synced
    · exact .inr hids
  · exact .inr hs

theorem upTo_rounds (ask : Asking σ) (executor : Executor ε) (now : Timestamp) (left : Nat)
    (draft : Draft) (scene : Scene (σ × List Exchange) ε) :
    draft.roundsLeft = left → Resolvable scene.model.2 scene.session → ∀ k,
      let told := rounds (ask.keeping Request.resolved) executor now left draft scene
      (responseIds (told.upTo k).2.model.2).Nodup ∨
        scene.session.settings.context = .fullTranscript →
      (rounds ask executor now left draft (plain scene)).upTo k =
        ((told.upTo k).1, plain (told.upTo k).2) := by
  -- in each case the threaded answer is the plain answer to the whole history, so both loops take
  -- the same turn; only a round that asks again leaves anything to the induction
  refine rounds_induction (P := fun left draft scene told => draft.roundsLeft = left →
    Resolvable scene.model.2 scene.session → ∀ k,
      (responseIds (told.upTo k).2.model.2).Nodup ∨
        scene.session.settings.context = .fullTranscript →
      (rounds ask executor now left draft (plain scene)).upTo k =
        ((told.upTo k).1, plain (told.upTo k).2))
    ?silent ?failed ?pending ?again ?last left draft scene
  case silent =>
    intro left draft s ⟨a, log⟩ e chunks ⟨a', log'⟩ ha hleft hs k _
    have ha' := keeping_answer ha
    rw [resolved_request hs] at ha'
    rw [plain, rounds_silent ha', ← Told.upTo_map, Told.map, List.map_map]
    rfl
  case failed =>
    intro left draft s ⟨a, log⟩ e chunks ⟨a', log'⟩ reason ha hleft hs k _
    have ha' := keeping_answer ha
    rw [resolved_request hs] at ha'
    rw [plain, rounds_failed ha', ← Told.upTo_map, Told.map, List.map_map]
    rfl
  case pending =>
    intro left draft s ⟨a, log⟩ e chunks ⟨a', log'⟩ r is e' ha hc hleft hs k _
    have ha' := keeping_answer ha
    rw [resolved_request hs] at ha'
    rw [plain, rounds_pending ha' hc, ← Told.upTo_map, Told.map, List.map_map]
    rfl
  case again =>
    intro left draft s ⟨a, log⟩ e chunks ⟨a', log'⟩ r is e' ha hc hagain scene told ih hleft
      hs k hids
    have ha' := keeping_answer ha
    rw [resolved_request hs] at ha'
    -- what is heard of this round, each piece with the scene that it leaves
    let heard := (chunks.map fun c => (c, ⟨s, (a', log'), e⟩)) ++ is.map fun i => (.action i, scene)
    have hround : rounds ask executor now (left + 1) draft (plain ⟨s, (a, log), e⟩) =
        (rounds ask executor now left (gather draft r is true) (plain scene)).prepend
          (heard.map fun c => (c.1, plain c.2)) := by
      simp only [heard, List.map_append, List.map_map]
      exact rounds_again ha' hc hagain
    have hnext : (gather draft r is true).roundsLeft = left := by simp [gather, hleft]
    rw [hround]
    -- `k` lies within this round, or the rest of the loop is asked about with what is left of `k`
    refine Told.upTo_prepend_map heard told plain _ k fun hk => ?_
    rw [Told.upTo_prepend_of_ge _ _ hk] at hids
    have hlater := steps_upTo (ask.keeping_keeps Request.resolved) executor now
      (gather draft r is true) scene (k - heard.length)
    rw [hnext] at hlater
    -- ids distinct up to there are distinct after this round, so the service is still in step
    refine ih hnext (resolvable_committed hs ha hc ?_) (k - heard.length) hids
    exact hids.imp_left fun hnodup => nodup_of_suffix hlater.suffix hnodup
  case last =>
    intro left draft s ⟨a, log⟩ e chunks ⟨a', log'⟩ r is e' ha hc hagain committed closing hleft
      hs k _
    have ha' := keeping_answer ha
    rw [resolved_request hs] at ha'
    have hround : rounds ask executor now left draft (plain ⟨s, (a, log), e⟩) = _ :=
      rounds_last ha' hc hagain
    rw [hround, ← Told.upTo_map, Told.map]
    simp only [List.map_append, List.map_map]
    rfl

theorem upTo_turn {ask : Asking σ} {executor : Executor ε} {now : Timestamp} {sender text : String}
    {scene : Scene (σ × List Exchange) ε} (hs : Resolvable scene.model.2 scene.session) (k : Nat)
    (hids : (responseIds ((turn (ask.keeping Request.resolved) executor now sender text scene).upTo
      k).2.model.2).Nodup ∨ scene.session.settings.context = .fullTranscript) :
    (turn ask executor now sender text (plain scene)).upTo k =
      (((turn (ask.keeping Request.resolved) executor now sender text scene).upTo k).1,
        plain ((turn (ask.keeping Request.resolved) executor now sender text scene).upTo k).2) := by
  refine upTo_rounds ask executor now scene.session.settings.maxToolRounds
    (.start sender scene.session.settings.maxToolRounds)
    { scene with session := scene.session.beginTurn now sender text } rfl ?_ k hids
  exact hs.imp_left fun hsynced => hsynced.grow (history_beginTurn ..) rfl rfl

/-! ## Runs of messages -/

/-- A message to the suspect. -/
structure Message where
  now : Timestamp
  sender : String
  text : String
  /-- After how many chunks a streamed reply is dropped; without it the reply is waited for as a
  whole. -/
  chunks : Option Nat

/-- The message delivered: what is heard of its reply, and the scene then. -/
def Message.deliver (model : Model σ) (executor : Executor ε) (m : Message) (scene : Scene σ ε) :
    (List Chunk × Option Ending) × Scene σ ε :=
  match m.chunks with
  | none =>
    let (ending, scene) := send model executor m.now m.sender m.text scene
    (([], some ending), scene)
  | some 0 => (([], none), scene)
  | some (k + 1) => (stream model executor m.now m.sender m.text scene).upTo k

/-- Messages delivered one after the other. -/
def converse (model : Model σ) (executor : Executor ε) :
    List Message → Scene σ ε → List (List Chunk × Option Ending) × Scene σ ε
  | [], scene => ([], scene)
  | m :: rest, scene =>
    let (heard, scene) := m.deliver model executor scene
    let (later, scene) := converse model executor rest scene
    (heard :: later, scene)

section
variable (model : Model σ) (executor : Executor ε)

theorem steps_deliver (view : List Exchange → Request → Request) (m : Message)
    (scene : Scene (σ × List Exchange) ε) :
    Moment.Steps ⟨scene.session, .idle, scene.model.2⟩
      ⟨(m.deliver (model.keeping view) executor scene).2.session, .idle,
        (m.deliver (model.keeping view) executor scene).2.model.2⟩ := by
  obtain ⟨now, sender, text, _ | _ | k⟩ := m
  · simp only [Message.deliver, send_eq, byResponse_keeping]
    have hsteps := steps_turn (model.byResponse.keeping_keeps view) executor now sender text scene
      (turn (model.byResponse.keeping view) executor now sender text scene).chunks.length
    rwa [Told.upTo_length] at hsteps
  · exact .refl
  · simp only [Message.deliver, stream_eq, byEvents_keeping]
    exact steps_turn (model.byEvents.keeping_keeps view) executor now sender text scene k

theorem strategy_deliver (m : Message) (scene : Scene σ ε) :
    (m.deliver model executor scene).2.session.settings.context =
      scene.session.settings.context := by
  have hkeeps (ask : Asking σ) (k : Nat) :
      ((turn ask executor m.now m.sender m.text scene).upTo k).2.session.settings.context =
        scene.session.settings.context :=
    turn_keeps (P := fun s => s.settings.context = scene.session.settings.context)
      (Q := fun _ => True) (fun _ _ _ => trivial) (fun _ _ _ _ _ h => h) (fun _ _ _ _ h => h)
      (fun _ _ _ h => h) (fun _ _ _ _ h => h) ask m.now m.sender m.text scene rfl k
  obtain ⟨now, sender, text, _ | _ | k⟩ := m
  · have hfinal := hkeeps model.byResponse
      (turn model.byResponse executor now sender text scene).chunks.length
    rw [Told.upTo_length] at hfinal
    simpa only [Message.deliver, send_eq] using hfinal
  · rfl
  · simpa only [Message.deliver, stream_eq] using hkeeps model.byEvents k

theorem resolvable_deliver (view : List Exchange → Request → Request) (m : Message)
    {scene : Scene (σ × List Exchange) ε} (hs : Resolvable scene.model.2 scene.session)
    (hids : (responseIds (m.deliver (model.keeping view) executor scene).2.model.2).Nodup ∨
      scene.session.settings.context = .fullTranscript) :
    Resolvable (m.deliver (model.keeping view) executor scene).2.model.2
      (m.deliver (model.keeping view) executor scene).2.session := by
  have hstrategy := strategy_deliver (model.keeping view) executor m scene
  rcases hs with hs | hs
  · rcases hids with hids | hids
    · have hsteps := steps_deliver model executor view m scene
      exact .inl (threads_steps hsteps ⟨hs, nofun⟩ hids).synced
    · exact .inr (hstrategy.trans hids)
  · exact .inr (hstrategy.trans hs)

/-- A message to a session, whatever it sends, is answered as if it resent everything. -/
theorem deliver_threaded (m : Message) {scene : Scene (σ × List Exchange) ε}
    (hs : Resolvable scene.model.2 scene.session)
    (hids : (responseIds (m.deliver model.threaded executor scene).2.model.2).Nodup ∨
      scene.session.settings.context = .fullTranscript) :
    m.deliver model executor (plain scene) =
      ((m.deliver model.threaded executor scene).1,
        plain (m.deliver model.threaded executor scene).2) := by
  obtain ⟨now, sender, text, _ | _ | k⟩ := m
  · simp only [Message.deliver, send_eq, Model.threaded, byResponse_keeping] at hids ⊢
    have hturn := upTo_turn hs
      (turn (model.byResponse.keeping Request.resolved) executor now sender text
        scene).chunks.length
      (by rwa [Told.upTo_length])
    rw [Told.upTo_length] at hturn
    obtain ⟨hending, hfinal⟩ := Told.upTo_ended _ (congrArg (fun heard => heard.1.2) hturn)
    rw [hending, hfinal, hturn]
  · rfl
  · simp only [Message.deliver, stream_eq, Model.threaded, byEvents_keeping] at hids ⊢
    exact upTo_turn hs k hids

theorem steps_converse (view : List Exchange → Request → Request) (messages : List Message)
    (scene : Scene (σ × List Exchange) ε) :
    Moment.Steps ⟨scene.session, .idle, scene.model.2⟩
      ⟨(converse (model.keeping view) executor messages scene).2.session, .idle,
        (converse (model.keeping view) executor messages scene).2.model.2⟩ := by
  induction messages generalizing scene with
  | nil => exact .refl
  | cons m rest ih => exact (steps_deliver model executor view m scene).trans (ih _)

theorem strategy_converse (messages : List Message) (scene : Scene σ ε) :
    (converse model executor messages scene).2.session.settings.context =
      scene.session.settings.context := by
  induction messages generalizing scene with
  | nil => rfl
  | cons m rest ih => exact (ih _).trans (strategy_deliver model executor m scene)

/-- A run of messages to a session, whatever it sends, goes as if it resent everything. -/
theorem converse_threaded (messages : List Message) (scene : Scene (σ × List Exchange) ε)
    (hs : Resolvable scene.model.2 scene.session)
    (hids : (responseIds (converse model.threaded executor messages scene).2.model.2).Nodup ∨
      scene.session.settings.context = .fullTranscript) :
    converse model executor messages (plain scene) =
      ((converse model.threaded executor messages scene).1,
        plain (converse model.threaded executor messages scene).2) := by
  induction messages generalizing scene with
  | nil => rfl
  | cons m rest ih =>
    have hlater := (steps_converse model executor Request.resolved rest
      (m.deliver model.threaded executor scene).2).suffix
    have hfirst := deliver_threaded model executor m hs
      (hids.imp_left fun hnodup => nodup_of_suffix hlater hnodup)
    have hnext : Resolvable (m.deliver model.threaded executor scene).2.model.2
        (m.deliver model.threaded executor scene).2.session :=
      resolvable_deliver model executor Request.resolved m hs
        (hids.imp_left fun hnodup => nodup_of_suffix hlater hnodup)
    have hrest := ih _ hnext
      (hids.imp_right fun hfull => (strategy_deliver model.threaded executor m scene).trans hfull)
    simp only [converse, hfirst, hrest]

end

/-! ## Conversations -/

theorem submitted_le_step {m m' : Moment} (hstep : m.Step m')
    (h : m.session.submitted ≤ m.session.history.length) :
    m'.session.submitted ≤ m'.session.history.length := by
  cases hstep with
  | began now sender text =>
    rw [history_beginTurn, List.length_append]
    exact Nat.le_add_right_of_le h
  | committed => simp [commit]
  | _ => exact h

theorem submitted_le_steps {m m' : Moment} (hsteps : m.Steps m')
    (h : m.session.submitted ≤ m.session.history.length) :
    m'.session.submitted ≤ m'.session.history.length := by
  induction hsteps with
  | refl => exact h
  | tail _ hstep ih => exact submitted_le_step hstep ih

/-- **Naming the last response is as good as resending the history.** What a session takes for
submitted is a part of its history, the service holds exactly that part under the id that the
session names, and so a request comes with all that one with the whole history has. Hence two
sessions that differ in what they send get the same replies from a service that answers from the
resolved request alone, and end as the same session but for that. -/
theorem threading_resends {s₀ : Session} (h₀ : Opening s₀) :
    (∀ m, Conversation s₀ m → m.session.submitted ≤ m.session.history.length ∧
      ((responseIds m.exchanges).Nodup →
        context m.exchanges m.session.previousResponseId =
            m.session.history.take m.session.submitted ∧
          context m.exchanges m.session.request.previousResponseId ++ m.session.request.input =
            (m.session.under .fullTranscript).request.input)) ∧
    ∀ {σ ε : Type} (model : Model σ) (executor : Executor ε) (messages : List Message)
        (a : σ) (e : ε),
      let threads :=
        converse model.threaded executor messages ⟨s₀.under .previousResponse, (a, []), e⟩
      let resends := converse model.threaded executor messages
        ⟨s₀.under .fullTranscript, (a, []), e⟩
      (responseIds threads.2.model.2).Nodup →
        threads.1 = resends.1 ∧
          threads.2.session.under .fullTranscript = resends.2.session ∧
          threads.2.model.1 = resends.2.model.1 ∧ threads.2.executor = resends.2.executor := by
  have hsynced := h₀.synced
  refine ⟨fun m hm => ?_, ?_⟩
  · refine ⟨submitted_le_steps hm.steps hsynced.bound, fun hids => ?_⟩
    have hthreads : Synced m.exchanges m.session :=
      (threads_steps hm.steps ⟨hsynced, nofun⟩ hids).synced
    exact ⟨hthreads.held, hthreads.whole⟩
  · intro σ ε model executor messages a e threads resends hids
    have hstart : Synced [] (s₀.under .previousResponse) :=
      ⟨hsynced.bound, hsynced.held, hsynced.known⟩
    -- both strategies amount to the plain model that is sent the whole history each time
    have hthreads : converse model executor messages ⟨s₀.under .fullTranscript, a, e⟩ =
        (threads.1, plain threads.2) :=
      converse_threaded model executor messages ⟨_, (a, []), e⟩ (.inl hstart) (.inl hids)
    have hresends : converse model executor messages ⟨s₀.under .fullTranscript, a, e⟩ =
        (resends.1, plain resends.2) :=
      converse_threaded model executor messages ⟨s₀.under .fullTranscript, (a, []), e⟩ (.inr rfl)
        (.inr rfl)
    obtain ⟨hheard, hscenes⟩ := Prod.mk.inj (hthreads.symm.trans hresends)
    -- so the sessions differ in the strategy alone, which no message changes
    have hstrategy : resends.2.session.settings.context = .fullTranscript :=
      strategy_converse model.threaded executor messages ⟨s₀.under .fullTranscript, (a, []), e⟩
    have hunder : resends.2.session.under .fullTranscript = resends.2.session := by
      rw [under, ← hstrategy]
    have hsession : (plain threads.2).session = (plain resends.2).session := by rw [hscenes]
    have hmodel : (plain threads.2).model = (plain resends.2).model := by rw [hscenes]
    have hexecutor : (plain threads.2).executor = (plain resends.2).executor := by rw [hscenes]
    exact ⟨hheard, hsession.trans hunder, hmodel, hexecutor⟩

/-- The response with a number that tells how many items were asked. -/
def counted (n : Nat) (q : Request) : Response :=
  ⟨if n = 0 then "r0" else "r1", "m", .completed,
    [.assistantText (if q.input.length = 3 then "three" else "one")], ⟨0, 0⟩, .null⟩

/-- A service that numbers its responses. -/
def counting : Model Nat where
  respond n q := (.came (.ok (counted n q)), n + 1)
  stream n q := (.came (.ok [.ok (.completed (counted n q))]), n + 1)

/-- A second message while the service holds the first round, and both messages in a run. -/
theorem threading_resends_twice :
    let s₀ := Session.new (.new "Rosa" "cook" "a knife") "Be brief." .default
    let asked := s₀.beginTurn default "Ann" "Hello."
    let r : Response := ⟨"r0", "m", .completed, [.assistantText "one"], ⟨0, 0⟩, .null⟩
    let again := (asked.commit r []).beginTurn default "Ann" "Well?"
    let executor : Executor Unit := ⟨fun _ e _ _ => (.panicked, e)⟩
    let messages : List Message :=
      [⟨default, "Ann", "Hello.", none⟩, ⟨default, "Ann", "Well?", some 9⟩]
    let threads :=
      converse counting.threaded executor messages ⟨s₀.under .previousResponse, (0, []), ()⟩
    let resends := converse counting.threaded executor messages
      ⟨s₀.under .fullTranscript, (0, []), ()⟩
    Opening s₀ ∧ Conversation s₀ ⟨again, .asking (.start "Ann" 4), [⟨asked.request, r⟩]⟩ ∧
      (responseIds [⟨asked.request, r⟩]).Nodup ∧
      context [⟨asked.request, r⟩] again.request.previousResponseId ++ again.request.input =
        again.history ∧
      (responseIds threads.2.model.2).Nodup ∧ threads.1 = resends.1 := by
  intro s₀ asked r again executor messages threads resends
  have hopening : Opening s₀ := .new ..
  have hcommitted : Conversation s₀ ⟨asked.commit r [], .idle, [⟨asked.request, r⟩]⟩ :=
    .step (.step (.step (.step .opening (.began default "Ann" "Hello.")) (.answered r)) .committed)
      .dropped
  have hagain : Conversation s₀ ⟨again, .asking (.start "Ann" 4), [⟨asked.request, r⟩]⟩ :=
    .step hcommitted (.began default "Ann" "Well?")
  have hid : (responseIds [⟨asked.request, r⟩]).Nodup := by simp [responseIds]
  have hids : (responseIds threads.2.model.2).Nodup := by decide +kernel
  obtain ⟨hmoments, hruns⟩ := threading_resends hopening
  exact ⟨hopening, hagain, hid, ((hmoments _ hagain).2 hid).2, hids,
    (hruns counting executor messages 0 () hids).1⟩

end Session

end Inquest

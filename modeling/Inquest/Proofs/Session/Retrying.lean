import Mathlib.Data.List.DropRight
import Inquest.Proofs.Session.Journal

/-! # What a round that comes to nothing leaves behind

A request whose response is never complete leaves the session as it was when the request was made. So
whatever fails, the next request comes with the context of the last committed round, the outputs that
this round left to be sent, and every message since.

* `Incomplete`: where a turn may be left before a response is complete. `Halt.untouched`.
* `standing`: what the service has been told or is yet to be told of the last committed round.
* `Base`: `standing` by the session that made the round's request; it outlives later exchanges.
* `Journal.standing`: what a session's history consists of after a run.
-/

namespace Inquest

namespace Session

variable {σ ε : Type}

/-! ## A round that fails -/

/-- A turn is left at this point before the response to the request made in `between` is complete. -/
inductive Incomplete (ask : Asking σ) (between : Scene σ ε) : Point → Prop
  | failed (reason : TurnError) : Incomplete ask between (.ended (.failed reason))
  /-- Whoever waited for the model gave up. -/
  | silent : (ask between.model between.session.request).1.2 = none →
    Incomplete ask between (.ended .abandoned)
  | text (t : String) : Incomplete ask between (.told (.text t))
  | processing : Incomplete ask between (.told .processing)

/-- **A round that fails touches nothing but the model.** -/
theorem Halt.untouched {ask : Asking σ} {executor : Executor ε} {now : Timestamp} {bound : Nat}
    {draft : Draft} {rounds : List Round} {between later : Scene σ ε} {acts : List Invocation}
    {point : Point} (h : Halt ask executor now bound draft rounds between acts point later)
    (hpoint : Incomplete ask between point) : later = { between with model := later.model } := by
  cases h with
  | hearing => rfl
  | silent => rfl
  | failed => rfl
  | pending _ ha =>
    cases hpoint with
    | silent hnone =>
      rw [ha] at hnone
      cases hnone
  | telling => cases hpoint
  | replied _ _ hreply => cases hpoint <;> cases hreply

/-! ## What a run stands on -/

/-- The message as the model is told it. -/
def Message.said (m : Message) : Item := .userText (frameMessage m.sender m.text)

/-- The last round that was committed. -/
def lastRound? (pages : List Page) : Option Round := (pages.flatMap Page.rounds).getLast?

/-- The messages since the last round that was committed. -/
def saidSince (pages : List Page) : List Message :=
  (pages.rtakeWhile fun p => p.rounds.isEmpty).map Page.message

/-- What the service holds under the response of a round: the context and the input of the round's
request, and the output. -/
def Round.held (log : List Exchange) (x : Round) : List Item :=
  context log x.request.previousResponseId ++ x.request.input ++ x.response.output

/-- The context of the last committed round and the outputs of its calls; what the session began with
if there is none. -/
def standing (s₀ : Session) (log : List Exchange) : Option Round → List Item
  | none => s₀.history
  | some x => x.held log ++ outputs x.response.calls x.invocations

theorem lastRound?_concat_nil {pages : List Page} {p : Page} (h : p.rounds = []) :
    lastRound? (pages ++ [p]) = lastRound? pages := by
  rw [lastRound?, List.flatMap_append, List.flatMap_singleton, h, List.append_nil]
  rfl

theorem lastRound?_concat {pages : List Page} {p : Page} (h : p.rounds ≠ []) :
    lastRound? (pages ++ [p]) = p.rounds.getLast? := by
  rw [lastRound?, List.flatMap_append, List.flatMap_singleton, List.getLast?_append_of_ne_nil _ h]

theorem saidSince_concat_nil {pages : List Page} {p : Page} (h : p.rounds = []) :
    saidSince (pages ++ [p]) = saidSince pages ++ [p.message] := by
  rw [saidSince, List.rtakeWhile_concat_pos _ _ _ (by rw [h]; rfl), List.map_append]
  rfl

theorem saidSince_concat {pages : List Page} {p : Page} (h : p.rounds ≠ []) :
    saidSince (pages ++ [p]) = [] := by
  rw [saidSince, List.rtakeWhile_concat_neg _ _ _ (by simpa using h)]
  rfl

/-- `standing`, where the session that made the round's request can still be resolved. -/
inductive Base (s₀ : Session) (log : List Exchange) : Option Round → List Item → Prop
  | opening : Base s₀ log none s₀.history
  | round {s x} : Resolvable log s → s.settings.context = s₀.settings.context →
    x.request = s.request →
    Base s₀ log (some x) (s.history ++ x.response.output ++ outputs x.response.calls x.invocations)

section
variable {s₀ : Session} {log log' : List Exchange} {x : Option Round} {items : List Item}

theorem Base.standing (h : Base s₀ log x items) : items = standing s₀ log x := by
  cases h with
  | opening => rfl
  | round hs _ hrequest => rw [Session.standing, Round.held, hrequest, hs.whole]

theorem Base.later (h : Base s₀ log x items) (hsuffix : log <:+ log')
    (hids : (responseIds log').Nodup ∨ s₀.settings.context = .fullTranscript) :
    Base s₀ log' x items := by
  cases h with
  | opening => exact .opening
  | round hs hstrategy hrequest =>
    exact .round (hs.later hsuffix (hids.imp_right hstrategy.trans)) hstrategy hrequest

end

/-! ## One message -/

section
variable {ask : Asking σ} {view : List Exchange → Request → Request} {executor : Executor ε}
  {now : Timestamp} {sender : String} {scene between later : Scene (σ × List Exchange) ε}
  {rounds : List Round}

theorem Committed.suffix
    (h : Committed (ask.keeping view) executor now sender scene rounds between) :
    scene.model.2 <:+ between.model.2 := by
  induction h with
  | none => exact List.suffix_refl _
  | next ha _ _ ih => exact ((ask.keeping_keeps view).suffix ha).trans ih

theorem Halt.suffix {bound : Nat} {draft : Draft} {acts : List Invocation} {point : Point}
    (h : Halt (ask.keeping view) executor now bound draft rounds between acts point later) :
    between.model.2 <:+ later.model.2 := by
  cases h with
  | hearing _ ha => exact (ask.keeping_keeps view).suffix ha
  | silent _ ha => exact (ask.keeping_keeps view).suffix ha
  | failed _ ha => exact (ask.keeping_keeps view).suffix ha
  | pending _ ha => exact (ask.keeping_keeps view).suffix ha
  | telling => exact List.suffix_refl _
  | replied => exact List.suffix_refl _

/-- After committed rounds the history is what the last of them stands on. -/
theorem Committed.base {s₀ : Session}
    (h : Committed (ask.keeping view) executor now sender scene rounds between)
    (hrounds : rounds ≠ []) (hs : Resolvable scene.model.2 scene.session)
    (hstrategy : scene.session.settings.context = s₀.settings.context)
    (hids : (responseIds between.model.2).Nodup ∨ s₀.settings.context = .fullTranscript) :
    Base s₀ between.model.2 rounds.getLast? between.session.history := by
  induction h with
  | none => exact absurd rfl hrounds
  | @next s a e chunks r a' is e' rounds between ha hdone hrest ih =>
    have hheard : a.2 <:+ a'.2 := (ask.keeping_keeps view).suffix ha
    have hlater : a'.2 <:+ between.model.2 := hrest.suffix
    cases rounds with
    | nil =>
      cases hrest
      exact .round (s := s) (hs.later hheard (hids.imp_right hstrategy.trans)) hstrategy rfl
    | cons x rest =>
      rw [List.getLast?_cons_cons]
      refine ih (List.cons_ne_nil _ _) ?_ hstrategy hids
      exact resolvable_committed hs ha hdone.carryOut
        (hids.imp (nodup_of_suffix hlater) hstrategy.trans)

end

theorem Halt.history {ask : Asking σ} {executor : Executor ε} {now : Timestamp} {bound : Nat}
    {draft : Draft} {rounds : List Round} {between later : Scene σ ε} {acts : List Invocation}
    {point : Point} (h : Halt ask executor now bound draft rounds between acts point later) :
    later.session.history = between.session.history := by
  cases h with
  | replied _ hclosing =>
    cases hclosing
    rfl
  | _ => rfl

theorem Message.asking_keeping (model : Model σ) (view : List Exchange → Request → Request)
    (m : Message) : m.asking (model.keeping view) = (m.asking model).keeping view := by
  rw [Message.asking, Message.asking]
  split
  · exact byResponse_keeping view model
  · exact byEvents_keeping view model

/-! ## Runs -/

/-- After `pages` the service can resolve what the session sends, and the history is what the last
committed round stands on and every message since. -/
structure Standing (s₀ : Session) (pages : List Page) (later : Scene (σ × List Exchange) ε) :
    Prop where
  resolvable : Resolvable later.model.2 later.session
  strategy : later.session.settings.context = s₀.settings.context
  history : ∃ items, Base s₀ later.model.2 (lastRound? pages) items ∧
    later.session.history = items ++ (saidSince pages).map Message.said

section
variable {model : Model σ} {view : List Exchange → Request → Request} {executor : Executor ε}
  {start scene later : Scene (σ × List Exchange) ε} {messages : List Message} {pages : List Page}

/-- **One message keeps the account**, whatever becomes of it. -/
theorem Standing.deliver {s₀ : Session} (hs : Standing s₀ pages scene) {m : Message}
    {between : Scene (σ × List Exchange) ε} {rounds : List Round} {acts : List Invocation}
    {point : Point}
    (hcourse : m.Course (model.keeping view) executor scene rounds between acts point)
    (hids : (responseIds (m.deliver (model.keeping view) executor scene).2.model.2).Nodup ∨
      s₀.settings.context = .fullTranscript) :
    Standing s₀ (pages ++ [⟨m, rounds, acts, point⟩])
      (m.deliver (model.keeping view) executor scene).2 := by
  have hsteps := (steps_deliver model executor view m scene).suffix
  obtain ⟨-, hcommitted, hhalt⟩ := hcourse
  rw [m.asking_keeping] at hcommitted hhalt
  have hlater := hhalt.suffix
  refine ⟨resolvable_deliver model executor view m hs.resolvable (hids.imp_right hs.strategy.trans),
    (strategy_deliver _ executor m scene).trans hs.strategy, ?_⟩
  rw [hhalt.history]
  -- without a round the message joins what was said since; with one it starts from its base
  by_cases hrounds : rounds = []
  · subst hrounds
    cases hcommitted
    obtain ⟨items, hbase, hhistory⟩ := hs.history
    rw [lastRound?_concat_nil rfl, saidSince_concat_nil rfl]
    refine ⟨items, hbase.later hsteps hids, ?_⟩
    rw [List.map_append, ← List.append_assoc, ← hhistory]
    rfl
  · rw [lastRound?_concat hrounds, saidSince_concat hrounds]
    have hbegun : Resolvable scene.model.2 (m.begun scene).session :=
      hs.resolvable.imp_left fun hsynced => hsynced.grow (history_beginTurn ..) rfl rfl
    have hbase := hcommitted.base hrounds hbegun hs.strategy
      (hids.imp_left fun hnodup => nodup_of_suffix hlater hnodup)
    exact ⟨_, hbase.later hlater hids, (List.append_nil _).symm⟩

theorem Journal.standing (h : Journal (model.keeping view) executor start messages pages later)
    (h₀ : Resolvable start.model.2 start.session)
    (hids : (responseIds later.model.2).Nodup ∨
      start.session.settings.context = .fullTranscript) :
    Standing start.session pages later := by
  induction h with
  | start => exact ⟨h₀, rfl, start.session.history, .opening, (List.append_nil _).symm⟩
  | unheard _ _ ih => exact ih hids
  | @page messages pages scene m rounds between acts point _ hcourse ih =>
    have hsuffix := (steps_deliver model executor view m scene).suffix
    exact (ih (hids.imp_left fun hnodup => nodup_of_suffix hsuffix hnodup)).deliver hcourse hids

/-- The next request comes with the whole history and the next message. -/
theorem Standing.request {s₀ : Session} (h : Standing s₀ pages later) (next : Message) :
    context later.model.2 (next.begun later).session.request.previousResponseId ++
        (next.begun later).session.request.input =
      Session.standing s₀ later.model.2 (lastRound? pages) ++
        (saidSince pages ++ [next]).map Message.said := by
  have hbegun : Resolvable later.model.2 (next.begun later).session :=
    h.resolvable.imp_left fun hsynced => hsynced.grow (history_beginTurn ..) rfl rfl
  obtain ⟨items, hbase, hhistory⟩ := h.history
  rw [hbegun.whole, ← hbase.standing, List.map_append, ← List.append_assoc, ← hhistory]
  rfl

end

/-- **A failed round leaves no trace.** Where a turn fails or is left before a response is complete, the
session is as it was when the request was made. Whatever becomes of the messages of a run, the service
therefore gets with the next request the context of the last committed round, or what the session began
with, then the outputs of that round's calls, then each message since, once and in order, and the next
one. -/
theorem failed_rounds_leave_no_trace (model : Model σ) (executor : Executor ε) :
    (∀ (m : Message) (scene : Scene σ ε), m.chunks ≠ some 0 →
      ∃ rounds between acts point, m.Course model executor scene rounds between acts point ∧
        (Incomplete (m.asking model) between point →
          (m.deliver model executor scene).2 =
            { between with model := (m.deliver model executor scene).2.model })) ∧
    ∀ (s₀ : Session) (a : σ) (e : ε) (messages : List Message), Opening s₀ → ∃ pages later,
      (converse model.logged executor messages ⟨s₀, (a, []), e⟩).2 = later ∧
      Journal model.logged executor ⟨s₀, (a, []), e⟩ messages pages later ∧
      ((responseIds later.model.2).Nodup ∨ s₀.settings.context = .fullTranscript →
        ∀ next : Message,
          let q := (next.begun later).session.request
          context later.model.2 q.previousResponseId ++ q.input =
            standing s₀ later.model.2 (lastRound? pages) ++
              (saidSince pages ++ [next]).map Message.said) := by
  refine ⟨fun m scene hm => ?_, fun s₀ a e messages h₀ => ?_⟩
  · obtain ⟨rounds, between, acts, point, hcourse⟩ := deliver_course model executor m scene hm
    exact ⟨rounds, between, acts, point, hcourse, hcourse.halt.untouched⟩
  · obtain ⟨pages, hpages⟩ := converse_journal model.logged executor messages ⟨s₀, (a, []), e⟩
    refine ⟨pages, _, rfl, hpages, fun hids => ?_⟩
    exact (hpages.standing (.inl h₀.synced) hids).request

/-- An answer with a call to the first request, and none to the others. -/
def onlyAnswer (n : Nat) : Except ApiError Response :=
  if n = 0 then
    .ok ⟨"r0", "m", .completed, [.call ⟨none, "c", "go_to_npc", "\x7b\x7d"⟩], ⟨0, 0⟩, .null⟩
  else .error (.failed "down")

/-- A service that answers the first request and no other. -/
def brieflyUp : Model Nat where
  respond n _ := (.came (onlyAnswer n), n + 1)
  stream n _ := (.came (.ok [(onlyAnswer n).map .completed]), n + 1)

/-- A call whose output is still to be sent, and two messages that failed. -/
theorem failed_rounds_leave_no_trace_twice :
    let s₀ := Session.new (.new "Rosa" "cook" "a knife") "Be brief." .default
    let executor : Executor Unit :=
      ⟨fun now e name parameters => (.finished (.ok (.succeeded now name parameters "Gone.")), e)⟩
    let messages : List Message := [⟨default, "Ann", "Where is Rosa?", none⟩,
      ⟨default, "Ann", "Hello?", none⟩, ⟨default, "Bob", "Hello?", some 9⟩]
    let next : Message := ⟨default, "Ann", "Well?", none⟩
    Opening s₀ ∧ ∃ pages later,
      (converse brieflyUp.logged executor messages ⟨s₀, (0, []), ()⟩).2 = later ∧
        (responseIds later.model.2).Nodup ∧
        Journal brieflyUp.logged executor ⟨s₀, (0, []), ()⟩ messages pages later ∧
        let q := (next.begun later).session.request
        q.input.length = 4 ∧ context later.model.2 q.previousResponseId ++ q.input =
          standing s₀ later.model.2 (lastRound? pages) ++
            (saidSince pages ++ [next]).map Message.said ∧
        ∃ rounds between acts point,
          next.Course brieflyUp executor ⟨s₀, 1, ()⟩ rounds between acts point ∧
          Incomplete (next.asking brieflyUp) between point ∧
          (next.deliver brieflyUp executor ⟨s₀, 1, ()⟩).2.session = between.session := by
  intro s₀ executor messages next
  have hopening : Opening s₀ := .new ..
  obtain ⟨hturns, hruns⟩ := failed_rounds_leave_no_trace brieflyUp executor
  obtain ⟨pages, later, hlater, hpages, hnext⟩ := hruns s₀ 0 () messages hopening
  have hids : (responseIds later.model.2).Nodup := by
    rw [← hlater]
    decide +kernel
  have hinput : (next.begun later).session.request.input.length = 4 := by
    rw [← hlater]
    decide +kernel
  obtain ⟨rounds, between, acts, point, hcourse, hsame⟩ := hturns next ⟨s₀, 1, ()⟩ nofun
  have hpoint : lastPoint? (next.deliver brieflyUp executor ⟨s₀, 1, ()⟩).1 =
      some (.ended (.failed (.model (.failed "down")))) := rfl
  have hfailed : Incomplete (next.asking brieflyUp) between point := by
    rw [hcourse.heard] at hpoint
    cases hpoint
    exact .failed _
  refine ⟨hopening, pages, later, hlater, hids, hpages, hinput, hnext (.inl hids) next,
    rounds, between, acts, point, hcourse, hfailed, ?_⟩
  rw [hsame hfailed]

end Session

end Inquest

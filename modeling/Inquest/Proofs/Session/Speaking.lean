import Inquest.Proofs.Session.Contained
import Inquest.World.Conduct

/-! # What is said of actions that failed

The arguments of a call may carry words to be spoken. They are dropped when a call is not admitted,
but an action that the world does not allow keeps its arguments, and with them its words. So a turn
of which every action failed speaks the words of the last call that was admitted and carries any, as
if it had been carried out; it tells of the failure only if there is no such call.

* `Conduct.parameters_perform`: an action ends with a record of its own arguments.
* `words?`: the words that a call carries. `Committed.words`: its invocation carries the same.
* `failed_turn_speaks`: what is said. `failed_arrest_speaks`: it is not always the failure.
-/

namespace Inquest

/-! ## Actions keep their arguments -/

/-- An errand that only sums up what came of another ends with a summary. -/
theorem Errand.run_andThen_done {α β ω : Type} {world : Errand.World ω} {w w' : ω} {e : Errand α}
    {f : α → β} {b : β} (h : (e.andThen fun a => .done (f a)).run world w = (some b, w')) :
    ∃ a, b = f a := by
  rw [run_andThen] at h
  split at h
  · cases h
    exact ⟨_, rfl⟩
  · cases h

namespace Conduct

variable {ω : Type} {world : Errand.World ω} {w w' : ω} {c : Conduct} {now : Timestamp}
  {p : Parameters} {name : String} {i : Invocation}

theorem parameters_goTo (h : (c.goTo now p).run world w = (some i, w')) : i.parameters = p := by
  unfold goTo at h
  split at h
  · cases h
    rfl
  · obtain ⟨r, rfl⟩ := Errand.run_andThen_done h
    cases r <;> rfl

theorem parameters_handOver (h : (c.handOver now p).run world w = (some i, w')) :
    i.parameters = p := by
  unfold handOver at h
  split at h
  · cases h
    rfl
  · simp only [Errand.run] at h
    split at h <;> cases h
    rfl

theorem parameters_refuse : (c.refuse now p).parameters = p := by
  unfold refuse
  split <;> rfl

theorem parameters_arrest (h : (c.arrest now p).run world w = (some i, w')) : i.parameters = p := by
  unfold arrest at h
  split at h
  · cases h
    rfl
  · obtain ⟨r, rfl⟩ := Errand.run_andThen_done h
    cases r <;> rfl

/-- **An action ends with a record of its own arguments**, whatever the world makes of it. -/
theorem parameters_perform (h : (c.perform now name p).run world w = (some i, w')) :
    i.parameters = p := by
  unfold perform at h
  split at h
  · exact parameters_goTo h
  · exact parameters_handOver h
  · cases h
    exact parameters_refuse
  · exact parameters_arrest h
  · cases h
    rfl

/-- An action that ends keeps its arguments; in a world that never settles a command it has no
end. -/
theorem executor_perform {outcome : Outcome}
    (h : (c.executor world).perform now w name p = (outcome, w')) :
    outcome = .pending ∨ ∃ i, outcome = .finished (.ok i) ∧ i.parameters = p := by
  simp only [executor] at h
  split at h
  · next i _ hrun =>
    cases h
    exact .inr ⟨i, rfl, parameters_perform hrun⟩
  · cases h
    exact .inl rfl

end Conduct

namespace Session

/-! ## Words that calls carry -/

/-- The words that a call carries: those of its arguments, if it is admitted. -/
def words? (tools : Toolbox) (call : Call) : Option String :=
  (admitted? tools call).bind fun (_, p) =>
    ((p.text? "reason").or (p.text? "response")).filter fun t => !Text.isBlank t

/-- All that can be said of actions that failed: the text of the model, or what came of the last. -/
def honest (text : String) (acts : List Invocation) : String :=
  if Text.isBlank text then (acts.getLast?.map Invocation.output).getD "" else text

/-- What a turn says whose actions all failed, by its calls, the text of its last response, and what
came of the calls. -/
inductive Said (tools : Toolbox) (calls : List Call) (text : String) (acts : List Invocation) :
    String → Prop
  /-- The last call that carries words speaks, although it failed. -/
  | words {before call after t} : calls = before ++ call :: after → words? tools call = some t →
    (∀ d ∈ after, words? tools d = none) → Said tools calls text acts t
  | honest {t} : (∀ d ∈ calls, words? tools d = none) → t = honest text acts →
    Said tools calls text acts t

variable {σ ω : Type} {c : Conduct} {world : Errand.World ω} {now : Timestamp} {tools : Toolbox}
  {e e' : ω} {call : Call} {calls : List Call} {i : Invocation} {is : List Invocation}

theorem overrideText_perform (h : perform (c.executor world) now tools e call = (some i, e')) :
    i.overrideText = words? tools call := by
  unfold perform at h
  split at h
  · next hnone =>
    cases h
    have hwordless := Invocation.overrideText_failed_nil now call.name failureExcuse
    simp [words?, admitted?, tool?_eq_none_iff.1 hnone, failedCall, hwordless]
  · next t htool =>
    have hsome : ∃ t ∈ tools, t.name = call.name := by
      rw [← not_not (a := ∃ t ∈ tools, t.name = call.name), ← tool?_eq_none_iff, htool]
      exact Option.some_ne_none t
    split at h
    · next hparse =>
      cases h
      have hwordless := Invocation.overrideText_failed_nil now call.name failureExcuse
      simp [words?, admitted?, hsome, hparse, failedCall, hwordless]
    · next p hparse =>
      rcases hasked : (c.executor world).perform now e call.name p with ⟨outcome, e₁⟩
      rw [hasked] at h
      -- in the world even a failed action keeps its arguments
      obtain rfl | ⟨j, rfl, hparameters⟩ := Conduct.executor_perform hasked
      · cases h
      · cases h
        simp [words?, admitted?, hsome, hparse, Invocation.overrideText, hparameters]

theorem Dispatched.words (h : Dispatched (c.executor world) now tools e calls is e') :
    is.map Invocation.overrideText = calls.map (words? tools) := by
  induction h with
  | none => rfl
  | next hp _ ih => rw [List.map_cons, List.map_cons, overrideText_perform hp, ih]

/-- The invocations of a turn carry the words of its calls, one for one. -/
theorem Committed.words {ask : Asking σ} {sender : String} {scene between : Scene σ ω}
    {rounds : List Round} (h : Committed ask (c.executor world) now sender scene rounds between) :
    (rounds.flatMap Round.invocations).map Invocation.overrideText =
      (rounds.flatMap fun x => x.response.calls).map (words? scene.session.tools) := by
  induction h with
  | none => rfl
  | next _ hdone _ ih =>
    rw [List.flatMap_cons, List.flatMap_cons, List.map_append, List.map_append, hdone.words, ih]
    rfl

/-! ## What is said in the end -/

/-- Calls carry no words if their invocations carry none. -/
theorem wordless_calls (hwords : is.map Invocation.overrideText = calls.map (words? tools))
    (h : ∀ i ∈ is, i.overrideText = none) : ∀ d ∈ calls, words? tools d = none := by
  intro d hd
  have hmem : words? tools d ∈ is.map Invocation.overrideText := by
    rw [hwords]
    exact List.mem_map_of_mem hd
  obtain ⟨i, hi, hsame⟩ := List.mem_map.1 hmem
  rw [← hsame, h i hi]

theorem said_of_closing {acts : List Invocation} {text message : String}
    (h : Closing acts text message)
    (hwords : acts.map Invocation.overrideText = calls.map (words? tools))
    (hfailed : ∀ i ∈ acts, i.success = false) : Said tools calls text acts message := by
  cases h with
  | @spoken before i after t hacts hi hafter =>
    rw [hacts, List.map_append, List.map_cons] at hwords
    obtain ⟨before', rest, rfl, -, hrest⟩ := List.map_eq_append_iff.1 hwords.symm
    obtain ⟨call, after', rfl, hcall, hafter'⟩ := List.map_eq_cons_iff.1 hrest
    exact .words rfl (hcall.trans hi) (wordless_calls hafter'.symm hafter)
  | text hnone hblank => exact .honest (wordless_calls hwords hnone) (by simp [honest, hblank])
  | @acknowledged before i hnone hblank hacts hsuccess =>
    have hmem : i ∈ acts := by simp [hacts]
    rw [hfailed i hmem] at hsuccess
    cases hsuccess
  | excused hnone hblank hacts =>
    exact .honest (wordless_calls hwords hnone) (by simp [honest, hblank, hacts])
  | silent hacts hblank =>
    subst hacts
    exact .honest (wordless_calls hwords (List.forall_mem_nil _)) (by simp [honest, hblank])

/-- **What is said of actions that failed.** In a turn whose actions all failed, whatever the world
does, the words of the last call that carries any are spoken; if there is no such call, the reply is
what the model said, or else what came of the last action. -/
theorem failed_turn_speaks (c : Conduct) (world : Errand.World ω) (model : Model σ) (m : Message)
    (scene : Scene σ ω) (hm : m.chunks ≠ some 0) :
    ∃ rounds between acts point,
      m.Course model (c.executor world) scene rounds between acts point ∧
      ∀ reply, point.reply? = some reply → (∀ i ∈ reply.activities, i.success = false) →
        ∃ last, rounds.getLast? = some last ∧
          Said scene.session.tools (rounds.flatMap fun x => x.response.calls) last.response.text
            reply.activities reply.message := by
  obtain ⟨rounds, between, acts, point, hcourse⟩ :=
    deliver_course model (c.executor world) m scene hm
  refine ⟨rounds, between, acts, point, hcourse, fun reply hreply hfailed => ?_⟩
  obtain ⟨hfin, -, -, hfinish⟩ := hcourse.replies hreply
  obtain ⟨last, hlast, hclosing, hactivities, -⟩ := hfin.closing
  obtain ⟨-, hmessage, hgathered, -⟩ := finish_eq hfinish
  rw [hgathered, hactivities] at hfailed ⊢
  rw [hmessage]
  exact ⟨last, hlast, said_of_closing hclosing hcourse.committed.words hfailed⟩

/-- Every round is the answer of the model to its request. -/
theorem Committed.answers {ε : Type} {ask : Asking σ} {executor : Executor ε} {sender : String}
    {scene between : Scene σ ε} {rounds : List Round}
    (h : Committed ask executor now sender scene rounds between) :
    ∀ x ∈ rounds, ∃ a chunks a',
      ask a x.request = ((chunks, some (.completed x.response)), a') := by
  induction h with
  | none => exact List.forall_mem_nil _
  | next ha _ _ ih => exact List.forall_mem_cons.2 ⟨⟨_, _, _, ha⟩, ih⟩

/-- An order to arrest somebody, with words to go with it, and no text. -/
def order : Response :=
  ⟨"r", "m", .completed,
    [.call ⟨none, "c", "arrest_suspect",
      "\x7b\"suspect_npc_name\":\"the baker\",\"response\":\"Let us go and get him!\"\x7d"⟩],
    ⟨0, 0⟩, .null⟩

/-- A model that only ever gives this order. -/
def ordering : Model Unit where
  respond _ _ := (.came (.ok order), ())
  stream _ _ := (.came (.ok [.ok (.completed order)]), ())

/-- Otto among the others, in a world that does whatever it is told. -/
def otto : Executor Unit :=
  Conduct.executor (fun w _ => (some (.ok ()), w))
    ⟨⟨"Otto", "mayor", "a seal", false⟩, [⟨"Mara", "innkeeper", "a ledger", false⟩]⟩

/-- Nobody has spoken to Otto yet. -/
def fresh : Scene Unit Unit :=
  ⟨.new (.new "Otto" "mayor" "a seal") "Be brief." .default, (), ()⟩

/-- What Otto is told. -/
def command : Message := ⟨default, "Detective", "Go and get him!", none⟩

/-- There is no baker in the town, and yet the words are spoken. -/
theorem otto_speaks {rounds : List Round} {between : Scene Unit Unit} {acts : List Invocation}
    {point : Point} (h : command.Course ordering otto fresh rounds between acts point) :
    ∃ reply, point.reply? = some reply ∧ reply.message = "Let us go and get him!" ∧
      (∀ i ∈ reply.activities, i.success = false) ∧
      ∀ x ∈ rounds, honest x.response.text reply.activities =
        "You cannot arrest 'the baker' right now." := by
  have hheard : ((lastPoint? (command.deliver ordering otto fresh).1).bind Point.reply?).map
      (fun r => (r.message, r.activities.all (!·.success), honest order.text r.activities)) =
        some ("Let us go and get him!", true, "You cannot arrest 'the baker' right now.") := by
    decide +kernel
  rw [h.heard, Option.bind_some] at hheard
  obtain ⟨reply, hreply, hsame⟩ := Option.map_eq_some_iff.1 hheard
  simp only [Prod.mk.injEq, List.all_eq_true, Bool.not_eq_true'] at hsame
  obtain ⟨hmessage, hfailed, hhonest⟩ := hsame
  refine ⟨reply, hreply, hmessage, hfailed, fun x hx => ?_⟩
  obtain ⟨a, chunks, a', ha⟩ := h.committed.answers x hx
  have hgiven : some (Heard.completed order) = some (.completed x.response) :=
    congrArg (fun answer => answer.1.2) ha
  rw [← Heard.completed.inj (Option.some.inj hgiven), hhonest]

/-- What Otto says stands in the arguments of a call. -/
theorem failed_turn_speaks_order :
    command.chunks ≠ some 0 ∧ ∃ rounds between acts point reply,
      command.Course ordering otto fresh rounds between acts point ∧ point.reply? = some reply ∧
      (∀ i ∈ reply.activities, i.success = false) ∧ reply.message = "Let us go and get him!" ∧
      ∃ call ∈ rounds.flatMap fun x => x.response.calls,
        words? .standard call = some reply.message := by
  have hchunks : command.chunks ≠ some 0 := nofun
  obtain ⟨rounds, between, acts, point, hcourse, hsaid⟩ :=
    failed_turn_speaks _ _ ordering command fresh hchunks
  obtain ⟨reply, hreply, hmessage, hfailed, hhonest⟩ := otto_speaks hcourse
  refine ⟨hchunks, rounds, between, acts, point, reply, hcourse, hreply, hfailed, hmessage, ?_⟩
  obtain ⟨last, hlast, hsaid⟩ := hsaid reply hreply hfailed
  cases hsaid with
  | @words before call after t hcalls hwords =>
    exact ⟨call, by simp [hcalls], hwords⟩
  | honest _ hsame =>
    rw [hmessage, hhonest last (List.mem_of_getLast? hlast)] at hsame
    exact absurd hsame (by decide)

/-- **A failure is not always told**: Otto announces the arrest of somebody whom he cannot arrest,
and only his call has put it so. -/
theorem failed_arrest_speaks :
    ¬ ∀ (c : Conduct) (world : Errand.World Unit) (model : Model Unit) (m : Message)
        (scene between : Scene Unit Unit) (rounds : List Round) (acts : List Invocation)
        (point : Point) (reply : Reply) (last : Round),
      scene.session.tools = .standard →
      m.Course model (c.executor world) scene rounds between acts point →
      point.reply? = some reply → (∀ i ∈ reply.activities, i.success = false) →
      rounds.getLast? = some last →
      reply.message = honest last.response.text reply.activities := by
  intro hall
  obtain ⟨rounds, between, acts, point, hcourse⟩ := deliver_course ordering otto command fresh nofun
  obtain ⟨reply, hreply, hmessage, hfailed, hhonest⟩ := otto_speaks hcourse
  obtain ⟨hfin, -⟩ := hcourse.replies hreply
  obtain ⟨last, hlast⟩ := Option.ne_none_iff_exists'.1 (mt List.getLast?_eq_none_iff.1 hfin.1)
  have hsame := hall _ _ ordering command fresh between rounds acts point reply last rfl hcourse
    hreply hfailed hlast
  rw [hmessage, hhonest last (List.mem_of_getLast? hlast)] at hsame
  revert hsame
  decide

end Session

end Inquest

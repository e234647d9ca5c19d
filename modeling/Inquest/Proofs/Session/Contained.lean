import Mathlib.Data.List.Forall2
import Inquest.Proofs.Session.Closing

/-! # Whatever becomes of a call

A call comes to an invocation, whatever goes wrong: a tool that nobody declared, arguments that nobody can
read, an executor that fails or panics. It is put down as a failure with an excuse, and the next call is
seen to.

* `Executor.observed`: an executor that keeps what it is asked for. It does nothing else than before
  (`Dispatched.forget`).
* `Dealing.Lawful`: the five ways in which a call may be dealt with.
* `Handled`: the calls of a response dealt with one after the other. What the executor is asked for
  follows from the calls alone (`Handled.requested`).
* `calls_contained`: the calls of a response, and of all rounds of a turn.
-/

namespace Inquest

/-- What an executor was asked for, and what came of it. -/
structure Attempt where
  name : String
  parameters : Parameters
  outcome : Outcome

/-- The action and the arguments. -/
def Attempt.request (a : Attempt) : String × Parameters := (a.name, a.parameters)

variable {σ ε : Type}

/-- An executor that keeps what it is asked for, the newest last. -/
def Executor.observed (executor : Executor ε) : Executor (ε × List Attempt) where
  perform now e name parameters :=
    let (outcome, e') := executor.perform now e.1 name parameters
    (outcome, e', e.2 ++ [⟨name, parameters, outcome⟩])

theorem Executor.observed_perform {executor : Executor ε} {now : Timestamp} {e : ε × List Attempt}
    {name : String} {parameters : Parameters} {outcome : Outcome} {e' : ε}
    (h : executor.perform now e.1 name parameters = (outcome, e')) :
    executor.observed.perform now e name parameters =
      (outcome, e', e.2 ++ [⟨name, parameters, outcome⟩]) := by
  simp only [observed, h]

theorem Executor.Finishes.observed {executor : Executor ε} (h : executor.Finishes) :
    executor.observed.Finishes :=
  fun now e name parameters => h now e.1 name parameters

namespace Session

/-- What the executor is asked for a call: nothing unless the tool is declared and the arguments can
be read. -/
def admitted? (tools : Toolbox) (c : Call) : Option (String × Parameters) :=
  if ∃ t ∈ tools, t.name = c.name then
    match Parameters.parse c.arguments with
    | .ok parameters => some (c.name, parameters)
    | .error _ => none
  else none

/-- The invocation of a call that was not carried out, for a reason. -/
structure Excused (c : Call) (e : ActionError) (i : Invocation) : Prop where
  name : i.name = c.name
  parameters : i.parameters = []
  success : i.success = false
  error : i.error = some e.message
  output : i.output = failureExcuse
  wordless : i.overrideText = none

theorem excused_failedCall (now : Timestamp) (c : Call) (e : ActionError) :
    Excused c e (failedCall now c.name e) :=
  ⟨rfl, rfl, rfl, rfl, rfl, rfl⟩

/-- A call, what the executor was asked for it, and its invocation. -/
structure Dealing where
  call : Call
  attempt : Option Attempt
  invocation : Invocation

/-- How a call may be dealt with. -/
inductive Dealing.Lawful (tools : Toolbox) : Dealing → Prop
  | undeclared {c i} : (¬ ∃ t ∈ tools, t.name = c.name) → Excused c (.unsupported c.name) i →
    Lawful tools ⟨c, none, i⟩
  | unreadable {c e i} : (∃ t ∈ tools, t.name = c.name) → Parameters.parse c.arguments = .error e →
    Excused c (.arguments e.message) i → Lawful tools ⟨c, none, i⟩
  /-- What the executor makes of it is kept, success or not. -/
  | performed {c parameters i} : admitted? tools c = some (c.name, parameters) →
    Lawful tools ⟨c, some ⟨c.name, parameters, .finished (.ok i)⟩, i⟩
  | faulty {c parameters e i} : admitted? tools c = some (c.name, parameters) → Excused c e i →
    Lawful tools ⟨c, some ⟨c.name, parameters, .finished (.error e)⟩, i⟩
  | panicked {c parameters i} : admitted? tools c = some (c.name, parameters) →
    Excused c .panicked i → Lawful tools ⟨c, some ⟨c.name, parameters, .panicked⟩, i⟩

/-- The calls of a response dealt with one after the other: their invocations, and what the executor
was asked for. -/
def Handled (tools : Toolbox) (calls : List Call) (is : List Invocation) (asked : List Attempt) :
    Prop :=
  ∃ dealings : List Dealing, dealings.map Dealing.call = calls ∧
    dealings.map Dealing.invocation = is ∧ dealings.filterMap Dealing.attempt = asked ∧
    ∀ d ∈ dealings, d.Lawful tools

section
variable {executor : Executor ε} {now : Timestamp} {tools : Toolbox} {c : Call} {calls : List Call}
  {i : Invocation} {is : List Invocation} {asked : List Attempt}

/-! ## One call -/

theorem tool?_eq_none_iff : tools.tool? c.name = none ↔ ¬ ∃ t ∈ tools, t.name = c.name := by
  simp [Toolbox.tool?, List.find?_eq_none]

theorem Dealing.Lawful.requested {d : Dealing} (h : d.Lawful tools) :
    d.attempt.map Attempt.request = admitted? tools d.call := by
  cases h with
  | undeclared hnone _ => exact (if_neg hnone).symm
  | unreadable hsome hparse _ => simp [admitted?, hsome, hparse]
  | performed hadmitted => exact hadmitted.symm
  | faulty hadmitted _ => exact hadmitted.symm
  | panicked hadmitted _ => exact hadmitted.symm

/-- **Every call is dealt with in one of the five ways**, and the executor is asked once for it, or
not at all. -/
theorem perform_observed {e e' : ε × List Attempt}
    (h : perform executor.observed now tools e c = (some i, e')) :
    ∃ attempt, Dealing.Lawful tools ⟨c, attempt, i⟩ ∧ e'.2 = e.2 ++ attempt.toList := by
  unfold perform at h
  split at h
  · next hnone =>
    cases h
    have hlawful := excused_failedCall now c (.unsupported c.name)
    exact ⟨none, .undeclared (tool?_eq_none_iff.1 hnone) hlawful, (List.append_nil _).symm⟩
  · next t htool =>
    have hsome : ∃ t ∈ tools, t.name = c.name := by
      rw [← not_not (a := ∃ t ∈ tools, t.name = c.name), ← tool?_eq_none_iff, htool]
      exact nofun
    split at h
    · next fault hparse =>
      cases h
      have hlawful := excused_failedCall now c (.arguments fault.message)
      exact ⟨none, .unreadable hsome hparse hlawful, (List.append_nil _).symm⟩
    · next parameters hparse =>
      have hadmitted : admitted? tools c = some (c.name, parameters) := by
        simp [admitted?, hsome, hparse]
      rcases hasked : executor.perform now e.1 c.name parameters with ⟨(fault | j) | _ | _, e₁⟩ <;>
        rw [Executor.observed_perform hasked] at h <;> cases h
      · exact ⟨_, .faulty hadmitted (excused_failedCall now c fault), rfl⟩
      · exact ⟨_, .performed hadmitted, rfl⟩
      · exact ⟨_, .panicked hadmitted (excused_failedCall now c .panicked), rfl⟩

/-! ## The calls of a response -/

theorem Handled.nil : Handled tools [] [] [] := ⟨[], rfl, rfl, rfl, List.forall_mem_nil _⟩

theorem Handled.cons {attempt : Option Attempt} (hd : Dealing.Lawful tools ⟨c, attempt, i⟩)
    (h : Handled tools calls is asked) :
    Handled tools (c :: calls) (i :: is) (attempt.toList ++ asked) := by
  obtain ⟨dealings, rfl, rfl, rfl, hlawful⟩ := h
  refine ⟨⟨c, attempt, i⟩ :: dealings, rfl, rfl, ?_, List.forall_mem_cons.2 ⟨hd, hlawful⟩⟩
  cases attempt <;> rfl

theorem Handled.length (h : Handled tools calls is asked) : is.length = calls.length := by
  obtain ⟨dealings, rfl, rfl, -, -⟩ := h
  rw [List.length_map, List.length_map]

/-- **The executor is asked for the calls that are admitted**, each once and in order. -/
theorem Handled.requested (h : Handled tools calls is asked) :
    asked.map Attempt.request = calls.filterMap (admitted? tools) := by
  obtain ⟨dealings, rfl, -, rfl, hlawful⟩ := h
  rw [List.map_filterMap, List.filterMap_map]
  exact List.filterMap_congr fun d hd => (hlawful d hd).requested

theorem Dispatched.handled {e e' : ε × List Attempt}
    (h : Dispatched executor.observed now tools e calls is e') :
    ∃ asked, e'.2 = e.2 ++ asked ∧ Handled tools calls is asked := by
  induction h with
  | none => exact ⟨[], (List.append_nil _).symm, .nil⟩
  | next hp _ ih =>
    obtain ⟨attempt, hlawful, hlog⟩ := perform_observed hp
    obtain ⟨asked, hlater, hhandled⟩ := ih
    exact ⟨attempt.toList ++ asked, by rw [hlater, hlog, List.append_assoc], hhandled.cons hlawful⟩

theorem dispatched_of_finishes (hexecutor : executor.Finishes) (now : Timestamp) (tools : Toolbox)
    (calls : List Call) (e : ε) : ∃ is e', Dispatched executor now tools e calls is e' := by
  induction calls generalizing e with
  | nil => exact ⟨[], e, .none⟩
  | cons c calls ih =>
    have hfinished := perform_finishes hexecutor now tools e c
    rcases hp : perform executor now tools e c with ⟨_ | i, e₁⟩
    · rw [hp] at hfinished
      exact absurd rfl hfinished
    · obtain ⟨is, e', hdone⟩ := ih e₁
      exact ⟨i :: is, e', .next hp hdone⟩

/-! ## Keeping what was asked changes nothing -/

theorem perform_forget (executor : Executor ε) (now : Timestamp) (tools : Toolbox)
    (e : ε × List Attempt) (c : Call) :
    perform executor now tools e.1 c =
      ((perform executor.observed now tools e c).1,
        (perform executor.observed now tools e c).2.1) := by
  simp only [perform]
  split
  · rfl
  · split
    · rfl
    · next parameters _ =>
      rcases hasked : executor.perform now e.1 c.name parameters with ⟨(_ | _) | _ | _, _⟩ <;>
        rw [Executor.observed_perform hasked]

theorem Dispatched.forget {e e' : ε × List Attempt}
    (h : Dispatched executor.observed now tools e calls is e') :
    Dispatched executor now tools e.1 calls is e'.1 := by
  induction h with
  | none => exact .none
  | next hp _ ih =>
    refine .next ?_ ih
    rw [perform_forget, hp]

end

/-! ## The rounds of a turn -/

/-- The rounds of a turn deal with all their calls. -/
theorem Committed.handled {ask : Asking σ} {executor : Executor ε} {now : Timestamp}
    {sender : String} {scene between : Scene σ (ε × List Attempt)} {rounds : List Round}
    (h : Committed ask executor.observed now sender scene rounds between) :
    ∃ attempts, between.executor.2 = scene.executor.2 ++ attempts.flatten ∧
      List.Forall₂ (fun x asked => Handled scene.session.tools x.response.calls x.invocations asked)
        rounds attempts := by
  induction h with
  | none => exact ⟨[], by simp, .nil⟩
  | next _ hdone _ ih =>
    obtain ⟨asked, hlog, hhandled⟩ := hdone.handled
    obtain ⟨attempts, hlater, hall⟩ := ih
    refine ⟨asked :: attempts, ?_, .cons hhandled hall⟩
    rw [hlater, hlog, List.flatten_cons, List.append_assoc]

/-- After its rounds a turn asks nothing more of an executor that finishes, and only the model makes it
fail. -/
theorem Halt.contained {ask : Asking σ} {executor : Executor ε} {now : Timestamp} {bound : Nat}
    {draft : Draft} {rounds : List Round} {between later : Scene σ ε} {acts : List Invocation}
    {point : Point} (h : Halt ask executor now bound draft rounds between acts point later)
    (hexecutor : executor.Finishes) :
    acts = [] ∧ later.executor = between.executor ∧
      ∀ reason, point = .ended (.failed reason) →
        (ask between.model between.session.request).1.2 = some (.failed reason) := by
  cases h with
  | hearing => exact ⟨rfl, rfl, nofun⟩
  | silent => exact ⟨rfl, rfl, nofun⟩
  | failed _ ha =>
    refine ⟨rfl, rfl, fun reason hreason => ?_⟩
    cases hreason
    rw [ha]
  | pending _ _ _ _ hpending =>
    exact absurd (congrArg Prod.fst hpending) (perform_finishes hexecutor _ _ _ _)
  | telling => exact ⟨rfl, rfl, nofun⟩
  | replied _ _ hreply =>
    refine ⟨rfl, rfl, fun reason hreason => ?_⟩
    rw [hreason] at hreply
    cases hreply

/-- **Calls are contained.** With an executor that finishes every action, however it fails, every call of a
response has its invocation, in order; the executor is asked just for the calls that are admitted,
each once and in order; and what cannot be carried out is excused. A turn deals so with the calls of
all its rounds. It fails only where the model does, and comes to its end if the model does. -/
theorem calls_contained (executor : Executor ε) (hexecutor : executor.Finishes) :
    (∀ (now : Timestamp) (sender : String) (calls : List Call)
        (scene : Scene σ (ε × List Attempt)), ∃ is asked e,
      runCalls executor.observed now sender calls scene =
        (is, true, ⟨scene.session.recordActs sender is, scene.model, e,
          scene.executor.2 ++ asked⟩) ∧
      runCalls executor now sender calls ⟨scene.session, scene.model, scene.executor.1⟩ =
        (is, true, ⟨scene.session.recordActs sender is, scene.model, e⟩) ∧
      is.length = calls.length ∧
      asked.map Attempt.request = calls.filterMap (admitted? scene.session.tools) ∧
      Handled scene.session.tools calls is asked) ∧
    ∀ (model : Model σ) (m : Message) (scene : Scene σ (ε × List Attempt)), m.chunks ≠ some 0 →
      ∃ rounds between point attempts,
        m.Course model executor.observed scene rounds between [] point ∧
        (m.deliver model executor.observed scene).2.executor.2 =
          scene.executor.2 ++ attempts.flatten ∧
        List.Forall₂
          (fun x asked => Handled scene.session.tools x.response.calls x.invocations asked)
          rounds attempts ∧
        (∀ reason, point = .ended (.failed reason) →
          (m.asking model between.model between.session.request).1.2 = some (.failed reason)) ∧
        ((m.asking model).Ends → point ≠ .ended .abandoned) := by
  have hobserved := hexecutor.observed
  constructor
  · intro now sender calls scene
    obtain ⟨is, e', hdone⟩ :=
      dispatched_of_finishes hobserved now scene.session.tools calls scene.executor
    obtain ⟨asked, hlog, hhandled⟩ := hdone.handled
    refine ⟨is, asked, e'.1, ?_, ?_, hhandled.length, hhandled.requested, hhandled⟩
    · rw [← hlog]
      exact runCalls_eq sender scene.model hdone.carryOut
    · exact runCalls_eq sender scene.model hdone.forget.carryOut
  · intro model m scene hm
    obtain ⟨rounds, between, acts, point, hcourse⟩ :=
      deliver_course model executor.observed m scene hm
    -- where the turn halts it has no calls under way, so all that was asked belongs to a round
    obtain ⟨rfl, hexecutorKept, hfailed⟩ := hcourse.halt.contained hobserved
    obtain ⟨attempts, hlog, hhandled⟩ := hcourse.committed.handled
    refine ⟨rounds, between, point, attempts, hcourse, ?_, hhandled, hfailed, fun hends => ?_⟩
    · rw [hexecutorKept, hlog]
      rfl
    · exact hcourse.halt.ends hends hobserved

/-- An executor that fails, panics, and then refuses, and two calls in between that it never hears of. -/
theorem calls_contained_mishaps :
    let executor : Executor Nat := ⟨fun now n name parameters =>
      (match n with
        | 0 => .finished (.error (.world "It rains."))
        | 1 => .panicked
        | _ => .finished (.ok (.failed now name parameters "No." "No.")), n + 1)⟩
    let calls : List Call :=
      [⟨none, "a", "go_to_npc", "\x7b\x7d"⟩, ⟨none, "b", "fly", "\x7b\x7d"⟩,
        ⟨none, "c", "go_to_npc", "\x7b\x7d"⟩, ⟨none, "d", "go_to_npc", "["⟩,
        ⟨none, "e", "arrest_suspect", ""⟩]
    let scene : Scene Unit (Nat × List Attempt) :=
      ⟨.new (.new "Rosa" "cook" "a knife") "Be brief." .default, (), 0, []⟩
    executor.Finishes ∧ ∃ is asked e,
      runCalls executor.observed default "Ann" calls scene =
        (is, true, ⟨scene.session.recordActs "Ann" is, (), e, asked⟩) ∧
      is.length = 5 ∧ Handled .standard calls is asked ∧
      asked.map Attempt.request = [("go_to_npc", []), ("go_to_npc", []), ("arrest_suspect", [])] := by
  intro executor calls scene
  have hexecutor : executor.Finishes := by
    intro now n name parameters
    match n with
    | 0 => exact nofun
    | 1 => exact nofun
    | _ + 2 => exact nofun
  obtain ⟨is, asked, e, hrun, -, hlength, hrequested, hhandled⟩ :=
    (calls_contained executor hexecutor).1 default "Ann" calls scene
  have hadmitted : calls.filterMap (admitted? scene.session.tools) =
      [("go_to_npc", []), ("go_to_npc", []), ("arrest_suspect", [])] := by decide +kernel
  exact ⟨hexecutor, is, asked, e, hrun, hlength, hhandled, hrequested.trans hadmitted⟩

end Session

end Inquest

import Inquest.Proofs.World.Finding

/-! # Which commands an action posts

An action has a plan if it is known, its arguments hold text, and whoever it is about is found;
without one it posts nothing and fails. With one it posts the commands of the plan in order, up to
the first that is not carried out, and succeeds if none is left over. A hand-over alone succeeds
whatever the world makes of it.

* `Fate`: what can become of a command, and what its sender learns of it
  (`Handoff.poll_of_befalls`).
* `Plan`: the commands of an action if all goes well. `carried`: those that are posted.
* `Told`: the record of an action and the commands it posted, beside its plan.
* `posts_as_planned`: every action, in every run of fates.
-/

namespace Inquest

/-- What becomes of a command. -/
inductive Fate
  | done
  | refused (reason : String)
  /-- Its request is posted, and dropped without an answer. -/
  | dropped
  /-- Nobody listens, and no request of it is posted. -/
  | gone
  deriving DecidableEq

/-- What the sender of a command learns of its fate. -/
def Fate.settlement : Fate → Settlement
  | .done => .ok ()
  | .refused reason => .error (.world reason)
  | .dropped | .gone => .error .disconnected

theorem Fate.settlement_cases (fate : Fate) :
    fate = .done ∧ fate.settlement = .ok () ∨ fate ≠ .done ∧ ∃ e, fate.settlement = .error e := by
  cases fate with
  | done => exact .inl ⟨rfl, rfl⟩
  | refused | dropped | gone => exact .inr ⟨nofun, _, rfl⟩

/-- A submission in the hand-off meets its fate. -/
def Fate.Befalls (h : Handoff) (t : Ticket) : Fate → Prop
  | .done => t.stage = .answered none
  | .refused reason => t.stage = .answered (some reason)
  | .dropped => t.stage = .lost
  | .gone => (t.stage = .waiting ∨ t.stage = .granted) ∧ h.inbox = false

/-- Whoever asks for a submission is told what its fate comes to. -/
theorem Handoff.poll_of_befalls {h : Handoff} {id : Nat} {t : Ticket} {fate : Fate}
    (ht : h.tickets[id]? = some t) (hfate : fate.Befalls h t) :
    (h.poll id).1 = some (.settled fate.settlement) := by
  cases fate with
  | done | refused | dropped =>
    have hstage : t.stage = _ := hfate
    simp [poll, ht, hstage, Fate.settlement, settlement, deaf]
  | gone =>
    obtain ⟨hstage | hstage, hinbox⟩ := hfate <;>
      simp [poll, ht, hstage, hinbox, Fate.settlement, deaf]

/-- The suspect in whose name a command is. -/
def Command.npc : Command → String
  | .moveNextTo npc _ | .giveItem npc _ | .arrest npc _ => npc

namespace Conduct

/-- A world that deals out fates in a given order, and keeps a list of the commands and what became
of them. -/
def dealing (fates : Nat → Fate) : Errand.World (List (Command × Fate)) := fun past cmd =>
  (some (fates past.length).settlement, past ++ [(cmd, fates past.length)])

/-- The commands of an action, in order, if all goes well; there are none of an action that is not
known, lacks an argument or is about nobody. -/
inductive Plan (c : Conduct) (p : Parameters) (action : String) : List Command → Prop
  | goTo {name npc} : folded action = "go_to_npc" → p.text? "npc_name" = some name →
      Text.isBlank name = false → c.find? name = some npc →
      Plan c p action [.moveNextTo c.profile.name npc.name]
  | handOver {item} : folded action = "handover_item_to_detective" →
      p.text? "item_name" = some item → Text.isBlank item = false →
      Plan c p action [.giveItem c.profile.name item]
  | refuse {item reason} : folded action = "refuse_handover_item_to_detective" →
      p.text? "item_name" = some item → Text.isBlank item = false →
      p.text? "reason" = some reason → Text.isBlank reason = false → Plan c p action []
  | arrest {name npc} : folded action = "arrest_suspect" →
      p.text? "suspect_npc_name" = some name → Text.isBlank name = false →
      c.find? name = some npc →
      Plan c p action [.moveNextTo c.profile.name npc.name, .arrest c.profile.name npc.name]

/-- Of the commands to come after the first `n`, those that are posted: one after the other, until
one is not carried out. -/
def carried (fates : Nat → Fate) (n : Nat) : List Command → List (Command × Fate)
  | [] => []
  | cmd :: rest => (cmd, fates n) :: if fates n = .done then carried fates (n + 1) rest else []

/-- The record of an action and the commands it posted, in order and with their fates, agree with
the plan of the action. -/
structure Told (c : Conduct) (p : Parameters) (action : String) (fates : Nat → Fate)
    (i : Invocation) (submitted : List (Command × Fate)) : Prop where
  parameters : i.parameters = p
  own : ∀ e ∈ submitted, e.1.npc = c.profile.name
  planned : ∀ commands, c.Plan p action commands → submitted = carried fates 0 commands
  unplanned : (∀ commands, ¬ c.Plan p action commands) → submitted = []
  success : i.success = true ↔ ∃ commands, c.Plan p action commands ∧
    (folded action = "handover_item_to_detective" ∨
      submitted = commands.map fun cmd => (cmd, .done))

variable {c : Conduct} {p : Parameters} {now : Timestamp} {action name text : String}
  {fates : Nat → Fate} {commands others : List Command} {i : Invocation} {cmd : Command}
  {past submitted : List (Command × Fate)} {npc : Profile}

theorem required_eq_some_iff :
    required p name = some text ↔ p.text? name = some text ∧ Text.isBlank text = false := by
  simp [required]

theorem ofName?_eq_some_iff {a : StandardAction} :
    StandardAction.ofName? action = some a ↔ folded action = a.name := by
  simp only [StandardAction.ofName?, folded]
  constructor
  · intro h
    have hname := List.find?_some h
    exact (beq_iff_eq.1 hname).symm
  · intro h
    rw [h]
    cases a <;> simp [StandardAction.all, StandardAction.name]

theorem ofName?_eq_none_iff :
    StandardAction.ofName? action = none ↔ ∀ a : StandardAction, folded action ≠ a.name := by
  simp only [Option.eq_none_iff_forall_ne_some, ne_eq, ofName?_eq_some_iff]

theorem run_post_dealing {α : Type} {next : Settlement → Errand α} :
    (Errand.post cmd next).run (dealing fates) past =
      (next (fates past.length).settlement).run (dealing fates)
        (past ++ [(cmd, fates past.length)]) := rfl

/-! ## Plans -/

theorem Plan.unique (h : c.Plan p action commands) (h' : c.Plan p action others) :
    commands = others := by
  cases h <;> cases h' <;> simp_all

theorem Plan.npc_eq (h : c.Plan p action commands) :
    ∀ cmd ∈ commands, cmd.npc = c.profile.name := by
  cases h <;> simp [Command.npc]

theorem mem_of_mem_carried {n : Nat} {e : Command × Fate} (h : e ∈ carried fates n commands) :
    e.1 ∈ commands := by
  induction commands generalizing n with
  | nil => simp [carried] at h
  | cons cmd rest ih =>
    rcases List.mem_cons.1 h with rfl | h
    · exact List.mem_cons_self
    · split at h
      · exact List.mem_cons_of_mem _ (ih h)
      · exact absurd h List.not_mem_nil

theorem Told.of_plan (hplan : c.Plan p action commands) (hparameters : i.parameters = p)
    (hsubmitted : submitted = carried fates 0 commands)
    (hsuccess : i.success = true ↔ folded action = "handover_item_to_detective" ∨
      submitted = commands.map fun cmd => (cmd, .done)) :
    Told c p action fates i submitted where
  parameters := hparameters
  own e he := hplan.npc_eq _ (mem_of_mem_carried (hsubmitted ▸ he))
  planned _ h := by rw [hsubmitted, hplan.unique h]
  unplanned h := absurd hplan (h _)
  success := by
    rw [hsuccess]
    refine ⟨fun h => ⟨commands, hplan, h⟩, ?_⟩
    rintro ⟨others, h, hothers⟩
    rwa [← hplan.unique h] at hothers

theorem Told.of_no_plan (hplan : ∀ commands, ¬ c.Plan p action commands)
    (hparameters : i.parameters = p) (hfailed : i.success = false) :
    Told c p action fates i [] where
  parameters := hparameters
  own := List.forall_mem_nil _
  planned _ h := absurd h (hplan _)
  unplanned _ := rfl
  success := by
    rw [hfailed]
    refine iff_of_false Bool.false_ne_true ?_
    rintro ⟨commands, h, -⟩
    exact hplan _ h

/-! ## Actions -/

theorem goTo_told (h : folded action = "go_to_npc") :
    ∃ i submitted, (c.goTo now p).run (dealing fates) [] = (some i, submitted) ∧
      c.Told p action fates i submitted := by
  unfold goTo
  cases hvalue : required p "npc_name" with
  | none =>
    refine ⟨_, _, rfl, .of_no_plan (fun _ hplan => ?_) rfl rfl⟩
    cases hplan <;> simp_all [required]
  | some name =>
    obtain ⟨htext, hblank⟩ := required_eq_some_iff.1 hvalue
    cases hfound : c.find? name with
    | none =>
      simp only [moveNextTo, hfound, Errand.andThen]
      refine ⟨_, _, rfl, .of_no_plan (fun _ hplan => ?_) rfl rfl⟩
      cases hplan <;> simp_all
    | some npc =>
      have hplan : c.Plan p action _ := .goTo h htext hblank hfound
      simp only [moveNextTo, hfound, Errand.andThen, run_post_dealing, List.length_nil,
        List.nil_append]
      obtain ⟨hfate, hsettled⟩ | ⟨hfate, e, hsettled⟩ := (fates 0).settlement_cases <;>
        rw [hsettled]
      · refine ⟨_, _, rfl, .of_plan hplan rfl (by simp [carried]) ?_⟩
        exact iff_of_true rfl (.inr (by simp [hfate]))
      · refine ⟨_, _, rfl, .of_plan hplan rfl (by simp [carried]) ?_⟩
        exact iff_of_false Bool.false_ne_true (by simp [hfate, h])

theorem handOver_told (h : folded action = "handover_item_to_detective") :
    ∃ i submitted, (c.handOver now p).run (dealing fates) [] = (some i, submitted) ∧
      c.Told p action fates i submitted := by
  unfold handOver
  cases hvalue : required p "item_name" with
  | none =>
    refine ⟨_, _, rfl, .of_no_plan (fun _ hplan => ?_) rfl rfl⟩
    cases hplan <;> simp_all [required]
  | some item =>
    obtain ⟨htext, hblank⟩ := required_eq_some_iff.1 hvalue
    refine ⟨_, _, rfl, .of_plan (.handOver h htext hblank) rfl (by simp [carried]) ?_⟩
    exact iff_of_true rfl (.inl h)

/-- What becomes of the item is not in the record. -/
theorem handOver_same (others : Nat → Fate) :
    ((c.handOver now p).run (dealing others) []).1 =
      ((c.handOver now p).run (dealing fates) []).1 := by
  unfold handOver
  split <;> rfl

theorem refuse_told (h : folded action = "refuse_handover_item_to_detective") :
    c.Told p action fates (c.refuse now p) [] := by
  unfold refuse
  cases hitem : required p "item_name" with
  | none =>
    refine .of_no_plan (fun _ hplan => ?_) rfl rfl
    cases hplan <;> simp_all [required]
  | some item =>
    obtain ⟨hitem, hitem'⟩ := required_eq_some_iff.1 hitem
    cases hreason : required p "reason" with
    | none =>
      refine .of_no_plan (fun _ hplan => ?_) rfl rfl
      cases hplan <;> simp_all [required]
    | some reason =>
      obtain ⟨hreason, hreason'⟩ := required_eq_some_iff.1 hreason
      exact .of_plan (.refuse h hitem hitem' hreason hreason') rfl rfl (iff_of_true rfl (.inr rfl))

theorem arrest_told (h : folded action = "arrest_suspect") :
    ∃ i submitted, (c.arrest now p).run (dealing fates) [] = (some i, submitted) ∧
      c.Told p action fates i submitted := by
  unfold arrest
  cases hvalue : required p "suspect_npc_name" with
  | none =>
    refine ⟨_, _, rfl, .of_no_plan (fun _ hplan => ?_) rfl rfl⟩
    cases hplan <;> simp_all [required]
  | some name =>
    obtain ⟨htext, hblank⟩ := required_eq_some_iff.1 hvalue
    cases hfound : c.find? name with
    | none =>
      simp only [moveNextTo, hfound, Errand.andThen]
      refine ⟨_, _, rfl, .of_no_plan (fun _ hplan => ?_) rfl rfl⟩
      cases hplan <;> simp_all
    | some npc =>
      -- a plan of two commands: the walk, and the arrest if the walk succeeds
      have hplan : c.Plan p action _ := .arrest h htext hblank hfound
      simp only [moveNextTo, hfound, Errand.andThen, run_post_dealing, List.length_nil,
        List.nil_append]
      obtain ⟨hwalk, hsettled⟩ | ⟨hwalk, e, hsettled⟩ := (fates 0).settlement_cases <;>
        rw [hsettled]
      · simp only [Except.map, Errand.submit, Errand.andThen, run_post_dealing, List.length_cons,
          List.length_nil, List.cons_append, List.nil_append, Nat.zero_add]
        obtain ⟨harrest, hsettled⟩ | ⟨harrest, e, hsettled⟩ := (fates 1).settlement_cases <;>
          rw [hsettled]
        · refine ⟨_, _, rfl, .of_plan hplan rfl (by simp [carried, hwalk]) ?_⟩
          exact iff_of_true rfl (.inr (by simp [hwalk, harrest]))
        · refine ⟨_, _, rfl, .of_plan hplan rfl (by simp [carried, hwalk]) ?_⟩
          exact iff_of_false Bool.false_ne_true (by simp [harrest, h])
      · refine ⟨_, _, rfl, .of_plan hplan rfl (by simp [carried, hwalk]) ?_⟩
        exact iff_of_false Bool.false_ne_true (by simp [h])

theorem perform_told (c : Conduct) (now : Timestamp) (action : String) (p : Parameters)
    (fates : Nat → Fate) :
    ∃ i submitted, (c.perform now action p).run (dealing fates) [] = (some i, submitted) ∧
      c.Told p action fates i submitted := by
  unfold perform
  cases haction : StandardAction.ofName? action with
  | none =>
    have hunknown := ofName?_eq_none_iff.1 haction
    refine ⟨_, _, rfl, .of_no_plan (fun _ hplan => ?_) rfl rfl⟩
    cases hplan with
    | goTo h => exact hunknown .goToNpc h
    | handOver h => exact hunknown .handoverItem h
    | refuse h => exact hunknown .refuseHandover h
    | arrest h => exact hunknown .arrestSuspect h
  | some a =>
    have hname := ofName?_eq_some_iff.1 haction
    cases a with
    | goToNpc => exact goTo_told hname
    | handoverItem => exact handOver_told hname
    | refuseHandover => exact ⟨_, _, rfl, refuse_told hname⟩
    | arrestSuspect => exact arrest_told hname

/-- **Which commands an action posts**, whatever becomes of them. The action ends with a record of
its own arguments. It posts the commands of its plan in the suspect's own name, each once the one
before it is carried out, and nothing if it has no plan; it succeeds just if it has one of which
every command is carried out, or a hand-over, whose record is the same whatever becomes of the item.
-/
theorem posts_as_planned (c : Conduct) (now : Timestamp) (action : String) (p : Parameters)
    (fates : Nat → Fate) :
    ∃ i submitted,
      (c.executor (dealing fates)).perform now [] action p = (.finished (.ok i), submitted) ∧
      c.Told p action fates i submitted ∧
      (folded action = "handover_item_to_detective" →
        ∀ others,
          ((c.executor (dealing others)).perform now [] action p).1 = .finished (.ok i)) := by
  obtain ⟨i, submitted, hrun, htold⟩ := perform_told c now action p fates
  refine ⟨i, submitted, by simp only [executor, hrun], htold, fun hname others => ?_⟩
  have haction : StandardAction.ofName? action = some .handoverItem := ofName?_eq_some_iff.2 hname
  simp only [perform, haction] at hrun
  have hsame := (handOver_same others).trans (congrArg Prod.fst hrun)
  simp only [executor, perform, haction]
  cases hothers : (c.handOver now p).run (dealing others) [] with
  | mk r past =>
    rw [hothers] at hsame
    obtain rfl : r = some i := hsame
    rfl

end Conduct

end Inquest

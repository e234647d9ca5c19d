import Inquest.World.Floor
import Mathlib.Data.List.Induction
import Mathlib.Data.List.Nodup

/-! # What must have happened before

Nothing happens on a floor without its cause, told earlier in the log.

* `Conduct.leads_arrest`: an action arrests only whom it has walked to.
* `Cause`: what must have been told before.
* `Justified`: everything in a log has its cause there. Hence a submission begins once, and its request
  enters the queue, is taken and is dealt with at most once (`Justified.nodup`).
-/

namespace Inquest

/-! ## Errands -/

/-- What becomes of an errand when its first commands are settled. -/
inductive Errand.Leads {α : Type} : Errand α → List (Command × Settlement) → Errand α → Prop
  | here (e : Errand α) : Leads e [] e
  | settled {c next s past e} : Leads (next s) past e → Leads (.post c next) ((c, s) :: past) e

theorem Errand.Leads.concat {α : Type} {e : Errand α} {past : List (Command × Settlement)}
    {c : Command} {next : Settlement → Errand α} (h : e.Leads past (.post c next))
    (s : Settlement) : e.Leads (past ++ [(c, s)]) (next s) := by
  generalize he : Errand.post c next = e' at h
  induction h with
  | here e =>
    subst he
    exact .settled (.here _)
  | settled _ ih => exact .settled (ih he)

namespace Conduct

variable {c : Conduct} {now : Timestamp} {parameters : Parameters} {npc suspect : String}
  {past : List (Command × Settlement)} {next : Settlement → Errand Invocation}

theorem leads_arrest_goTo
    (h : (c.goTo now parameters).Leads past (.post (.arrest npc suspect) next)) : False := by
  unfold goTo at h
  split at h
  · cases h
  · unfold moveNextTo at h
    split at h
    · cases h
    · cases h with
      | settled h => cases h

theorem leads_arrest_handOver
    (h : (c.handOver now parameters).Leads past (.post (.arrest npc suspect) next)) : False := by
  unfold handOver at h
  split at h
  · cases h
  · cases h with
    | settled h => cases h

theorem leads_arrest_arrest
    (h : (c.arrest now parameters).Leads past (.post (.arrest npc suspect) next)) :
    (.moveNextTo npc suspect, .ok ()) ∈ past := by
  unfold arrest at h
  split at h
  · cases h
  · unfold moveNextTo at h
    split at h
    · cases h
    · cases h with
      | @settled _ _ s _ _ h =>
        cases s with
        | error e => cases h
        | ok u =>
          cases h with
          | here => exact List.mem_singleton_self _
          | settled h => cases h

/-- **An action arrests only whom it has walked to.** -/
theorem leads_arrest {name : String}
    (h : (c.perform now name parameters).Leads past (.post (.arrest npc suspect) next)) :
    (.moveNextTo npc suspect, .ok ()) ∈ past := by
  unfold perform at h
  split at h
  · exact (leads_arrest_goTo h).elim
  · exact (leads_arrest_handOver h).elim
  · cases h
  · exact leads_arrest_arrest h
  · cases h

end Conduct

/-! ## Causes -/

namespace Happening

/-- The submission that begins. -/
def submission? : Happening → Option Nat
  | .submitted _ k _ => some k
  | _ => none

/-- The submission whose request enters the queue. -/
def post? : Happening → Option Nat
  | .posted k => some k
  | _ => none

/-- The submission whose request is taken. -/
def receipt? : Happening → Option Nat
  | .received k _ => some k
  | _ => none

/-- The submission whose request the game loop deals with. -/
def settlement? : Happening → Option Nat
  | .completed k _ | .dropped k => some k
  | _ => none

end Happening

namespace Floor

section
variable (log : List Happening)

/-- The submissions, in order. -/
def submissions : List Nat := log.filterMap Happening.submission?

/-- The requests that entered the queue, in order. -/
def postings : List Nat := log.filterMap Happening.post?

/-- The requests that were taken, in order. -/
def receipts : List Nat := log.filterMap Happening.receipt?

/-- The requests that the game loop has dealt with, in order. -/
def settlements : List Nat := log.filterMap Happening.settlement?

/-- An action has walked to a suspect: the game loop has carried out its command to do so. -/
def Arrived (i : Nat) (npc suspect : String) : Prop :=
  ∃ k, .submitted i k (.moveNextTo npc suspect) ∈ log ∧ k ∈ postings log ∧ .completed k none ∈ log

/-- A command may be posted unless it is an arrest to which nobody walked. -/
def Allowed (i : Nat) (c : Command) : Prop :=
  ∀ npc suspect, c = .arrest npc suspect → Arrived log i npc suspect

/-- What comes of a command is what the game loop has made of that very request, or nobody listens. -/
def Comes (k : Nat) : Settlement → Prop
  | .ok () => .completed k none ∈ log
  | .error (.world reason) => .completed k (some reason) ∈ log
  | .error .disconnected => .dropped k ∈ log ∨ .closed ∈ log
  | .error _ => False

/-- What must have been told before something happens. -/
def Cause : Happening → Prop
  | .submitted i k c => k ∉ submissions log ∧ Allowed log i c
  | .posted k => k ∉ postings log ∧ ∃ i c, .submitted i k c ∈ log ∧ Allowed log i c
  | .received k c => k ∉ receipts log ∧ k ∈ postings log ∧ ∃ i, .submitted i k c ∈ log
  | .completed k _ | .dropped k => k ∉ settlements log ∧ k ∈ receipts log
  | .returned i k s => (∃ c, .submitted i k c ∈ log) ∧ Comes log k s
  | .closed | .abandoned _ => True

/-- Everything in a log has its cause there. -/
def Justified : Prop := ∀ before x after, log = before ++ x :: after → Cause before x

end

variable {log : List Happening} {x : Happening} {i k : Nat}

theorem filterMap_concat_none {f : Happening → Option Nat} (hx : f x = none) :
    (log ++ [x]).filterMap f = log.filterMap f := by
  rw [List.filterMap_append, List.filterMap_cons_none hx, List.filterMap_nil, List.append_nil]

theorem filterMap_concat_some {f : Happening → Option Nat} (hx : f x = some k) :
    (log ++ [x]).filterMap f = log.filterMap f ++ [k] := by
  rw [List.filterMap_append, List.filterMap_cons_some hx, List.filterMap_nil]

theorem mem_submissions : k ∈ submissions log ↔ ∃ i c, .submitted i k c ∈ log := by
  rw [submissions, List.mem_filterMap]
  constructor
  · rintro ⟨x, hx, hk⟩
    cases x <;> cases hk
    exact ⟨_, _, hx⟩
  · rintro ⟨i, c, h⟩
    exact ⟨_, h, rfl⟩

theorem Arrived.mono {log' : List Happening} {npc suspect : String}
    (h : Arrived log i npc suspect) (hsub : log ⊆ log') : Arrived log' i npc suspect := by
  obtain ⟨k, hsubmitted, hposted, hcompleted⟩ := h
  exact ⟨k, hsub hsubmitted, List.filterMap_subset _ hsub hposted, hsub hcompleted⟩

theorem Allowed.mono {log' : List Happening} {c : Command} (h : Allowed log i c)
    (hsub : log ⊆ log') : Allowed log' i c :=
  fun npc suspect hc => (h npc suspect hc).mono hsub

namespace Justified

theorem concat (h : Justified log) (hx : Cause log x) : Justified (log ++ [x]) := by
  intro before y after hsplit
  rcases List.eq_nil_or_concat after with rfl | ⟨after, z, rfl⟩
  · obtain ⟨rfl, hxy⟩ := List.append_inj' hsplit rfl
    cases hxy
    exact hx
  · rw [List.concat_eq_append, ← List.cons_append, ← List.append_assoc] at hsplit
    exact h before y after (List.append_inj' hsplit rfl).1

theorem cause (h : Justified log) (hx : x ∈ log) : ∃ before, before ⊆ log ∧ Cause before x := by
  obtain ⟨before, after, rfl⟩ := List.append_of_mem hx
  exact ⟨before, List.subset_append_left _ _, h before x after rfl⟩

/-- What has no cause where it was told before is told once. -/
theorem nodup {f : Happening → Option Nat} (h : Justified log)
    (hf : ∀ log x k, Cause log x → f x = some k → k ∉ log.filterMap f) :
    (log.filterMap f).Nodup := by
  induction log using List.reverseRecOn with
  | nil => exact .nil
  | append_singleton log x ih =>
    have hlog : Justified log := by
      intro before y after hsplit
      refine h before y (after ++ [x]) ?_
      rw [hsplit, List.append_assoc, List.cons_append]
    cases hx : f x with
    | none =>
      rw [filterMap_concat_none hx]
      exact ih hlog
    | some k =>
      rw [filterMap_concat_some hx]
      have hnew : k ∉ log.filterMap f := hf log x k (h log x [] rfl) hx
      exact List.nodup_append.2 ⟨ih hlog, List.nodup_singleton k, fun j hj k' hk hjk =>
        hnew (List.mem_singleton.1 hk ▸ hjk ▸ hj)⟩

theorem nodup_submissions (h : Justified log) : (submissions log).Nodup :=
  h.nodup fun log x k hcause hk => by
    cases x <;> cases hk
    exact hcause.1

theorem nodup_postings (h : Justified log) : (postings log).Nodup :=
  h.nodup fun log x k hcause hk => by
    cases x <;> cases hk
    exact hcause.1

theorem nodup_receipts (h : Justified log) : (receipts log).Nodup :=
  h.nodup fun log x k hcause hk => by
    cases x <;> cases hk
    exact hcause.1

theorem nodup_settlements (h : Justified log) : (settlements log).Nodup :=
  h.nodup fun log x k hcause hk => by
    cases x <;> cases hk <;> exact hcause.1

theorem mem_submissions_of_posted (h : Justified log) (hk : k ∈ postings log) :
    k ∈ submissions log := by
  obtain ⟨x, hx, hpost⟩ := List.mem_filterMap.1 hk
  cases x <;> cases hpost
  obtain ⟨before, hsub, -, i, c, hsubmitted, -⟩ := h.cause hx
  exact mem_submissions.2 ⟨i, c, hsub hsubmitted⟩

theorem mem_receipts_of_settled (h : Justified log) (hk : k ∈ settlements log) :
    k ∈ receipts log := by
  obtain ⟨x, hx, hsettlement⟩ := List.mem_filterMap.1 hk
  obtain ⟨before, hsub, hcause⟩ := h.cause hx
  cases x <;> cases hsettlement <;> exact List.filterMap_subset _ hsub hcause.2

theorem allowed (h : Justified log) {c : Command} (hsubmitted : .submitted i k c ∈ log) :
    Allowed log i c := by
  obtain ⟨before, hsub, -, hallowed⟩ := h.cause hsubmitted
  exact hallowed.mono hsub

/-- Whoever learns that a walk was carried out has arrived. -/
theorem arrived (h : Justified log) {npc suspect : String}
    (hsubmitted : .submitted i k (.moveNextTo npc suspect) ∈ log)
    (hreturned : .returned i k (.ok ()) ∈ log) : Arrived log i npc suspect := by
  obtain ⟨before, hsub, -, hcompleted⟩ := h.cause hreturned
  obtain ⟨before', hsub', -, hreceived⟩ := h.cause (hsub hcompleted)
  have hposted : k ∈ postings log := by
    obtain ⟨x, hx, hreceipt⟩ := List.mem_filterMap.1 (List.filterMap_subset _ hsub' hreceived)
    cases x <;> cases hreceipt
    obtain ⟨before'', hsub'', -, hposted, -⟩ := h.cause hx
    exact List.filterMap_subset _ hsub'' hposted
  exact ⟨k, hsubmitted, hposted, hsub hcompleted⟩

end Justified

end Floor

end Inquest

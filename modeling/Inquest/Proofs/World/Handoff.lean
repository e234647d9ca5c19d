import Inquest.World.Floor

/-! # Room in the hand-off

A slot of the queue is taken up by a request or kept for a submission, and never are more taken up than
there are, whatever those who submit and the game loop do.

* `getElem?_setStage`, `getElem?_passSlot`: what becomes of each submission.
* `submit_cases`, `poll_cases`: what those who submit may learn.
* `Roomy`: no more slots are taken up than there are.
* `roomy_submit`, `roomy_poll`, `roomy_cancel`, `roomy_take`, `roomy_settle`, `roomy_dropInbox`: it
  stays so.
-/

namespace Inquest

theorem getElem?_concat {α : Type} {l : List α} {x y : α} {k : Nat} (h : (l ++ [x])[k]? = some y) :
    l[k]? = some y ∨ k = l.length ∧ y = x := by
  rw [List.getElem?_append] at h
  split at h
  · exact .inl h
  · obtain ⟨hk, hy⟩ := List.getElem?_eq_some_iff.1 h
    rw [List.length_singleton] at hk
    rw [List.getElem_singleton] at hy
    exact .inr ⟨by omega, hy.symm⟩

namespace Handoff

variable {h : Handoff} {id k : Nat} {stage : Stage}

/-! ## Submissions -/

theorem getElem?_setStage : (h.setStage id stage).tickets[k]? =
    h.tickets[k]?.map fun t => if id = k then { t with stage := stage } else t := by
  rw [setStage, List.getElem?_modify]
  rfl

/-- A slot is granted to one that waits, and nothing else changes. -/
theorem getElem?_grantFirst {tickets : List Ticket} {t : Ticket}
    (ht : (grantFirst tickets)[k]? = some t) :
    tickets[k]? = some t ∨ tickets[k]? = some { t with stage := .waiting } ∧ t.stage = .granted := by
  induction tickets generalizing k with
  | nil => exact .inl ht
  | cons u rest ih =>
    rw [grantFirst] at ht
    split at ht
    · next hwaiting =>
      cases k with
      | zero =>
        cases ht
        refine .inr ⟨?_, rfl⟩
        rw [← hwaiting]
        rfl
      | succ k => exact .inl ht
    · cases k with
      | zero => exact .inl ht
      | succ k => exact ih ht

theorem length_grantFirst (tickets : List Ticket) :
    (grantFirst tickets).length = tickets.length := by
  induction tickets with
  | nil => rfl
  | cons t rest ih =>
    rw [grantFirst]
    split
    · rfl
    · exact congrArg (· + 1) ih

theorem getElem?_passSlot {t : Ticket} (ht : h.passSlot.tickets[k]? = some t) :
    h.tickets[k]? = some t ∨
      h.tickets[k]? = some { t with stage := .waiting } ∧ t.stage = .granted := by
  unfold passSlot at ht
  split at ht
  · exact getElem?_grantFirst ht
  · exact .inl ht

/-- Granting a slot changes submissions only. -/
theorem passSlot_eq (h : Handoff) : ∃ tickets, h.passSlot = { h with tickets := tickets } ∧
    tickets.length = h.tickets.length := by
  unfold passSlot
  split
  · exact ⟨_, rfl, length_grantFirst _⟩
  · exact ⟨h.tickets, rfl, rfl⟩

/-! ## Slots -/

/-- No more slots are taken up than there are. -/
def Roomy (h : Handoff) : Prop := h.held ≤ h.capacity

theorem countP_modify_le {tickets : List Ticket} {f : Ticket → Ticket}
    (hf : ∀ t, isGranted (f t) = true → isGranted t = true) :
    (tickets.modify id f).countP isGranted ≤ tickets.countP isGranted := by
  induction tickets generalizing id with
  | nil => exact Nat.le_of_eq (by rw [List.modify_nil])
  | cons t rest ih =>
    cases id with
    | zero =>
      rw [List.modify_zero_cons, List.countP_cons, List.countP_cons]
      have := hf t
      split <;> split <;> simp_all
    | succ id =>
      rw [List.modify_succ_cons, List.countP_cons, List.countP_cons]
      exact Nat.add_le_add_right ih _

/-- A kept slot that is given up is free. -/
theorem countP_modify_granted {tickets : List Ticket} {f : Ticket → Ticket} {t : Ticket}
    (ht : tickets[id]? = some t) (hgranted : isGranted t = true) (hf : isGranted (f t) = false) :
    (tickets.modify id f).countP isGranted + 1 = tickets.countP isGranted := by
  induction tickets generalizing id with
  | nil => cases ht
  | cons u rest ih =>
    cases id with
    | zero =>
      cases ht
      rw [List.modify_zero_cons, List.countP_cons_of_neg (by simp [hf]),
        List.countP_cons_of_pos hgranted]
    | succ id =>
      rw [List.modify_succ_cons, List.countP_cons, List.countP_cons, Nat.add_right_comm]
      exact congrArg (· + _) (ih ht)

theorem countP_grantFirst (tickets : List Ticket) :
    (grantFirst tickets).countP isGranted ≤ tickets.countP isGranted + 1 := by
  induction tickets with
  | nil => exact Nat.zero_le _
  | cons t rest ih =>
    rw [grantFirst]
    split
    · rw [List.countP_cons, List.countP_cons]
      split <;> omega
    · rw [List.countP_cons, List.countP_cons]
      omega

theorem roomy_passSlot (hroom : h.Roomy) : h.passSlot.Roomy := by
  unfold passSlot
  split
  · next hfree =>
    have hcount := countP_grantFirst h.tickets
    simp only [Roomy, held] at hfree ⊢
    omega
  · exact hroom

theorem roomy_setStage (hroom : h.Roomy) (hstage : stage ≠ .granted) :
    (h.setStage id stage).Roomy := by
  have hcount : (h.setStage id stage).tickets.countP isGranted ≤ h.tickets.countP isGranted :=
    countP_modify_le fun t ht => absurd (eq_of_beq ht) hstage
  simp only [Roomy, held] at hroom ⊢
  exact Nat.le_trans (Nat.add_le_add_left hcount _) hroom

theorem held_tell (hstage : stage ≠ .granted) : (h.tell id stage).held ≤ h.held := by
  have hcount : (h.tell id stage).tickets.countP isGranted ≤ h.tickets.countP isGranted := by
    refine countP_modify_le fun t ht => ?_
    split at ht
    · exact absurd (eq_of_beq ht) hstage
    · exact ht
  exact Nat.add_le_add_left hcount _

theorem roomy_tell (hroom : h.Roomy) (hstage : stage ≠ .granted) : (h.tell id stage).Roomy :=
  Nat.le_trans (held_tell hstage) hroom

/-! ## Steps -/

/-- What a submission comes to: nobody listens, its request is queued, or it waits. -/
theorem submit_cases (hhandle : h.handle = true) (c : Command) :
    h.inbox = false ∧
        h.submit c = (some deaf, { h with tickets := h.tickets ++ [⟨c, .finished⟩] }) ∨
      h.inbox = true ∧ h.submit c = (some .pending,
        { h with tickets := h.tickets ++ [⟨c, .posted⟩], queue := h.queue ++ [h.tickets.length] }) ∨
      h.submit c = (some .pending, { h with tickets := h.tickets ++ [⟨c, .waiting⟩] }) := by
  unfold submit
  rw [hhandle]
  cases hinbox : h.inbox with
  | false => exact .inl ⟨rfl, rfl⟩
  | true =>
    by_cases hroom : h.held < h.capacity
    · exact .inr (.inl ⟨rfl, if_pos hroom⟩)
    · exact .inr (.inr (if_neg hroom))

/-- What one learns who asks: nothing yet, what the game loop made of the request, or that it is lost. A
request with a slot is queued on the way. -/
theorem poll_cases {t : Ticket} (ht : h.tickets[id]? = some t) :
    h.poll id = (some .pending, h) ∨ h.poll id = (some .over, h) ∨
      (t.stage = .granted ∧ h.inbox = true ∧
        h.poll id = (some .pending, { h.setStage id .posted with queue := h.queue ++ [id] })) ∨
      (∃ refusal, t.stage = .answered refusal ∧
        h.poll id = (some (.settled (settlement refusal)), h.setStage id .finished)) ∨
      ((t.stage = .lost ∨ h.inbox = false) ∧
        h.poll id = (some deaf, h.setStage id .finished)) := by
  unfold poll
  rw [ht]
  rcases t with ⟨c, stage⟩
  cases stage with
  | waiting =>
    cases hinbox : h.inbox with
    | true => exact .inl rfl
    | false => exact .inr (.inr (.inr (.inr ⟨.inr rfl, rfl⟩)))
  | granted =>
    cases hinbox : h.inbox with
    | true => exact .inr (.inr (.inl ⟨rfl, rfl, rfl⟩))
    | false => exact .inr (.inr (.inr (.inr ⟨.inr rfl, rfl⟩)))
  | posted => exact .inl rfl
  | answered refusal => exact .inr (.inr (.inr (.inl ⟨refusal, rfl, rfl⟩)))
  | lost => exact .inr (.inr (.inr (.inr ⟨.inl rfl, rfl⟩)))
  | finished => exact .inr (.inl rfl)

/-! ## Whatever happens -/

theorem roomy_submit (hroom : h.Roomy) (c : Command) : (h.submit c).2.Roomy := held_le_submit hroom c

theorem roomy_poll (hroom : h.Roomy) : (h.poll id).2.Roomy := by
  unfold poll
  split
  · exact hroom
  · next t ht =>
    split
    · split
      · exact hroom
      · exact roomy_setStage hroom nofun
    · next hgranted =>
      split
      · -- the request takes the slot that was kept for it
        have hcount := countP_modify_granted (f := fun t => { t with stage := .posted }) ht
          (beq_iff_eq.2 hgranted) rfl
        simp only [Roomy, held, setStage, List.length_append, List.length_singleton] at hroom ⊢
        omega
      · exact roomy_setStage hroom nofun
    · exact hroom
    · exact roomy_setStage hroom nofun
    · exact roomy_setStage hroom nofun
    · exact hroom

theorem roomy_cancel (hroom : h.Roomy) : (h.cancel id).Roomy :=
  roomy_passSlot (roomy_setStage hroom nofun)

theorem capacity_passSlot : h.passSlot.capacity = h.capacity := by
  obtain ⟨tickets, hpass, -⟩ := h.passSlot_eq
  rw [hpass]

theorem roomy_take (hroom : h.Roomy) : h.take.2.Roomy := by
  unfold take
  split
  · exact hroom
  · next k rest hqueue =>
    refine roomy_passSlot ?_
    simp only [Roomy, held, hqueue, List.length_cons] at hroom ⊢
    omega

theorem roomy_settle (hroom : h.Roomy) (hstage : stage ≠ .granted) : (h.settle id stage).Roomy :=
  roomy_tell hroom hstage

theorem held_foldl_tell (ids : List Nat) :
    (ids.foldl (fun h id => h.tell id .lost) h).held ≤ h.held := by
  induction ids generalizing h with
  | nil => exact Nat.le_refl _
  | cons id ids ih => exact Nat.le_trans ih (held_tell nofun)

theorem foldl_tell_eq (ids : List Nat) :
    ∃ tickets, ids.foldl (fun h id => h.tell id .lost) h = { h with tickets := tickets } := by
  induction ids generalizing h with
  | nil => exact ⟨h.tickets, rfl⟩
  | cons id ids ih =>
    obtain ⟨tickets, htickets⟩ := ih (h := h.tell id .lost)
    exact ⟨tickets, htickets⟩

theorem capacity_dropInbox : h.dropInbox.2.capacity = h.capacity := by
  obtain ⟨tickets, htickets⟩ := foldl_tell_eq (h := h) h.queue
  rw [dropInbox, htickets]

theorem roomy_dropInbox (hroom : h.Roomy) : h.dropInbox.2.Roomy := by
  obtain ⟨tickets, htickets⟩ := foldl_tell_eq (h := h) h.queue
  have hheld := held_foldl_tell (h := h) h.queue
  rw [htickets] at hheld
  simp only [dropInbox, htickets, Roomy, held, List.length_nil] at hheld hroom ⊢
  omega

end Handoff

end Inquest

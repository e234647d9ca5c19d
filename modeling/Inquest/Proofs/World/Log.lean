import Inquest.Proofs.World.Causes
import Inquest.Proofs.World.Handoff

/-! # The hand-off and what is told of it

A hand-off agrees with a log in which everything has its cause. Each thing that may happen to it, told at
the end of the log, keeps that.

* `Stands`: what the log tells of a submission.
* `Agrees`: the hand-off is as the log tells.
* `submit`, `enqueue`, `receive`, `settle`, `close`: something happens.
* `setStage`, `tell`, `passSlot`: a submission is at another stage, and nothing is told.
-/

namespace Inquest

namespace Handoff

open Floor

/-- What the log tells of a submission at a stage. -/
def Stands (log : List Happening) (k : Nat) : Stage → Prop
  | .waiting | .granted => k ∉ postings log
  | .answered refusal => .completed k refusal ∈ log
  | .lost => .dropped k ∈ log ∨ .closed ∈ log
  | .posted | .finished => True

theorem Stands.concat {log : List Happening} {k : Nat} {stage : Stage} (h : Stands log k stage)
    {x : Happening} (hx : x.post? ≠ some k) : Stands (log ++ [x]) k stage := by
  have hmem {y : Happening} (hy : y ∈ log) : y ∈ log ++ [x] := List.mem_append_left _ hy
  cases stage with
  | waiting | granted =>
    intro hposted
    cases hpost : x.post? with
    | none => exact h (by rwa [postings, filterMap_concat_none hpost] at hposted)
    | some j =>
      rw [postings, filterMap_concat_some hpost] at hposted
      rcases List.mem_append.1 hposted with hposted | hposted
      · exact h hposted
      · exact hx (List.mem_singleton.1 hposted ▸ hpost)
  | answered refusal => exact hmem h
  | lost => exact h.imp hmem hmem
  | posted | finished => trivial

/-- The hand-off is as the log tells. -/
structure Agrees (h : Handoff) (log : List Happening) : Prop where
  justified : Justified log
  handle : h.handle = true
  closed : h.inbox = false → .closed ∈ log
  known : ∀ (k : Nat) t, h.tickets[k]? = some t → ∃ i, .submitted i k t.command ∈ log
  numbered : ∀ k ∈ submissions log, k < h.tickets.length
  stands : ∀ (k : Nat) t, h.tickets[k]? = some t → Stands log k t.stage
  order : ∃ gone, postings log = receipts log ++ h.queue ++ gone ∧ (h.inbox = true → gone = [])
  hands : ∀ k ∈ h.taken, k ∈ receipts log ∧ k ∉ settlements log
  distinct : h.taken.Nodup

namespace Agrees

variable {h : Handoff} {log : List Happening} {i k : Nat} (ha : Agrees h log)
include ha

theorem known_concat (x : Happening) {t : Ticket} (ht : h.tickets[k]? = some t) :
    ∃ i, .submitted i k t.command ∈ log ++ [x] := by
  obtain ⟨i, hi⟩ := ha.known k t ht
  exact ⟨i, List.mem_append_left _ hi⟩

/-- What an action learns, or that it is given up, leaves the hand-off as it is. -/
theorem note {x : Happening} (hcause : Cause log x) (hsubmission : x.submission? = none)
    (hpost : x.post? = none) (hreceipt : x.receipt? = none) (hsettlement : x.settlement? = none) :
    Agrees h (log ++ [x]) where
  justified := ha.justified.concat hcause
  handle := ha.handle
  closed hclosed := List.mem_append_left _ (ha.closed hclosed)
  known k t ht := ha.known_concat x ht
  numbered := by
    rw [submissions, filterMap_concat_none hsubmission]
    exact ha.numbered
  stands k t ht := (ha.stands k t ht).concat (by simp [hpost])
  order := by
    rw [postings, receipts, filterMap_concat_none hpost, filterMap_concat_none hreceipt]
    exact ha.order
  hands := by
    rw [receipts, settlements, filterMap_concat_none hreceipt, filterMap_concat_none hsettlement]
    exact ha.hands
  distinct := ha.distinct

/-- Submissions at other stages of which the log tells. -/
theorem restage {tickets : List Ticket} (hlength : tickets.length = h.tickets.length)
    (hstage : ∀ (k : Nat) t', tickets[k]? = some t' → ∃ t, h.tickets[k]? = some t ∧
      t'.command = t.command ∧ (Stands log k t.stage → Stands log k t'.stage)) :
    Agrees { h with tickets := tickets } log where
  justified := ha.justified
  handle := ha.handle
  closed := ha.closed
  known k t' ht' := by
    obtain ⟨t, ht, hcommand, -⟩ := hstage k t' ht'
    rw [hcommand]
    exact ha.known k t ht
  numbered := by
    show ∀ k ∈ submissions log, k < tickets.length
    rw [hlength]
    exact ha.numbered
  stands k t' ht' := by
    obtain ⟨t, ht, -, hstands⟩ := hstage k t' ht'
    exact hstands (ha.stands k t ht)
  order := ha.order
  hands := ha.hands
  distinct := ha.distinct

theorem fresh : h.tickets.length ∉ submissions log :=
  fun hk => Nat.lt_irrefl _ (ha.numbered _ hk)

/-- A submission begins. -/
theorem submit {c : Command} (hallowed : Allowed log i c) {stage : Stage}
    (hstage : stage = .waiting ∨ stage = .posted ∨ stage = .finished) :
    Agrees { h with tickets := h.tickets ++ [⟨c, stage⟩] }
      (log ++ [.submitted i h.tickets.length c]) where
  justified := ha.justified.concat ⟨ha.fresh, hallowed⟩
  handle := ha.handle
  closed hclosed := List.mem_append_left _ (ha.closed hclosed)
  -- the new ticket is the last, under a number that the log has not seen
  known k t ht := by
    rcases getElem?_concat ht with ht | ⟨rfl, rfl⟩
    · exact ha.known_concat _ ht
    · exact ⟨i, List.mem_concat_self⟩
  numbered := by
    intro k hk
    rw [submissions, filterMap_concat_some rfl] at hk
    rw [List.length_append, List.length_singleton]
    rcases List.mem_append.1 hk with hk | hk
    · exact Nat.lt_succ_of_lt (ha.numbered k hk)
    · exact List.mem_singleton.1 hk ▸ Nat.lt_succ_self _
  stands k t ht := by
    rcases getElem?_concat ht with ht | ⟨rfl, rfl⟩
    · exact (ha.stands k t ht).concat fun hpost => by cases hpost
    · rcases hstage with rfl | rfl | rfl
      · have hnew : Stands log h.tickets.length .waiting :=
          fun hk => ha.fresh (ha.justified.mem_submissions_of_posted hk)
        exact hnew.concat fun hpost => by cases hpost
      · trivial
      · trivial
  order := by
    rw [postings, receipts, filterMap_concat_none rfl, filterMap_concat_none rfl]
    exact ha.order
  hands := by
    rw [receipts, settlements, filterMap_concat_none rfl, filterMap_concat_none rfl]
    exact ha.hands
  distinct := ha.distinct

/-- A request enters the queue. -/
theorem enqueue {t : Ticket} (hinbox : h.inbox = true) (ht : h.tickets[k]? = some t)
    (hstage : t.stage = .posted) (hk : k ∉ postings log) :
    Agrees { h with queue := h.queue ++ [k] } (log ++ [.posted k]) where
  justified := by
    obtain ⟨i, hsubmitted⟩ := ha.known k t ht
    exact ha.justified.concat ⟨hk, i, t.command, hsubmitted, ha.justified.allowed hsubmitted⟩
  handle := ha.handle
  closed hclosed := List.mem_append_left _ (ha.closed hclosed)
  known k t ht := ha.known_concat _ ht
  numbered := by
    rw [submissions, filterMap_concat_none rfl]
    exact ha.numbered
  stands j u hu := by
    by_cases hjk : k = j
    · subst hjk
      cases ht.symm.trans hu
      rw [hstage]
      trivial
    · exact (ha.stands j u hu).concat fun hpost => hjk (Option.some.inj hpost)
  order := by
    obtain ⟨gone, horder, hgone⟩ := ha.order
    obtain rfl := hgone hinbox
    refine ⟨[], ?_, fun _ => rfl⟩
    rw [postings, receipts, filterMap_concat_some rfl, filterMap_concat_none rfl]
    change postings log ++ [k] = receipts log ++ (h.queue ++ [k]) ++ []
    rw [horder, List.append_nil, List.append_nil, List.append_assoc]
  hands := by
    rw [receipts, settlements, filterMap_concat_none rfl, filterMap_concat_none rfl]
    exact ha.hands
  distinct := ha.distinct

/-- The oldest request is taken. -/
theorem receive {rest : List Nat} {t : Ticket} (hqueue : h.queue = k :: rest)
    (ht : h.tickets[k]? = some t) :
    Agrees { h with queue := rest, taken := h.taken ++ [k] } (log ++ [.received k t.command]) := by
  obtain ⟨gone, horder, hgone⟩ := ha.order
  rw [hqueue] at horder
  -- the oldest of the queue was posted after all that were received, and posted once
  have hposted : k ∈ postings log := by simp [horder]
  have hnew : k ∉ receipts log := by
    have hnodup := ha.justified.nodup_postings
    rw [horder, List.append_assoc] at hnodup
    exact fun hk => List.disjoint_of_nodup_append hnodup hk (by simp)
  have hopen : k ∉ settlements log := fun hk => hnew (ha.justified.mem_receipts_of_settled hk)
  exact
    { justified := by
        obtain ⟨i, hsubmitted⟩ := ha.known k t ht
        exact ha.justified.concat ⟨hnew, hposted, i, hsubmitted⟩
      handle := ha.handle
      closed := fun hclosed => List.mem_append_left _ (ha.closed hclosed)
      known := fun k t ht => ha.known_concat _ ht
      numbered := by
        rw [submissions, filterMap_concat_none rfl]
        exact ha.numbered
      stands := fun j u hu => (ha.stands j u hu).concat nofun
      order := by
        refine ⟨gone, ?_, hgone⟩
        rw [postings, receipts, filterMap_concat_none rfl, filterMap_concat_some rfl]
        change postings log = receipts log ++ [k] ++ rest ++ gone
        rw [horder, List.append_cons]
      hands := by
        intro j hj
        rw [receipts, settlements, filterMap_concat_some rfl, filterMap_concat_none rfl]
        change j ∈ receipts log ++ [k] ∧ j ∉ settlements log
        rcases List.mem_append.1 hj with hj | hj
        · exact ⟨List.mem_append_left _ (ha.hands j hj).1, (ha.hands j hj).2⟩
        · exact ⟨List.mem_append_right _ hj, List.mem_singleton.1 hj ▸ hopen⟩
      distinct := List.nodup_append.2 ⟨ha.distinct, List.nodup_singleton k, fun j hj j' hj' hjj' =>
        hnew (List.mem_singleton.1 hj' ▸ hjj' ▸ (ha.hands j hj).1)⟩ }

/-- A submission asked, given up or told is at a stage of which the log tells. -/
theorem modify {f : Ticket → Ticket} (hcommand : ∀ t, (f t).command = t.command)
    (hstands : ∀ t, Stands log k t.stage → Stands log k (f t).stage) :
    Agrees { h with tickets := h.tickets.modify k f } log := by
  refine ha.restage (List.length_modify _ _ _) fun j t' ht' => ?_
  rw [List.getElem?_modify] at ht'
  obtain ⟨t, ht, hj⟩ := Option.map_eq_some_iff.1 ht'
  by_cases hkj : k = j
  · subst hkj
    rw [if_pos rfl] at hj
    subst hj
    exact ⟨t, ht, hcommand t, hstands t⟩
  · rw [if_neg hkj] at hj
    subst hj
    exact ⟨t, ht, rfl, id⟩

theorem setStage {stage : Stage} (hstands : Stands log k stage) : Agrees (h.setStage k stage) log :=
  ha.modify (fun _ => rfl) fun _ _ => hstands

/-- Nobody asks any more. -/
theorem finish (k : Nat) : Agrees (h.setStage k .finished) log := ha.setStage trivial

theorem tell {stage : Stage} (hstands : Stands log k stage) : Agrees (h.tell k stage) log := by
  refine ha.modify (fun t => ?_) fun t ht => ?_
  · split <;> rfl
  · split
    · exact hstands
    · exact ht

theorem passSlot : Agrees h.passSlot log := by
  obtain ⟨tickets, hpass, hlength⟩ := h.passSlot_eq
  rw [hpass]
  refine ha.restage hlength fun j t' ht' => ?_
  have hj : h.passSlot.tickets[j]? = some t' := by rw [hpass]; exact ht'
  rcases getElem?_passSlot hj with ht | ⟨ht, hgranted⟩
  · exact ⟨t', ht, rfl, id⟩
  · exact ⟨_, ht, rfl, fun hwaiting => hgranted ▸ hwaiting⟩

/-- A request in the hands of the game loop is dealt with. -/
theorem settle {x : Happening} {stage : Stage} (hk : k ∈ h.taken) (hx : x.settlement? = some k)
    (hstands : Stands (log ++ [x]) k stage) : Agrees (h.settle k stage) (log ++ [x]) := by
  obtain ⟨hreceived, hopen⟩ := ha.hands k hk
  -- what is settled was in the hands of the game loop: received, and not settled before
  have hcause : Cause log x := by
    cases x <;> cases hx <;> exact ⟨hopen, hreceived⟩
  have hsubmission : x.submission? = none := by cases x <;> cases hx <;> rfl
  have hpost : x.post? = none := by cases x <;> cases hx <;> rfl
  have hreceipt : x.receipt? = none := by cases x <;> cases hx <;> rfl
  have hleft : Agrees { h with taken := h.taken.erase k } (log ++ [x]) :=
    { justified := ha.justified.concat hcause
      handle := ha.handle
      closed := fun hclosed => List.mem_append_left _ (ha.closed hclosed)
      known := fun k t ht => ha.known_concat _ ht
      numbered := by
        rw [submissions, filterMap_concat_none hsubmission]
        exact ha.numbered
      stands := fun j u hu => (ha.stands j u hu).concat (by simp [hpost])
      order := by
        rw [postings, receipts, filterMap_concat_none hpost, filterMap_concat_none hreceipt]
        exact ha.order
      hands := by
        intro j hj
        obtain ⟨hjk, hj⟩ := (ha.distinct.mem_erase_iff).1 hj
        rw [receipts, settlements, filterMap_concat_none hreceipt, filterMap_concat_some hx]
        refine ⟨(ha.hands j hj).1, fun hj' => ?_⟩
        rcases List.mem_append.1 hj' with hj' | hj'
        · exact (ha.hands j hj).2 hj'
        · exact hjk (List.mem_singleton.1 hj')
      distinct := ha.distinct.erase k }
  exact hleft.tell hstands

/-- The queued requests are lost once nobody listens. -/
theorem foldl_tell (hclosed : .closed ∈ log) (ids : List Nat) :
    Agrees (ids.foldl (fun h id => h.tell id .lost) h) log := by
  induction ids generalizing h with
  | nil => exact ha
  | cons id ids ih => exact ih (ha.tell (.inr hclosed))

/-- The game loop stops listening. -/
theorem close : Agrees h.dropInbox.2 (log ++ [.closed]) := by
  have hclosed : Happening.closed ∈ log ++ [.closed] :=
    List.mem_concat_self
  have hnoted : Agrees h (log ++ [.closed]) := ha.note trivial rfl rfl rfl rfl
  have hlost := hnoted.foldl_tell hclosed h.queue
  obtain ⟨tickets, hfold⟩ := foldl_tell_eq (h := h) h.queue
  obtain ⟨gone, horder, -⟩ := hlost.order
  rw [dropInbox]
  rw [hfold] at hlost horder ⊢
  exact
    { hlost with
      closed := fun _ => hclosed
      order := by
        refine ⟨h.queue ++ gone, ?_, fun hopen => by cases hopen⟩
        rw [horder, List.append_assoc, List.append_assoc, List.nil_append] }

/-- A submission that waits or has a slot has not posted its request. -/
theorem notPosted {t : Ticket} (ht : h.tickets[k]? = some t)
    (hstage : t.stage = .waiting ∨ t.stage = .granted) : k ∉ postings log := by
  have hstands := ha.stands k t ht
  rcases hstage with hstage | hstage <;> rwa [hstage] at hstands

end Agrees

end Handoff

end Inquest

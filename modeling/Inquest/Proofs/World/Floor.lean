import Inquest.Proofs.World.Log

/-! # What happens on a floor has its cause

Actions go on, the game loop takes requests and deals with them, actions are given up, the game loop stops
listening, all in any order.

* `Action.Sound`: an action is where what it has learned leads it.
* `Lawful`: what holds of a floor at every time; every move keeps it (`Lawful.step`).
* `handoff_safe`: nothing happens without its cause.
-/

namespace Inquest

/-! ## Actions -/

open Floor

/-- An action is where what it has learned leads it. -/
structure Action.Sound (a : Action) (log : List Happening) (i : Nat) : Prop where
  leads : ∀ e, a.rest = some e →
    (a.conduct.perform a.now a.name a.parameters).Leads a.past e
  past : ∀ c s, (c, s) ∈ a.past → ∃ k, .submitted i k c ∈ log ∧ .returned i k s ∈ log
  waits : ∀ k, a.ticket = some k →
    ∃ c next, a.rest = some (.post c next) ∧ .submitted i k c ∈ log

namespace Action.Sound

variable {a : Action} {log log' : List Happening} {i k : Nat} {c : Command}
  {next : Settlement → Errand Invocation} {s : Settlement}

theorem mono (h : a.Sound log i) (hsub : log ⊆ log') : a.Sound log' i where
  leads := h.leads
  past c s hpast := by
    obtain ⟨k, hsubmitted, hreturned⟩ := h.past c s hpast
    exact ⟨k, hsub hsubmitted, hsub hreturned⟩
  waits k hk := by
    obtain ⟨c, next, hrest, hsubmitted⟩ := h.waits k hk
    exact ⟨c, next, hrest, hsub hsubmitted⟩

/-- What an action submits may be posted. -/
theorem allowed (h : a.Sound log i) (hlog : Justified log) (hrest : a.rest = some (.post c next)) :
    Allowed log i c := by
  rintro npc suspect rfl
  obtain ⟨k, hsubmitted, hreturned⟩ := h.past _ _ (Conduct.leads_arrest (h.leads _ hrest))
  exact hlog.arrived hsubmitted hreturned

theorem proceed (h : a.Sound log i) (hrest : a.rest = some (.post c next))
    (hsubmitted : .submitted i k c ∈ log) (hreturned : .returned i k s ∈ log) :
    (Floor.proceed a c next s).Sound log i where
  leads := by
    rintro e ⟨⟩
    exact (h.leads _ hrest).concat s
  past := by
    intro c' s' hpast
    rcases List.mem_append.1 hpast with hpast | hpast
    · exact h.past c' s' hpast
    · cases List.mem_singleton.1 hpast
      exact ⟨k, hsubmitted, hreturned⟩
  waits := nofun

end Action.Sound

/-! ## Every move -/

namespace Floor

/-- The floor is as its log tells, and the queue holds no more than it can. -/
structure Lawful (capacity : Nat) (f : Floor) : Prop where
  agrees : f.handoff.Agrees f.log
  roomy : f.handoff.Roomy
  size : f.handoff.capacity = capacity
  sound : ∀ (i : Nat) a, f.actions[i]? = some a → a.Sound f.log i

theorem posts_same (h : Handoff) (tickets : List Ticket) :
    posts h { h with tickets := tickets } = [] := by
  simp [posts]

theorem posts_enqueue (h : Handoff) (tickets : List Ticket) (k : Nat) :
    posts h { h with tickets := tickets, queue := h.queue ++ [k] } = [.posted k] := by
  simp [posts]

namespace Lawful

variable {capacity : Nat} {f : Floor} {i : Nat} {a : Action} (hf : f.Lawful capacity)
include hf

/-- Something happens to an action and to the hand-off. -/
theorem update {a' : Action} {h : Handoff} {happened : List Happening}
    (ha : h.Agrees (f.log ++ happened)) (hroom : h.Roomy) (hsize : h.capacity = f.handoff.capacity)
    (hsound : a'.Sound (f.log ++ happened) i) : (f.update i a' h happened).Lawful capacity where
  agrees := ha
  roomy := hroom
  size := hsize.trans hf.size
  sound j b hb := by
    change (f.actions.set i a')[j]? = some b at hb
    rw [List.getElem?_set] at hb
    split at hb
    · next hij =>
      split at hb
      · cases hb
        exact hij ▸ hsound
      · cases hb
    · exact (hf.sound j b hb).mono (List.subset_append_left _ _)

/-- Something happens to the hand-off only. -/
theorem change {h : Handoff} {x : Happening} (ha : h.Agrees (f.log ++ [x])) (hroom : h.Roomy)
    (hsize : h.capacity = f.handoff.capacity) :
    Lawful capacity { f with handoff := h, log := f.log ++ [x] } where
  agrees := ha
  roomy := hroom
  size := hsize.trans hf.size
  sound j b hb := (hf.sound j b hb).mono (List.subset_append_left _ _)

theorem begin (c : Conduct) (now : Timestamp) (name : String) (parameters : Parameters) :
    (f.step (.begin c now name parameters)).Lawful capacity where
  agrees := hf.agrees
  roomy := hf.roomy
  size := hf.size
  sound j b hb := by
    rcases getElem?_concat hb with hb | ⟨rfl, rfl⟩
    · exact hf.sound j b hb
    · exact ⟨fun e he => Option.some.inj he ▸ .here _, nofun, nofun⟩

/-- An action submits its next command. -/
theorem submit {c : Command} {next : Settlement → Errand Invocation} (ha : f.actions[i]? = some a)
    (hrest : a.rest = some (.post c next)) (hticket : a.ticket = none) :
    (f.go i a).Lawful capacity := by
  let n := f.handoff.tickets.length
  have hsound := hf.sound i a ha
  have hallowed := hsound.allowed hf.agrees.justified hrest
  have hroom := Handoff.roomy_submit hf.roomy c
  have hsubmitted (happened : List Happening) :
      .submitted i n c ∈ f.log ++ .submitted i n c :: happened :=
    List.mem_append_right _ (List.mem_cons_self ..)
  -- an action that has to wait still holds the command, under the number that it was given
  have hwaits (happened : List Happening) :
      Action.Sound { a with rest := some (.post c next), ticket := some n }
        (f.log ++ .submitted i n c :: happened) i :=
    { hsound.mono (List.subset_append_left _ _) with
      leads := fun e he => Option.some.inj he ▸ hsound.leads _ hrest
      waits := fun k hk => ⟨c, next, rfl, Option.some.inj hk ▸ hsubmitted happened⟩ }
  simp only [go, hrest, hticket]
  rcases Handoff.submit_cases hf.agrees.handle c with
    ⟨hinbox, heq⟩ | ⟨hinbox, heq⟩ | heq <;> rw [heq] at hroom ⊢
  · -- nobody listens
    have hclosed : .closed ∈ f.log ++ [.submitted i n c] :=
      List.mem_append_left _ (hf.agrees.closed hinbox)
    have hagrees := (hf.agrees.submit hallowed (.inr (.inr rfl))).note
      (x := .returned i n (.error .disconnected)) ⟨⟨c, hsubmitted []⟩, .inr hclosed⟩
      rfl rfl rfl rfl
    rw [List.append_assoc] at hagrees
    refine hf.update hagrees hroom rfl ?_
    exact (hsound.mono (List.subset_append_left _ _)).proceed hrest (hsubmitted _)
      (List.mem_append_right _ (List.mem_cons_of_mem _ (List.mem_singleton_self _)))
  · -- there is room
    have hnew : n ∉ postings (f.log ++ [.submitted i n c]) := by
      rw [postings, filterMap_concat_none rfl]
      exact fun hk => hf.agrees.fresh (hf.agrees.justified.mem_submissions_of_posted hk)
    have hagrees := (hf.agrees.submit hallowed (.inr (.inl rfl))).enqueue hinbox
      List.getElem?_concat_length rfl hnew
    rw [List.append_assoc] at hagrees
    refine hf.update ?_ hroom rfl (hwaits _)
    rw [posts_enqueue]
    exact hagrees
  · -- there is none
    refine hf.update ?_ hroom rfl (hwaits _)
    rw [posts_same]
    exact hf.agrees.submit hallowed (.inl rfl)

/-- An action learns what came of its last command. -/
theorem learn {c : Command} {next : Settlement → Errand Invocation} {k : Nat} {s : Settlement}
    (ha : f.actions[i]? = some a) (hrest : a.rest = some (.post c next))
    (hsubmitted : .submitted i k c ∈ f.log) (hcomes : Comes f.log k s) :
    (f.update i (proceed a c next s) (f.handoff.setStage k .finished)
      [.returned i k s]).Lawful capacity := by
  have hcause : Cause f.log (.returned i k s) := ⟨⟨c, hsubmitted⟩, hcomes⟩
  have hsound := (hf.sound i a ha).mono (List.subset_append_left f.log [.returned i k s])
  exact hf.update ((hf.agrees.note hcause rfl rfl rfl rfl).finish k)
    (Handoff.roomy_setStage hf.roomy nofun) rfl
    (hsound.proceed hrest (List.mem_append_left _ hsubmitted)
      List.mem_concat_self)

/-- An action asks what became of its last command. -/
theorem poll {c : Command} {next : Settlement → Errand Invocation} {k : Nat}
    (ha : f.actions[i]? = some a) (hrest : a.rest = some (.post c next))
    (hticket : a.ticket = some k) : (f.go i a).Lawful capacity := by
  have hsound := hf.sound i a ha
  obtain ⟨c', next', hrest', hsubmitted⟩ := hsound.waits k hticket
  cases hrest.symm.trans hrest'
  -- the number stands for a ticket, whose stage the log bears out
  obtain ⟨t, ht⟩ : ∃ t, f.handoff.tickets[k]? = some t :=
    ⟨_, List.getElem?_eq_getElem (hf.agrees.numbered k (mem_submissions.2 ⟨i, c, hsubmitted⟩))⟩
  have hstands := hf.agrees.stands k t ht
  have hroom : (f.handoff.poll k).2.Roomy := Handoff.roomy_poll hf.roomy
  simp only [go, hrest, hticket]
  rcases Handoff.poll_cases ht with
    heq | heq | ⟨hgranted, hinbox, heq⟩ | ⟨refusal, hanswered, heq⟩ | ⟨hdeaf, heq⟩ <;>
    rw [heq] at hroom ⊢
  · -- it still has to wait, and nothing was posted
    refine hf.update ?_ hroom rfl (hsound.mono (List.subset_append_left _ _))
    rw [posts_same f.handoff f.handoff.tickets, List.append_nil]
    exact hf.agrees
  · exact hf
  · have hposted : (f.handoff.setStage k .posted).tickets[k]? = some { t with stage := .posted } := by
      rw [Handoff.getElem?_setStage, ht, Option.map_some, if_pos rfl]
    have hsettled : (f.handoff.setStage k .posted).Agrees f.log := hf.agrees.setStage trivial
    refine hf.update ?_ hroom rfl (hsound.mono (List.subset_append_left _ _))
    rw [Handoff.setStage, posts_enqueue]
    exact hsettled.enqueue hinbox hposted rfl (hf.agrees.notPosted ht (.inr hgranted))
  · rw [hanswered] at hstands
    refine hf.learn ha hrest hsubmitted ?_
    cases refusal <;> exact hstands
  · refine hf.learn ha hrest hsubmitted ?_
    rcases hdeaf with hlost | hinbox
    · rwa [hlost] at hstands
    · exact .inr (hf.agrees.closed hinbox)

theorem go (ha : f.actions[i]? = some a) : (f.go i a).Lawful capacity := by
  cases hrest : a.rest with
  | none => simpa only [Floor.go, hrest] using hf
  | some e =>
    cases e with
    | done r => simpa only [Floor.go, hrest] using hf
    | post c next =>
      cases hticket : a.ticket with
      | none => exact hf.submit ha hrest hticket
      | some k => exact hf.poll ha hrest hticket

theorem abandon (ha : f.actions[i]? = some a) : (f.abandon i a).Lawful capacity := by
  have hnoted : f.handoff.Agrees (f.log ++ [.abandoned i]) :=
    hf.agrees.note trivial rfl rfl rfl rfl
  have hsound : Action.Sound { a with rest := none, ticket := none } (f.log ++ [.abandoned i]) i :=
    { (hf.sound i a ha).mono (List.subset_append_left _ _) with
      leads := nofun
      waits := nofun }
  unfold Floor.abandon
  cases a.ticket with
  | none => exact hf.update hnoted hf.roomy rfl hsound
  | some k =>
    exact hf.update (hnoted.finish k).passSlot (Handoff.roomy_cancel hf.roomy)
      Handoff.capacity_passSlot hsound

theorem take : (f.step .take).Lawful capacity := by
  have hroom := Handoff.roomy_take hf.roomy
  cases hqueue : f.handoff.queue with
  | nil =>
    rw [step, hqueue]
    exact hf
  | cons k rest =>
    obtain ⟨gone, horder, -⟩ := hf.agrees.order
    have hposted : k ∈ postings f.log := by simp [horder, hqueue]
    have hk := hf.agrees.numbered k (hf.agrees.justified.mem_submissions_of_posted hposted)
    have ht := List.getElem?_eq_getElem hk
    have htake : f.handoff.take = (some f.handoff.tickets[k].command,
        { f.handoff with queue := rest, taken := f.handoff.taken ++ [k] }.passSlot) := by
      simp [Handoff.take, hqueue, ht]
    rw [htake] at hroom
    simp only [step, hqueue, List.head?_cons, htake]
    exact hf.change (hf.agrees.receive hqueue ht).passSlot hroom Handoff.capacity_passSlot

theorem settle {k : Nat} {x : Happening} {stage : Stage} (hk : k ∈ f.handoff.taken)
    (hx : x.settlement? = some k) (hstands : Handoff.Stands (f.log ++ [x]) k stage)
    (hstage : stage ≠ .granted) :
    Lawful capacity { f with handoff := f.handoff.settle k stage, log := f.log ++ [x] } :=
  hf.change (hf.agrees.settle hk hx hstands) (Handoff.roomy_settle hf.roomy hstage) rfl

/-- **Every move keeps it.** -/
theorem step (m : Move) : (f.step m).Lawful capacity := by
  cases m with
  | begin c now name parameters => exact hf.begin c now name parameters
  | go i =>
    rw [Floor.step]
    split
    · next a ha => exact hf.go ha
    · exact hf
  | abandon i =>
    rw [Floor.step]
    split
    · next a ha => exact hf.abandon ha
    · exact hf
  | take => exact hf.take
  | complete k refusal =>
    rw [Floor.step]
    split
    · next hk =>
      exact hf.settle hk rfl List.mem_concat_self nofun
    · exact hf
  | drop k =>
    rw [Floor.step]
    split
    · next hk =>
      exact hf.settle hk rfl (.inl List.mem_concat_self) nofun
    · exact hf
  | close =>
    rw [Floor.step]
    split
    · exact hf.change hf.agrees.close (Handoff.roomy_dropInbox hf.roomy) Handoff.capacity_dropInbox
    · exact hf

end Lawful

/-- A floor on which nothing has happened is lawful. -/
theorem lawful_empty {capacity : Nat} {h : Handoff} (hnew : Handoff.new? capacity = some h) :
    (empty h).Lawful capacity := by
  unfold Handoff.new? at hnew
  split at hnew
  · cases hnew
    exact
      { agrees :=
          { justified := fun before x after hsplit => by cases before <;> cases hsplit
            handle := rfl
            closed := fun hclosed => by cases hclosed
            known := fun k t ht => by cases ht
            numbered := fun k hk => by cases hk
            stands := fun k t ht => by cases ht
            order := ⟨[], rfl, fun _ => rfl⟩
            hands := fun k hk => by cases hk
            distinct := .nil }
        roomy := Nat.zero_le _
        size := rfl
        sound := fun i a ha => by cases ha }
  · cases hnew

theorem lawful_run {capacity : Nat} {f : Floor} (hf : f.Lawful capacity) (moves : List Move) :
    (moves.foldl step f).Lawful capacity := by
  induction moves generalizing f with
  | nil => exact hf
  | cons m moves ih => exact ih (hf.step m)

/-- **Whatever happens on a floor has its cause.** A request enters the queue, is taken and is dealt with
at most once, each time after it was submitted; an arrest is not even submitted before the game loop has
carried out the walk of the same action; an action learns what was made of its own request. Requests are
taken in the order in which they entered the queue, which never holds more than it can. -/
theorem handoff_safe {capacity : Nat} {h : Handoff} (hnew : Handoff.new? capacity = some h)
    (moves : List Move) :
    let f := moves.foldl step (empty h)
    Justified f.log ∧
      (submissions f.log).Nodup ∧ (postings f.log).Nodup ∧ (receipts f.log).Nodup ∧
      (settlements f.log).Nodup ∧
      (∃ gone, postings f.log = receipts f.log ++ f.handoff.queue ++ gone ∧
        (f.handoff.inbox = true → gone = [])) ∧
      f.handoff.queue.length ≤ capacity := by
  intro f
  have hf : f.Lawful capacity := lawful_run (lawful_empty hnew) moves
  have hlog := hf.agrees.justified
  refine ⟨hlog, hlog.nodup_submissions, hlog.nodup_postings, hlog.nodup_receipts,
    hlog.nodup_settlements, hf.agrees.order, ?_⟩
  calc f.handoff.queue.length
      ≤ f.handoff.held := Nat.le_add_right _ _
    _ ≤ f.handoff.capacity := hf.roomy
    _ = capacity := hf.size

/-- An arrest and a handover share a queue with room for one, and the handover, which came second, is dealt
with first. -/
theorem handoff_safe_of_arrest :
    let h : Handoff := ⟨1, [], [], [], true, true, Nat.one_pos⟩
    let rosa : Profile := .new "Rosa" "cook" ""
    let police : Profile := .new "Chief" "police" ""
    let moves : List Move :=
      [.begin ⟨police, [rosa]⟩ default "arrest_suspect" [("suspect_npc_name", .text "Rosa")],
        .begin ⟨rosa, [police]⟩ default "handover_item_to_detective"
          [("item_name", .text "knife")],
        .go 0, .go 1, .take, .go 1, .take, .complete 1 (some "No room."), .complete 0 none,
        .go 1, .go 0, .go 0, .take, .drop 2, .go 0, .close]
    let f := moves.foldl step (empty h)
    Handoff.new? 1 = some h ∧ Justified f.log ∧ receipts f.log = [0, 1, 2] ∧
      settlements f.log = [1, 0, 2] ∧ f.handoff.queue.length ≤ 1 := by
  intro h rosa police moves f
  have hnew : Handoff.new? 1 = some h := rfl
  obtain ⟨hlog, hroom⟩ : Justified f.log ∧ f.handoff.queue.length ≤ 1 := by
    -- nothing is computed here
    clear_value moves
    obtain ⟨hlog, -, -, -, -, -, hroom⟩ := handoff_safe hnew moves
    exact ⟨hlog, hroom⟩
  exact ⟨hnew, hlog, by decide +kernel, by decide +kernel, hroom⟩

end Floor

end Inquest

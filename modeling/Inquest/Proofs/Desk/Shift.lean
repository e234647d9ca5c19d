import Inquest.Proofs.Desk.Answers
import Inquest.Proofs.Town.Isolation

/-! # A shift at the desk, move by move

However requests come in, responses are read and the desk is kept, the players are told the answers in
the order of their requests, and the town is left as if they had talked to it themselves. Whether anybody
reads the responses makes no difference to it.

* `play_attend`, `standing_attend`: what a visit does to the desk.
* `Served`: visits that find an open desk, one after the other.
* `Kept`: how a shift stands to the visits attended to; every move keeps that.
* `comes_to_rest`: nobody waits for another for good.
* `answers_in_order`: all of this together.
-/

namespace Inquest

variable {σ ε : Type}

/-! ## One visit -/

namespace Desk

variable (model : Model σ) (casting : Casting ε)

/-- The play after a request made in the town itself, a stream being followed to its end. -/
def direct (p : Play σ ε) (v : Visit) : Play σ ε :=
  match v.request with
  | .talk npc text => (p.talk model casting v.now npc text).2
  | .stream npc text =>
    match p.streamTo model casting v.now npc text with
    | (.ok told, _) => told.final
    | (.error _, p) => p
  | _ => p

theorem conclude_eq_none (npc : String) {limited : Bool} {result : Except TownError Ending} :
    conclude limited npc result = none ↔ limited = false ∧ result = .ok .abandoned := by
  rcases result with e | r | e | - <;> cases limited <;> simp [conclude]

section
variable {d : Desk σ ε} {v : Visit} (h : d.standing = .serving)
include h

theorem attend_serve (hlate : d.limited = false ∨ v.late = none) :
    d.attend model casting v = d.serve model casting v.now v.request := by
  unfold attend
  split
  · next hlimited hsome _ => simp_all
  · rw [handle, h]

/-- A visit is attended to by serving the request, unless a streamed reply is given up. -/
theorem attend_cases :
    d.attend model casting v = d.serve model casting v.now v.request ∨
      d.limited = true ∧ (∃ npc text, v.request = .stream npc text) ∧
        ∃ answer play, d.attend model casting v = (answer, { d with play := play }) := by
  have hserve : d.handle model casting v.now v.request = d.serve model casting v.now v.request := by
    rw [handle, h]
  unfold attend
  split
  · next k npc text _ hlimited hlate hrequest =>
    split
    · exact .inl hserve
    · split
      · exact .inl hserve
      · next answer play _ => exact .inr ⟨hlimited, ⟨npc, text, hrequest⟩, answer, play, rfl⟩
  · exact .inl hserve

theorem play_attend (hlate : d.limited = false ∨ v.late = none) :
    (d.attend model casting v).2.play = direct model casting d.play v := by
  rw [attend_serve model casting h hlate, direct]
  cases v.request with
  | talk npc text => rfl
  | stream npc text =>
    simp only [serve]
    rcases d.play.streamTo model casting v.now npc text with ⟨e | told, p⟩ <;> rfl
  | reveal => rfl
  | save path =>
    simp only [serve]
    cases (SavedTown.capture v.now d.play.town).store path d.directory <;> rfl
  | shutdown => rfl

theorem limited_attend : (d.attend model casting v).2.limited = d.limited := by
  rcases attend_cases model casting h (v := v) with hserve | ⟨-, -, answer, play, hgiven⟩
  · rw [hserve]
    cases v.request with
    | talk npc text => rfl
    | stream npc text =>
      simp only [serve]
      rcases d.play.streamTo model casting v.now npc text with ⟨e | told, p⟩ <;> rfl
    | reveal => rfl
    | save path =>
      simp only [serve]
      cases (SavedTown.capture v.now d.play.town).store path d.directory <;> rfl
    | shutdown => rfl
  · rw [hgiven]

/-- A desk stays open unless it is shut down or waits for good. -/
theorem standing_attend :
    (d.attend model casting v).2.standing = .serving ↔
      v.request ≠ .shutdown ∧ ¬ Endless model casting d v := by
  -- the desk stays open unless a conversation without a limit never comes to its end
  have hopen (play : Play σ ε) (npc : String) (result : Except TownError Ending) :
      (d.afterTalk play (conclude d.limited npc result)).standing = .serving ↔
        ¬ (d.limited = false ∧ result = .ok .abandoned) := by
    rw [← conclude_eq_none npc, afterTalk]
    cases conclude d.limited npc result <;> simp [h]
  rcases attend_cases model casting h (v := v) with hserve | ⟨hlimited, ⟨npc, text, hrequest⟩,
    answer, play, hgiven⟩
  · rw [hserve]
    cases hrequest : v.request with
    | talk npc text =>
      simp only [Endless, hrequest, ne_eq, reduceCtorEq, not_false_eq_true, true_and]
      exact hopen _ _ _
    | stream npc text =>
      simp only [serve, Endless, hrequest, ne_eq, reduceCtorEq, not_false_eq_true, true_and]
      rcases d.play.streamTo model casting v.now npc text with ⟨e | told, p⟩
      · refine (hopen _ _ _).trans ?_
        simp only [reduceCtorEq, false_and, exists_false]
      · refine (hopen _ _ _).trans ?_
        simp only [Except.ok.injEq, exists_eq_left']
    | reveal => simp [serve, Endless, hrequest, h]
    | save path =>
      simp only [serve]
      cases (SavedTown.capture v.now d.play.town).store path d.directory <;>
        simp [Endless, hrequest, h]
    | shutdown => simp [serve]
  · rw [hgiven]
    simp [Endless, hlimited, hrequest, h]

end

/-! ## Visits one after the other -/

section
variable (d : Desk σ ε)

theorem work_concat (visits : List Visit) (v : Visit) :
    d.work model casting (visits ++ [v]) =
      ((d.work model casting visits).1 ++
          [((d.work model casting visits).2.attend model casting v).1],
        ((d.work model casting visits).2.attend model casting v).2) := by
  induction visits generalizing d with
  | nil => rfl
  | cons u visits ih => simp only [List.cons_append, work, ih]

theorem work_append_cons (before : List Visit) (v : Visit) (later : List Visit) :
    ∃ answers, (d.work model casting (before ++ v :: later)).1 =
      (d.work model casting before).1 ++
        ((d.work model casting before).2.attend model casting v).1 :: answers := by
  induction before generalizing d with
  | nil => exact ⟨_, rfl⟩
  | cons u before ih =>
    obtain ⟨answers, hanswers⟩ := ih (d.attend model casting u).2
    exact ⟨answers, congrArg (_ :: ·) hanswers⟩

/-- Every visit finds an open desk. -/
def Served (d : Desk σ ε) : List Visit → Prop
  | [] => True
  | v :: rest => d.standing = .serving ∧ Served (d.attend model casting v).2 rest

theorem served_append (visits later : List Visit) :
    Served model casting d (visits ++ later) ↔
      Served model casting d visits ∧ Served model casting (d.work model casting visits).2 later := by
  induction visits generalizing d with
  | nil => exact (and_iff_right trivial).symm
  | cons v visits ih => simp only [List.cons_append, Served, work, ih, and_assoc]

variable {d}

theorem limited_work {visits : List Visit} (h : Served model casting d visits) :
    (d.work model casting visits).2.limited = d.limited := by
  induction visits generalizing d with
  | nil => rfl
  | cons v visits ih => exact (ih h.2).trans (limited_attend model casting h.1)

/-- Without a limit the town is left as if all requests had been made there. -/
theorem play_work (hlimited : d.limited = false) {visits : List Visit}
    (h : Served model casting d visits) :
    (d.work model casting visits).2.play = visits.foldl (direct model casting) d.play := by
  induction visits generalizing d with
  | nil => rfl
  | cons v visits ih =>
    have hplay := play_attend model casting h.1 (v := v) (.inl hlimited)
    have hrest := ih ((limited_attend model casting h.1).trans hlimited) h.2
    rw [hplay] at hrest
    exact hrest

end

/-- What can be said of a visit: the answer is as it must be, names the suspect, ends and ends once;
nothing follows where the desk is shut down or waits for good, and it does not wait for good with a
limit. -/
structure Account (d : Desk σ ε) (v : Visit) (answer : List Response) (later : List Visit) :
    Prop where
  answered : ∃ play, Answered model casting d v answer play
  names : ∀ npc text, v.request = .talk npc text ∨ v.request = .stream npc text →
    ∀ x ∈ answer, x.npc? = some npc
  once : v.request ≠ .shutdown → ¬ Endless model casting d v → EndsOnce answer
  shutdown : v.request = .shutdown → answer = [] ∧ later = []
  endless : Endless model casting d v → d.limited = false ∧ later = []

theorem Served.account {d : Desk σ ε} {v : Visit} {later : List Visit}
    (h : Served model casting d (v :: later)) :
    Account model casting d v (d.attend model casting v).1 later := by
  have hanswered := attend_answered model casting d v h.1
  have hlater (hclosed : (d.attend model casting v).2.standing ≠ .serving) : later = [] := by
    cases later with
    | nil => rfl
    | cons u later => exact absurd h.2.1 hclosed
  have hstanding := standing_attend model casting h.1 (v := v)
  refine ⟨⟨_, hanswered⟩, fun npc text => hanswered.npc?, hanswered.endsOnce, fun hshut => ?_,
    fun hendless => ⟨hendless.1, hlater fun hopen => (hstanding.1 hopen).2 hendless⟩⟩
  refine ⟨?_, hlater fun hopen => (hstanding.1 hopen).1 hshut⟩
  rcases attend_cases model casting h.1 (v := v) with hserve | ⟨-, ⟨npc, text, hrequest⟩, -⟩
  · rw [hserve, hshut]
    rfl
  · rw [hshut] at hrequest
    cases hrequest

end Desk

/-! ## Moves -/

namespace Shift

variable (model : Model σ) (casting : Casting ε)

/-- How a shift that began at a desk stands to the visits attended to. -/
structure Kept (d : Desk σ ε) (s : Shift σ ε) : Prop where
  asked : s.asked = s.attended ++ s.waiting
  served : Desk.Served model casting d s.attended
  desk : s.desk = { (d.work model casting s.attended).2 with standing := s.desk.standing }
  standing : s.desk.standing = (d.work model casting s.attended).2.standing ∨
    s.desk.standing = .closed ∧ s.hungUp = true ∧ s.waiting = []
  said : ∃ dropped, s.received ++ dropped ++ s.queue ++ s.outgoing =
    (d.work model casting s.attended).1.flatten ∧ (s.listening = true → dropped = [])
  unread : s.listening = false → s.queue = []
  room : s.queue.length ≤ Desk.responseRoom ∧ s.waiting.length ≤ Desk.requestRoom

namespace Kept

variable {model casting} {d : Desk σ ε} {s : Shift σ ε} (h : Kept model casting d s)
include h

theorem say {r : Desk.Response} {rest : List Desk.Response} (hr : s.outgoing = r :: rest) :
    Kept model casting d (s.say r rest) := by
  obtain ⟨dropped, hsaid, hdropped⟩ := h.said
  rw [hr] at hsaid
  unfold Shift.say
  split
  · next hnot =>
    have hunread := h.unread (by simpa using hnot)
    refine ⟨h.asked, h.served, h.desk, h.standing, ⟨dropped ++ [r], ?_, ?_⟩, h.unread, h.room⟩
    · rw [hunread] at hsaid ⊢
      simpa using hsaid
    · intro hlistening
      rw [show s.listening = true from hlistening] at hnot
      cases hnot
  · next hlistening =>
    split
    · next hroom =>
      refine ⟨h.asked, h.served, h.desk, h.standing, ⟨dropped, ?_, hdropped⟩, ?_, ?_, h.room.2⟩
      · simpa using hsaid
      · intro hnot
        rw [show s.listening = false from hnot] at hlistening
        exact absurd rfl hlistening
      · rw [List.length_append, List.length_singleton]
        exact hroom
    · exact h

theorem takeUp (hopen : s.desk.standing = .serving) (hquiet : s.outgoing = []) :
    Kept model casting d (s.takeUp model casting) := by
  unfold Shift.takeUp
  have hwork : (d.work model casting s.attended).2 = s.desk := by
    have hstanding : (d.work model casting s.attended).2.standing = .serving := by
      rcases h.standing with hsame | ⟨hclosed, -⟩
      · rw [← hsame, hopen]
      · rw [hopen] at hclosed
        cases hclosed
    rw [h.desk, hopen, ← hstanding]
  split
  · next hnone =>
    split
    · next hhung =>
      exact ⟨h.asked, h.served, by rw [hwork], .inr ⟨rfl, hhung, hnone⟩, h.said, h.unread, h.room⟩
    · exact h
  · next v rest hwaiting =>
    have hconcat := Desk.work_concat model casting d s.attended v
    rw [hwork] at hconcat
    obtain ⟨dropped, hsaid, hdropped⟩ := h.said
    refine ⟨?_, ?_, ?_, .inl ?_, ⟨dropped, ?_, hdropped⟩, h.unread, h.room.1, ?_⟩
    · rw [h.asked, hwaiting, List.append_assoc, List.singleton_append]
    · refine (Desk.served_append ..).2 ⟨h.served, ?_⟩
      rw [hwork]
      exact ⟨hopen, trivial⟩
    · rw [hconcat]
    · rw [hconcat]
    · rw [hquiet, List.append_nil] at hsaid
      rw [hconcat, List.flatten_append, hsaid, List.flatten_singleton]
    · have hroom := h.room.2
      rw [hwaiting, List.length_cons] at hroom
      exact Nat.le_of_succ_le hroom

/-- **Every move keeps how a shift stands to the visits attended to.** -/
theorem step (m : Move) : Kept model casting d (s.step model casting m) := by
  -- each move touches one part of the account: what is asked, attended, said or read
  cases m with
  | ask v =>
    simp only [Shift.step]
    split
    · exact h
    · next hcan =>
      simp only [Bool.or_eq_true, not_or, decide_eq_true_eq, beq_iff_eq] at hcan
      obtain ⟨⟨hhung, hclosed⟩, hroom⟩ := hcan
      refine ⟨?_, h.served, h.desk, .inl ?_, h.said, h.unread, h.room.1, ?_⟩
      · rw [h.asked, List.append_assoc]
      · exact h.standing.resolve_right fun hend => hclosed hend.1
      · rw [List.length_append, List.length_singleton]
        omega
  | hangUp =>
    refine ⟨h.asked, h.served, h.desk, h.standing.imp id ?_, h.said, h.unread, h.room⟩
    exact fun hend => ⟨hend.1, rfl, hend.2.2⟩
  | work =>
    simp only [Shift.step]
    split
    · next hr => exact h.say hr
    · next hquiet =>
      split
      · next hopen => exact h.takeUp hopen hquiet
      · exact h
  | read =>
    simp only [Shift.step]
    split
    · next r rest hqueue =>
      obtain ⟨dropped, hsaid, hdropped⟩ := h.said
      -- something is in the queue, so the visitor has not left
      have hlistening : s.listening = true := by
        by_contra hnot
        rw [h.unread (by simpa using hnot)] at hqueue
        cases hqueue
      refine ⟨h.asked, h.served, h.desk, h.standing, ⟨[], ?_, fun _ => rfl⟩, ?_, ?_, h.room.2⟩
      · rw [hdropped hlistening, hqueue] at hsaid
        simpa using hsaid
      · intro hnot
        rw [show s.listening = false from hnot] at hlistening
        cases hlistening
      · have hroom := h.room.1
        rw [hqueue, List.length_cons] at hroom
        exact Nat.le_of_succ_le hroom
    · exact h
  | leave =>
    -- what the visitor did not read counts as dropped
    obtain ⟨dropped, hsaid, -⟩ := h.said
    refine ⟨h.asked, h.served, h.desk, h.standing, ⟨dropped ++ s.queue, ?_, nofun⟩, fun _ => rfl,
      Nat.zero_le _, h.room.2⟩
    refine Eq.trans ?_ hsaid
    show s.received ++ (dropped ++ s.queue) ++ [] ++ s.outgoing = _
    simp only [List.append_assoc, List.nil_append]

theorem run (moves : List Move) : Kept model casting d (moves.foldl (Shift.step model casting) s) := by
  induction moves generalizing s with
  | nil => exact h
  | cons m moves ih => exact ih (h.step m)

end Kept

theorem kept_opening (d : Desk σ ε) : Kept model casting d (opening d) :=
  ⟨rfl, trivial, rfl, .inl rfl, ⟨[], rfl, fun _ => rfl⟩, fun _ => rfl, Nat.zero_le _, Nat.zero_le _⟩

/-! ## Rest -/

/-- Everything that can be said is said and read, and no request waits for an open desk. -/
structure AtRest (s : Shift σ ε) : Prop where
  outgoing : s.outgoing = []
  queue : s.queue = []
  waiting : s.desk.standing = .serving → s.waiting = []

/-- Moves of those who keep the desk and of those who read. -/
def Willing (m : Move) : Prop := m = .work ∨ m = .read

/-- The queue is read to its end. -/
theorem drains_queue (s : Shift σ ε) : ∃ moves : List Move, (∀ m ∈ moves, Willing m) ∧
    moves.foldl (step model casting) s =
      { s with queue := [], received := s.received ++ s.queue } := by
  obtain ⟨desk, asked, waiting, hungUp, attended, outgoing, queue, received, listening⟩ := s
  induction queue generalizing received with
  | nil => exact ⟨[], nofun, by simp⟩
  | cons r queue ih =>
    obtain ⟨moves, hwilling, hmoves⟩ := ih (received ++ [r])
    refine ⟨.read :: moves, List.forall_mem_cons.2 ⟨.inr rfl, hwilling⟩, ?_⟩
    rw [List.foldl_cons, step, hmoves, List.append_assoc, List.singleton_append]

theorem willing_concat {moves later : List Move} (hmoves : ∀ m ∈ moves, Willing m)
    (hlater : ∀ m ∈ later, Willing m) : ∀ m ∈ moves ++ .work :: later, Willing m := by
  intro m hm
  rcases List.mem_append.1 hm with hm | hm
  · exact hmoves m hm
  · exact List.forall_mem_cons.2 ⟨.inl rfl, hlater⟩ m hm

/-- With nothing on the queue the next response can be said. -/
theorem step_say {s : Shift σ ε} {r : Desk.Response} {rest : List Desk.Response}
    (hout : s.outgoing = r :: rest) (hqueue : s.queue = []) :
    let s' := step model casting s .work
    s'.outgoing = rest ∧ s'.desk = s.desk ∧ s'.waiting = s.waiting := by
  have hroom : s.queue.length < Desk.responseRoom := by
    rw [hqueue]
    decide
  simp only [step, hout, say, hroom, if_true]
  split <;> exact ⟨rfl, rfl, rfl⟩

/-- What remains of an answer is said and read. -/
theorem drains_answer (s : Shift σ ε) : ∃ moves : List Move, (∀ m ∈ moves, Willing m) ∧
    let s' := moves.foldl (step model casting) s
    s'.outgoing = [] ∧ s'.queue = [] ∧ s'.desk = s.desk ∧ s'.waiting = s.waiting := by
  generalize hout : s.outgoing = outgoing
  induction outgoing generalizing s with
  | nil =>
    obtain ⟨moves, hwilling, hmoves⟩ := drains_queue model casting s
    exact ⟨moves, hwilling, by rw [hmoves]; exact ⟨hout, rfl, rfl, rfl⟩⟩
  | cons r rest ih =>
    obtain ⟨moves, hwilling, hmoves⟩ := drains_queue model casting s
    obtain ⟨hsaid, hdesk, hwaiting⟩ := step_say model casting
      (s := { s with queue := [], received := s.received ++ s.queue }) hout rfl
    obtain ⟨later, hlater, hrest⟩ := ih _ hsaid
    refine ⟨moves ++ .work :: later, willing_concat hwilling hlater, ?_⟩
    rw [List.foldl_append, hmoves, List.foldl_cons]
    rw [hdesk, hwaiting] at hrest
    exact hrest

/-- **Nobody waits for another for good:** as long as somebody keeps the desk and somebody reads, what can
be said is said and read. -/
theorem comes_to_rest (s : Shift σ ε) : ∃ moves : List Move, (∀ m ∈ moves, Willing m) ∧
    (moves.foldl (step model casting) s).AtRest := by
  generalize hwait : s.waiting = waiting
  induction waiting generalizing s with
  | nil =>
    obtain ⟨moves, hwilling, hout, hqueue, -, hwaiting⟩ := drains_answer model casting s
    exact ⟨moves, hwilling, hout, hqueue, fun _ => hwaiting.trans hwait⟩
  | cons v rest ih =>
    obtain ⟨moves, hwilling, hout, hqueue, hdesk, hwaiting⟩ := drains_answer model casting s
    by_cases hopen : s.desk.standing = .serving
    · have htake : (step model casting (moves.foldl (step model casting) s) .work).waiting = rest := by
        simp only [step, hout, hdesk, hopen, if_true, takeUp, hwaiting, hwait]
      obtain ⟨later, hlater, hrest⟩ := ih _ htake
      refine ⟨moves ++ .work :: later, willing_concat hwilling hlater, ?_⟩
      rw [List.foldl_append, List.foldl_cons]
      exact hrest
    · exact ⟨moves, hwilling, hout, hqueue, fun hserving => absurd (hdesk ▸ hserving) hopen⟩

/-! ## Whole shifts -/

/-- A desk that is not open attends to nobody any more. -/
theorem closed_for_good {s : Shift σ ε} (h : s.desk.standing ≠ .serving) (moves : List Move) :
    let s' := moves.foldl (step model casting) s
    s'.attended = s.attended ∧ s'.desk = s.desk := by
  induction moves generalizing s with
  | nil => exact ⟨rfl, rfl⟩
  | cons m moves ih =>
    have hstep : (s.step model casting m).attended = s.attended ∧
        (s.step model casting m).desk = s.desk := by
      cases m with
      | ask v =>
        simp only [step]
        split <;> exact ⟨rfl, rfl⟩
      | work =>
        simp only [step, h, if_false]
        split
        · unfold say
          split
          · exact ⟨rfl, rfl⟩
          · split <;> exact ⟨rfl, rfl⟩
        · exact ⟨rfl, rfl⟩
      | read =>
        simp only [step]
        split <;> exact ⟨rfl, rfl⟩
      | hangUp | leave => exact ⟨rfl, rfl⟩
    obtain ⟨hattended, hdesk⟩ := ih (hstep.2 ▸ h)
    exact ⟨hattended.trans hstep.1, hdesk.trans hstep.2⟩

/-- **The desk is a faithful front of the town.** However a shift goes, the requests are attended to in
their order, each with an answer of its own. The players are told these answers one after the other, up to
what is still on its way; only those who stopped reading miss some. The town is left as the answers leave
it, whether anybody reads them or not; without a limit, as if all requests had been made there. Once the
desk is shut down, or no more requests come, nothing more is said. And as long as somebody keeps the desk
and somebody reads, everything comes to be said and read. -/
theorem answers_in_order (d : Desk σ ε) (moves : List Move) :
    let s := moves.foldl (step model casting) (opening d)
    let work := d.work model casting
    s.asked = s.attended ++ s.waiting ∧
      (∀ before v later, s.attended = before ++ v :: later →
        let desk := (work before).2
        let answer := (desk.attend model casting v).1
        (∃ answers, (work s.attended).1 = (work before).1 ++ answer :: answers) ∧
          desk.limited = d.limited ∧ Desk.Account model casting desk v answer later) ∧
      (∃ dropped, s.received ++ dropped ++ s.queue ++ s.outgoing = (work s.attended).1.flatten ∧
        (s.listening = true → dropped = [])) ∧
      s.desk = { (work s.attended).2 with standing := s.desk.standing } ∧
      (d.limited = false → s.desk.play = s.attended.foldl (Desk.direct model casting) d.play) ∧
      (s.desk.standing ≠ .serving → ∀ later : List Move,
        let s' := later.foldl (step model casting) s
        s'.attended = s.attended ∧ s'.desk = s.desk) ∧
      ∃ later : List Move, (∀ m ∈ later, Willing m) ∧
        let s' := later.foldl (step model casting) s
        s'.AtRest ∧ (s'.listening = true → s'.received = (work s'.attended).1.flatten) := by
  intro s work
  have hkept : Kept model casting d s := (kept_opening model casting d).run moves
  refine ⟨hkept.asked, fun before v later hsplit => ?_, hkept.said, hkept.desk, fun hlimited => ?_,
    closed_for_good model casting, ?_⟩
  · -- a request attended before the others is answered by the desk that it found
    have hserved := hkept.served
    rw [hsplit, Desk.served_append] at hserved
    refine ⟨?_, Desk.limited_work model casting hserved.1, hserved.2.account⟩
    rw [hsplit]
    exact Desk.work_append_cons ..
  · have hplay := congrArg Desk.play hkept.desk
    exact hplay.trans (Desk.play_work model casting hlimited hkept.served)
  · -- the willing moves leave nothing to say or to read, so what was read is the whole work
    obtain ⟨later, hwilling, hrest⟩ := comes_to_rest model casting s
    refine ⟨later, hwilling, hrest, fun hlistening => ?_⟩
    obtain ⟨dropped, hsaid, hdropped⟩ := (hkept.run later).said
    rw [hdropped hlistening, hrest.queue, hrest.outgoing] at hsaid
    simpa using hsaid

/-- Two are asked, one of them a stranger, and the desk is shut down before a third request. -/
theorem answers_in_order_of_three :
    let d : Desk Nat Unit := ⟨⟨Town.ofTwo, 0, ()⟩, .directory [], .serving, false⟩
    let idle : Casting Unit := fun _ _ => ⟨fun _ e _ _ => (.panicked, e)⟩
    let moves : List Move := [.ask ⟨default, .stream "Rosa" "Hello.", none⟩,
      .ask ⟨default, .talk "Ann" "Hello.", none⟩, .work, .work, .work, .read, .work, .read,
      .ask ⟨default, .shutdown, none⟩, .ask ⟨default, .reveal, none⟩, .work, .work, .work]
    let s := moves.foldl (step Session.counting idle) (opening d)
    s.received = (d.work Session.counting idle s.attended).1.flatten ∧
      s.received.map Desk.Response.npc? = [some "Rosa", some "Ann"] ∧ s.waiting.length = 1 := by
  intro d idle moves s
  obtain ⟨-, -, ⟨dropped, hsaid, hdropped⟩, -⟩ := answers_in_order Session.counting idle d moves
  have hqueue : s.queue = [] := List.length_eq_zero_iff.1 (by decide +kernel)
  have houtgoing : s.outgoing = [] := List.length_eq_zero_iff.1 (by decide +kernel)
  have hreceived : s.received ++ dropped ++ s.queue ++ s.outgoing =
      (d.work Session.counting idle s.attended).1.flatten := hsaid
  rw [hdropped (by decide +kernel), hqueue, houtgoing] at hreceived
  exact ⟨by simpa using hreceived, by decide +kernel, by decide +kernel⟩

end Shift

end Inquest

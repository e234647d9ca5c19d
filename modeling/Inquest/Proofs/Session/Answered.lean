import Inquest.Proofs.Model.Item
import Inquest.Proofs.Session.Conversation

/-! # Every call is answered

A model's service refuses a history in which a call has no output. `Answered` says of a list of
items that its outputs answer its calls in order, each after its call.

* `Stretch`: a piece of a conversation as it stands in the transcript and in the history. A round is
  one piece: the items of its response, an output for each call, and the turns of the invocations.
* `accounts_step`: a conversation consists of stretches, and each step keeps that.
* `calls_answered`: hence the history is answered at every moment of every conversation.
-/

namespace Inquest

/-! ## Calls and outputs among items -/

/-- The call's id, if the item is a call. -/
def Item.callId? : Item → Option String
  | .call c => some c.callId
  | _ => none

/-- The id of the call that the item answers, if it is an output. -/
def Item.outputId? : Item → Option String
  | .output id _ => some id
  | _ => none

/-- The ids of the calls, in order. -/
def callIds (items : List Item) : List String := items.filterMap Item.callId?

/-- The ids that the outputs answer, in order. -/
def outputIds (items : List Item) : List String := items.filterMap Item.outputId?

@[simp] theorem callIds_nil : callIds [] = [] := rfl

@[simp] theorem outputIds_nil : outputIds [] = [] := rfl

@[simp] theorem callIds_append (xs ys : List Item) :
    callIds (xs ++ ys) = callIds xs ++ callIds ys :=
  List.filterMap_append

@[simp] theorem outputIds_append (xs ys : List Item) :
    outputIds (xs ++ ys) = outputIds xs ++ outputIds ys :=
  List.filterMap_append

/-- Nothing is output in a response; outputs are what it is answered with. -/
def Response.NoOutputs (r : Response) : Prop := ∀ id text, Item.output id text ∉ r.output

theorem Response.NoOutputs.outputIds {r : Response} (h : r.NoOutputs) :
    outputIds r.output = [] := by
  refine List.filterMap_eq_nil_iff.2 fun item hitem => ?_
  cases item with
  | output id text => exact absurd hitem (h id text)
  | _ => rfl

theorem callIds_output (r : Response) : callIds r.output = r.calls.map Call.callId := by
  rw [callIds, Response.calls, List.map_filterMap]
  congr 1
  funext item
  cases item <;> rfl

/-- No item of a response's body is read as an output. -/
theorem Item.ofJson?_ne_output (j : Json) (id text : String) :
    Item.ofJson? j ≠ some (.output id text) := by
  intro h
  rcases ofJson?_cases h with ⟨_, _, _, hitem⟩ | ⟨_, hitem⟩ | ⟨_, hitem⟩
  · cases hitem
  · cases hitem
  · cases hitem

/-- A response that was received holds no output. -/
theorem Response.noOutputs_ofJson {raw : Json} {r : Response} (h : Response.ofJson raw = .ok r) :
    r.NoOutputs := by
  intro id text hitem
  unfold Response.ofJson at h
  split at h
  · rename_i found hfound
    cases h
    rw [Json.decodeValue] at hfound
    simp only [decode, bind_eq_ok] at hfound
    obtain ⟨_, -, _, -, _, -, _, -, output, -, _, -, hr⟩ := hfound
    cases hr
    obtain ⟨j, -, hj⟩ := List.mem_filterMap.1 hitem
    exact Item.ofJson?_ne_output j id text hj
  · cases h

namespace Session

theorem callIds_outputs (calls : List Call) (is : List Invocation) :
    callIds (outputs calls is) = [] := by
  refine List.filterMap_eq_nil_iff.2 fun item hitem => ?_
  obtain ⟨k, hk, rfl⟩ := List.getElem_of_mem hitem
  simp [outputs, Item.callId?]

theorem outputIds_outputs {calls : List Call} {is : List Invocation}
    (h : is.length = calls.length) :
    outputIds (outputs calls is) = calls.map Call.callId := by
  induction calls generalizing is with
  | nil => simp [outputs]
  | cons c calls ih =>
    cases is with
    | nil => simp at h
    | cons i is =>
      have hrest := ih (show is.length = calls.length by simpa using h)
      simp only [outputs, outputIds, List.zipWith_cons_cons, List.filterMap_cons, Item.outputId?,
        List.map_cons] at hrest ⊢
      rw [hrest]

/-! ## Answered histories -/

/-- The outputs answer the calls in order, and none stands before its call. -/
def Answered (items : List Item) : Prop :=
  callIds items = outputIds items ∧ ∀ p, p <+: items → outputIds p <+: callIds p

theorem answered_words {items : List Item} (hcalls : callIds items = [])
    (houtputs : outputIds items = []) : Answered items := by
  refine ⟨by rw [hcalls, houtputs], fun p hp => ?_⟩
  have h : outputIds p <+: outputIds items := hp.filterMap _
  rw [houtputs, List.prefix_nil] at h
  rw [h]
  exact List.nil_prefix

theorem Answered.append {xs ys : List Item} (hx : Answered xs) (hy : Answered ys) :
    Answered (xs ++ ys) := by
  refine ⟨by rw [callIds_append, outputIds_append, hx.1, hy.1], fun p hp => ?_⟩
  rcases List.prefix_or_prefix_of_prefix hp (List.prefix_append xs ys) with h | ⟨q, rfl⟩
  · exact hx.2 p h
  · rw [callIds_append, outputIds_append, hx.1, List.prefix_append_right_inj]
    exact hy.2 q ((List.prefix_append_right_inj xs).1 hp)

/-- A response and the outputs of its calls. -/
theorem answered_round {r : Response} {is : List Invocation} (hr : r.NoOutputs)
    (h : is.length = r.calls.length) : Answered (r.output ++ outputs r.calls is) := by
  have hids : outputIds (outputs r.calls is) = callIds r.output := by
    rw [outputIds_outputs h, callIds_output]
  refine ⟨by simp [callIds_outputs, hr.outputIds, hids], fun p hp => ?_⟩
  rcases List.prefix_or_prefix_of_prefix hp (List.prefix_append r.output _) with hout | ⟨q, rfl⟩
  · have hnone : outputIds p <+: outputIds r.output := hout.filterMap _
    rw [hr.outputIds, List.prefix_nil] at hnone
    rw [hnone]
    exact List.nil_prefix
  · have hq : outputIds q <+: outputIds (outputs r.calls is) :=
      ((List.prefix_append_right_inj _).1 hp).filterMap _
    rw [outputIds_append, hr.outputIds, List.nil_append, callIds_append, ← hids]
    exact hq.trans (List.prefix_append _ _)

/-! ## Stretches of a conversation -/

/-- A stretch of a conversation. -/
inductive Stretch
  /-- Words, or the acts of a round that came to nothing. -/
  | words (turns : List Turn) (items : List Item)
  /-- A response, and the invocations of its calls. -/
  | round (npc sender : String) (r : Response) (is : List Invocation)

namespace Stretch

/-- The stretch in the transcript. -/
def turns : Stretch → List Turn
  | words turns _ => turns
  | round npc sender _ is => is.map (Turn.acted npc sender)

/-- The stretch in the history: after the items of a response come the outputs of its calls, each
with the output text of its invocation. -/
def items : Stretch → List Item
  | words _ items => items
  | round _ _ r is => r.output ++ outputs r.calls is

/-- The response, if the stretch is a round. -/
def response? : Stretch → Option Response
  | words _ _ => none
  | round _ _ r _ => some r

/-- Words hold no calls and outputs; in a round every call has its invocation. -/
def Sound : Stretch → Prop
  | words _ items => callIds items = [] ∧ outputIds items = []
  | round _ _ r is => r.NoOutputs ∧ is.length = r.calls.length

theorem Sound.answered : {x : Stretch} → x.Sound → Answered x.items
  | words _ _, h => answered_words h.1 h.2
  | round _ _ _ _, h => answered_round h.1 h.2

end Stretch

theorem answered_stretches {ledger : List Stretch} (h : ∀ x ∈ ledger, x.Sound) :
    Answered (ledger.flatMap Stretch.items) := by
  induction ledger with
  | nil => exact answered_words rfl rfl
  | cons x ledger ih =>
    rw [List.flatMap_cons]
    exact (h x List.mem_cons_self).answered.append (ih fun y hy => h y (List.mem_cons_of_mem _ hy))

/-! ## The ledger of a conversation -/

/-- The turns of a round that is not committed. -/
def Phase.pending (npc : String) : Phase → List Turn
  | .acting draft _ acts _ => acts.map (Turn.acted npc draft.sender)
  | _ => []

/-- A conversation as the stretches in `ledger`. -/
structure Accounts (ledger : List Stretch) (m : Moment) : Prop where
  sound : ∀ x ∈ ledger, x.Sound
  history : m.session.history = ledger.flatMap Stretch.items
  transcript : m.session.transcript =
    ledger.flatMap Stretch.turns ++ m.phase.pending m.session.name
  /-- The responses in the ledger came from the model, in this order. -/
  responses : (ledger.filterMap Stretch.response?).Sublist
    (m.exchanges.reverse.map Exchange.response)
  /-- While calls are carried out their response is not in the ledger. -/
  acting : ∀ {draft r acts rest}, m.phase = .acting draft r acts rest →
    acts.length + rest.length = r.calls.length ∧
      (ledger.filterMap Stretch.response? ++ [r]).Sublist
        (m.exchanges.reverse.map Exchange.response)

section
variable {ledger : List Stretch} {s : Session} {phase : Phase} {log : List Exchange}

theorem Accounts.words (h : Accounts ledger ⟨s, phase, log⟩) {s' : Session} {phase' : Phase}
    (turns : List Turn) (items : List Item) (hitems : callIds items = [] ∧ outputIds items = [])
    (hhistory : s'.history = s.history ++ items)
    (htranscript : s'.transcript = s.transcript ++ turns)
    (hphase : ∀ {draft r acts rest}, phase' ≠ .acting draft r acts rest) :
    Accounts (ledger ++ [.words (phase.pending s.name ++ turns) items]) ⟨s', phase', log⟩ where
  sound := by
    intro x hx
    rcases List.mem_append.1 hx with hx | hx
    · exact h.sound x hx
    · rw [List.mem_singleton.1 hx]
      exact hitems
  history := by
    rw [hhistory, h.history]
    simp [Stretch.items]
  transcript := by
    have hnone : phase'.pending s'.name = [] := by
      cases phase' with
      | acting => exact absurd rfl hphase
      | _ => rfl
    rw [htranscript, h.transcript, hnone]
    simp [Stretch.turns]
  responses := by
    rw [List.filterMap_append]
    simpa [List.filterMap_cons, Stretch.response?] using h.responses
  acting := fun hp => absurd hp hphase

theorem Accounts.answered {draft : Draft} (h : Accounts ledger ⟨s, .asking draft, log⟩)
    (q : Request)
    (r : Response) : Accounts ledger ⟨s, .acting draft r [] r.calls, ⟨q, r⟩ :: log⟩ where
  sound := h.sound
  history := h.history
  transcript := h.transcript
  responses := by
    rw [List.reverse_cons, List.map_append]
    exact h.responses.trans (List.sublist_append_left _ _)
  acting := by
    intro draft' r' acts rest hp
    cases hp
    refine ⟨Nat.zero_add _, ?_⟩
    rw [List.reverse_cons, List.map_append]
    exact h.responses.append (List.Sublist.refl _)

theorem Accounts.acted {draft : Draft} {r : Response} {acts : List Invocation} {c : Call}
    {rest : List Call} (h : Accounts ledger ⟨s, .acting draft r acts (c :: rest), log⟩)
    (i : Invocation) :
    Accounts ledger ⟨s.record (.acted s.name draft.sender i),
      .acting draft r (acts ++ [i]) rest, log⟩
    where
  sound := h.sound
  history := h.history
  transcript := by
    have htranscript := h.transcript
    simp only [Phase.pending] at htranscript
    simp [Phase.pending, record, htranscript, name]
  responses := h.responses
  acting := by
    intro draft' r' acts' rest' hp
    cases hp
    obtain ⟨hlength, hsub⟩ := h.acting rfl
    refine ⟨?_, hsub⟩
    simp only [List.length_append, List.length_cons, List.length_nil] at hlength ⊢
    omega

theorem Accounts.committed {draft draft' : Draft} {r : Response} {acts : List Invocation}
    {again : Bool} (h : Accounts ledger ⟨s, .acting draft r acts [], log⟩) (hr : r.NoOutputs) :
    Accounts (ledger ++ [.round s.name draft.sender r acts])
      ⟨s.commit r (outputs r.calls acts), .telling draft' again, log⟩ where
  sound := by
    intro x hx
    rcases List.mem_append.1 hx with hx | hx
    · exact h.sound x hx
    · rw [List.mem_singleton.1 hx]
      exact ⟨hr, (h.acting rfl).1⟩
  history := by
    have hhistory : s.history = ledger.flatMap Stretch.items := h.history
    simp [history_commit, hhistory, Stretch.items]
  transcript := by
    have htranscript : s.transcript = ledger.flatMap Stretch.turns ++ _ := h.transcript
    simp [commit, htranscript, Stretch.turns, Phase.pending]
  responses := by
    simpa [Stretch.response?] using (h.acting rfl).2
  acting := fun hp => by cases hp

end

/-- **Each step keeps the accounts**, with the stretch that it completes. -/
theorem accounts_step {m m' : Moment} (hstep : m.Step m') {ledger : List Stretch}
    (h : Accounts ledger m) (hr : ∀ x ∈ m'.exchanges, x.response.NoOutputs) :
    ∃ ledger', Accounts ledger' m' := by
  cases hstep with
  | prepared text tools settings =>
    exact ⟨ledger, h.sound, h.history, h.transcript, h.responses, h.acting⟩
  | began now sender text =>
    exact ⟨_, h.words [_] [_] ⟨rfl, rfl⟩ (history_beginTurn ..) rfl (by simp)⟩
  | answered r => exact ⟨ledger, h.answered _ r⟩
  | acted i => exact ⟨ledger, h.acted i⟩
  | @committed s draft r acts log =>
    -- the response being carried out is among those that came, so it brings no outputs itself
    have hmem : r ∈ log.reverse.map Exchange.response :=
      (h.acting rfl).2.subset (List.mem_append_right _ List.mem_cons_self)
    obtain ⟨x, hx, rfl⟩ := List.mem_map.1 hmem
    exact ⟨_, h.committed (hr x (List.mem_reverse.1 hx))⟩
  | askedAgain =>
    exact ⟨ledger, h.sound, h.history, h.transcript, h.responses, fun hp => by cases hp⟩
  | replied now =>
    exact ⟨_, h.words [_] [] ⟨rfl, rfl⟩ (by simp [finish, history_record]) rfl
      (by simp)⟩
  | dropped =>
    exact ⟨_, h.words [] [] ⟨rfl, rfl⟩ (by simp) (by simp) (by simp)⟩

theorem Moment.Step.exchanges {m m' : Moment} (h : m.Step m') : m.exchanges ⊆ m'.exchanges := by
  cases h with
  | answered r => exact List.subset_cons_self _ _
  | _ => exact List.Subset.refl _

theorem accounts_steps {m m' : Moment} (hsteps : m.Steps m') {ledger : List Stretch}
    (h : Accounts ledger m) (hr : ∀ x ∈ m'.exchanges, x.response.NoOutputs) :
    ∃ ledger', Accounts ledger' m' := by
  induction hsteps with
  | refl => exact ⟨ledger, h⟩
  | tail _ hstep ih =>
    obtain ⟨ledger', h'⟩ := ih fun x hx => hr x (hstep.exchanges hx)
    exact accounts_step hstep h' hr

theorem Opening.words {s : Session} (h : Opening s) :
    callIds s.history = [] ∧ outputIds s.history = [] := by
  induction h with
  | new => exact ⟨rfl, rfl⟩
  | @resumed s t _ ih =>
    have hspoken : (s.withTranscript t).history = s.history ++
        (t.filter fun turn => !turn.isActivity).map (replayed s.name) := by
      simp [withTranscript]
    rw [hspoken, callIds_append, outputIds_append, ih.1, ih.2]
    refine ⟨List.filterMap_eq_nil_iff.2 fun item hitem => ?_,
      List.filterMap_eq_nil_iff.2 fun item hitem => ?_⟩
    all_goals
      obtain ⟨turn, -, rfl⟩ := List.mem_map.1 hitem
      rw [replayed]
      split <;> rfl

theorem Opening.accounts {s : Session} (h : Opening s) :
    Accounts [.words s.transcript s.history] ⟨s, .idle, []⟩ where
  sound := by
    intro x hx
    rw [List.mem_singleton.1 hx]
    exact h.words
  history := by simp [Stretch.items]
  transcript := by simp [Stretch.turns, Phase.pending]
  responses := by simp [List.filterMap_cons, Stretch.response?]
  acting := fun hp => by cases hp

/-- **Every call is answered.** At every moment of a conversation the outputs in the history answer
its calls in order, none before its call, and so they do in a request with the whole history. The
conversation consists of words and rounds: the items of a response are directly followed by an
output for each of its calls, with the output text of the invocation that the transcript holds for
the call. -/
theorem calls_answered {s₀ : Session} {m : Moment} (h₀ : Opening s₀) (h : Conversation s₀ m)
    (hr : ∀ x ∈ m.exchanges, x.response.NoOutputs) :
    Answered m.session.history ∧
      (m.session.settings.context = .fullTranscript → Answered m.session.request.input) ∧
      ∃ ledger : List Stretch, (∀ x ∈ ledger, x.Sound) ∧
        m.session.history = ledger.flatMap Stretch.items ∧
        m.session.transcript = ledger.flatMap Stretch.turns ++ m.phase.pending m.session.name ∧
        (ledger.filterMap Stretch.response?).Sublist
          (m.exchanges.reverse.map Exchange.response) := by
  obtain ⟨ledger, haccounts⟩ := accounts_steps h.steps h₀.accounts hr
  have hanswered : Answered m.session.history := by
    rw [haccounts.history]
    exact answered_stretches haccounts.sound
  refine ⟨hanswered, fun hfull => ?_, ledger, haccounts.sound, haccounts.history,
    haccounts.transcript, haccounts.responses⟩
  rw [request, hfull]
  exact hanswered

/-- A round of two calls, the second of which failed, committed before its turn was dropped. -/
theorem calls_answered_of_two_calls :
    let s₀ := Session.new (.new "Rosa" "cook" "a knife") "Be brief." .default
    let calls : List Call := [⟨none, "c1", "wave", ""⟩, ⟨none, "c2", "leave", "no"⟩]
    let r : Response := ⟨"r1", "m", .completed, calls.map .call, ⟨0, 0⟩, .null⟩
    let acts := [.succeeded default "wave" [] "Waved.", failedCall default "leave" .panicked]
    let asked := s₀.beginTurn default "Ann" "Who are you?"
    let s := (asked.recordActs "Ann" acts).commit r (outputs calls acts)
    Opening s₀ ∧ Conversation s₀ ⟨s, .idle, [⟨asked.request, r⟩]⟩ ∧
      (∀ x ∈ [Exchange.mk asked.request r], x.response.NoOutputs) ∧
      callIds s.history = ["c1", "c2"] ∧ Answered s.history := by
  intro s₀ calls r acts asked s
  have hopening : Opening s₀ := .new ..
  have hbegan : Conversation s₀ ⟨asked, .asking (.start "Ann" 4), []⟩ :=
    .step .opening (.began default "Ann" "Who are you?")
  have hacted : Conversation s₀ ⟨asked.recordActs "Ann" acts, .acting (.start "Ann" 4) r acts [],
      [⟨asked.request, r⟩]⟩ :=
    .step (.step (.step hbegan (.answered r)) (.acted _)) (.acted _)
  have hconversation : Conversation s₀ ⟨s, .idle, [⟨asked.request, r⟩]⟩ :=
    .step (.step hacted .committed) .dropped
  have houtputs : ∀ x ∈ [Exchange.mk asked.request r], x.response.NoOutputs := by
    simp [Response.NoOutputs, r, calls]
  exact ⟨hopening, hconversation, houtputs, rfl,
    (calls_answered hopening hconversation houtputs).1⟩

end Session

end Inquest

import Inquest.Proofs.Session.Requests
import Inquest.Proofs.Session.Course
import Inquest.Rehearsal.Script

/-! # What is streamed is what was answered

The events of a response say the response over again, item by item, and end with it. A turn streamed from
a script therefore tells exactly what its responses say and what was done about them.

* `Response.InEvents`: events that say a response. `events_inEvents`: its own do.
* `Response.heard`: the chunks that are told of a response, `Response.HeardAs` what they come to.
* `Asking.Hears`: a model of whose responses certain chunks are told, whatever it was asked.
  `rounds_chunks`: all that is told of a turn with a reply.
* `Script.committed_responses`: the responses of committed rounds are the next lines of the script.
-/

namespace Inquest

/-! ## Events of a response -/

namespace Event

/-- The place of the item that an event tells about. -/
def place? : Event → Option Nat
  | .itemAdded n _ | .textDelta n _ | .argumentsDelta n _ | .argumentsDone n _ | .itemDone n _ =>
    some n
  | _ => none

/-- A piece of text. -/
def textDelta? : Event → Option String
  | .textDelta _ t => some t
  | _ => none

/-- A piece of the arguments of a call. -/
def argumentsDelta? : Event → Option String
  | .argumentsDelta _ t => some t
  | _ => none

/-- The arguments of a call. -/
def argumentsDone? : Event → Option String
  | .argumentsDone _ t => some t
  | _ => none

/-- A finished item with its place. -/
def itemDone? : Event → Option (Item × Nat)
  | .itemDone n item => some (item, n)
  | _ => none

/-- The whole response. -/
def completed? : Event → Option Response
  | .completed r => some r
  | _ => none

/-- What is told of an event. -/
def chunk? : Event → Option Chunk
  | .textDelta _ t => some (.text t)
  | .itemAdded _ (.call _) => some .processing
  | _ => none

end Event

namespace Chunk

/-- The text of a piece of text. -/
def text? : Chunk → Option String
  | .text t => some t
  | _ => none

/-- Whether a call has begun. -/
def isProcessing : Chunk → Bool
  | .processing => true
  | _ => false

end Chunk

/-- The events about the item at a place. -/
def eventsAt (n : Nat) (events : List Event) : List Event :=
  events.filter fun e => e.place? == some n

/-- The events say the response: they end with it and complete no other, finish its items in order, and
at the place of an item have the text of a message in pieces and the arguments of a call in pieces and as a
whole. -/
structure Response.InEvents (r : Response) (events : List Event) : Prop where
  completion : ∃ before, events = before ++ [.completed r] ∧ ∀ e ∈ before, e.completed? = none
  items : events.filterMap Event.itemDone? = r.output.zipIdx
  texts : ∀ n, String.join ((eventsAt n events).filterMap Event.textDelta?) =
    (r.output[n]?.bind Item.text?).getD ""
  arguments : ∀ n, (eventsAt n events).filterMap Event.argumentsDelta? =
    (r.output[n]?.bind Item.call?).toList.map Call.arguments
  argumentsDone : ∀ n, (eventsAt n events).filterMap Event.argumentsDone? =
    (r.output[n]?.bind Item.call?).toList.map Call.arguments

theorem join_textDeltas (text : String) : String.join (textDeltas text) = text := by
  rw [← String.toList_inj, String.toList_join, textDeltas, List.flatMap_map]
  simp only [String.toList_ofList, List.flatMap_id', Text.splitInclusive_flatten]

theorem Event.not_completed_of_place {e : Event} {n : Nat} (h : e.place? = some n) :
    e.completed? = none ∧ verdict? (.ok e) = none := by
  cases e <;> first | exact ⟨rfl, rfl⟩ | cases h

namespace Response

variable {e : Event} {item : Item} {n : Nat}

/-! ### One item -/

theorem place_of_mem_itemEvents (h : e ∈ itemEvents n item) : e.place? = some n := by
  cases item with
  | message id speaker parts =>
    simp only [itemEvents, List.mem_append, List.mem_cons, List.mem_map, List.not_mem_nil,
      or_false] at h
    rcases h with (rfl | ⟨t, -, rfl⟩) | rfl <;> rfl
  | call c =>
    simp only [itemEvents, List.mem_append, List.mem_cons, List.not_mem_nil, or_false] at h
    rcases h with (rfl | rfl | rfl) | rfl <;> rfl
  | _ =>
    cases List.mem_singleton.1 h
    rfl

theorem itemDone_itemEvents (n : Nat) (item : Item) :
    (itemEvents n item).filterMap Event.itemDone? = [(item, n)] := by
  cases item <;>
    simp [itemEvents, Event.itemDone?, List.filterMap_cons, List.filterMap_map, Function.comp_def]

theorem texts_itemEvents (n : Nat) (item : Item) :
    String.join ((itemEvents n item).filterMap Event.textDelta?) = item.text?.getD "" := by
  cases item <;>
    simp [itemEvents, Event.textDelta?, List.filterMap_cons, List.filterMap_map, Function.comp_def,
      Item.text?, join_textDeltas]

theorem arguments_itemEvents (n : Nat) (item : Item) :
    (itemEvents n item).filterMap Event.argumentsDelta? = item.call?.toList.map Call.arguments ∧
      (itemEvents n item).filterMap Event.argumentsDone? =
        item.call?.toList.map Call.arguments := by
  cases item <;>
    simp [itemEvents, Event.argumentsDelta?, Event.argumentsDone?, List.filterMap_cons,
      List.filterMap_map, Function.comp_def, Item.call?]

theorem heard_itemEvents (n : Nat) (item : Item) :
    String.join (((itemEvents n item).filterMap Event.chunk?).filterMap Chunk.text?) =
        item.text?.getD "" ∧
      ((itemEvents n item).filterMap Event.chunk?).countP Chunk.isProcessing =
        item.call?.toList.length := by
  cases item <;>
    simp [itemEvents, Event.chunk?, Chunk.text?, Chunk.isProcessing, List.filterMap_cons,
      List.filterMap_map, Function.comp_def, Item.text?, Item.call?, join_textDeltas]

/-! ### All items -/

theorem place_of_mem_itemsEvents {items : List Item} (h : e ∈ itemsEvents n items) :
    ∃ k, n ≤ k ∧ e.place? = some k := by
  induction items generalizing n with
  | nil => cases h
  | cons item rest ih =>
    rcases List.mem_append.1 h with h | h
    · exact ⟨n, Nat.le_refl n, place_of_mem_itemEvents h⟩
    · obtain ⟨k, hk, hplace⟩ := ih h
      exact ⟨k, Nat.le_of_succ_le hk, hplace⟩

/-- At the place of an item there are the events of that item. -/
theorem eventsAt_itemsEvents (items : List Item) (n k : Nat) :
    eventsAt (n + k) (itemsEvents n items) = items[k]?.toList.flatMap (itemEvents (n + k)) := by
  induction items generalizing n k with
  | nil => simp [itemsEvents, eventsAt]
  | cons item rest ih =>
    rw [itemsEvents, eventsAt, List.filter_append]
    cases k with
    | zero =>
      have hhere : (itemEvents n item).filter (fun e => e.place? == some n) = itemEvents n item :=
        List.filter_eq_self.2 fun e he => by simp [place_of_mem_itemEvents he]
      have hlater : (itemsEvents (n + 1) rest).filter (fun e => e.place? == some n) = [] := by
        refine List.filter_eq_nil_iff.2 fun e he => ?_
        obtain ⟨k, hk, hplace⟩ := place_of_mem_itemsEvents he
        simp [hplace]
        omega
      simp [hhere, hlater]
    | succ k =>
      have hhere : (itemEvents n item).filter (fun e => e.place? == some (n + (k + 1))) = [] :=
        List.filter_eq_nil_iff.2 fun e he => by simp [place_of_mem_itemEvents he]
      have hlater := ih (n + 1) k
      rw [eventsAt, Nat.add_assoc, Nat.add_comm 1 k] at hlater
      rw [hhere, hlater, List.nil_append, List.getElem?_cons_succ]

theorem itemDone_itemsEvents (items : List Item) (n : Nat) :
    (itemsEvents n items).filterMap Event.itemDone? = items.zipIdx n := by
  induction items generalizing n with
  | nil => rfl
  | cons item rest ih =>
    rw [itemsEvents, List.filterMap_append, itemDone_itemEvents, ih]
    rfl

theorem heard_itemsEvents (items : List Item) (n : Nat) :
    String.join (((itemsEvents n items).filterMap Event.chunk?).filterMap Chunk.text?) =
        String.join (items.filterMap Item.text?) ∧
      ((itemsEvents n items).filterMap Event.chunk?).countP Chunk.isProcessing =
        (items.filterMap Item.call?).length := by
  induction items generalizing n with
  | nil => exact ⟨rfl, rfl⟩
  | cons item rest ih =>
    obtain ⟨htext, hcalls⟩ := heard_itemEvents n item
    obtain ⟨htexts, hrest⟩ := ih (n + 1)
    simp only [itemsEvents, List.filterMap_append, String.join_append, List.countP_append,
      htext, hcalls, htexts, hrest, List.filterMap_cons]
    constructor
    · cases item.text? <;> simp
    · cases item.call? <;> simp [Nat.add_comm]

/-! ### The response -/

theorem eventsAt_events (r : Response) (n : Nat) :
    eventsAt n r.events = r.output[n]?.toList.flatMap (itemEvents n) := by
  have hitems := eventsAt_itemsEvents r.output 0 n
  rw [Nat.zero_add] at hitems
  rw [← hitems]
  simp [events, eventsAt, Event.place?]

/-- The events of a response before the last complete none. -/
theorem events_eq (r : Response) :
    ∃ before, r.events = before ++ [.completed r] ∧
      ∀ e ∈ before, e.completed? = none ∧ verdict? (.ok e) = none := by
  refine ⟨.created r.id :: itemsEvents 0 r.output, rfl, fun e he => ?_⟩
  rcases List.mem_cons.1 he with rfl | he
  · exact ⟨rfl, rfl⟩
  · obtain ⟨k, -, hplace⟩ := place_of_mem_itemsEvents he
    exact Event.not_completed_of_place hplace

/-- **The events of a response say it.** -/
theorem events_inEvents (r : Response) : r.InEvents r.events where
  completion := by
    obtain ⟨before, hevents, hbefore⟩ := r.events_eq
    exact ⟨before, hevents, fun e he => (hbefore e he).1⟩
  items := by
    rw [← itemDone_itemsEvents]
    simp [events, Event.itemDone?, List.filterMap_cons]
  texts n := by
    rw [eventsAt_events]
    cases r.output[n]? with
    | none => rfl
    | some item => simpa using texts_itemEvents n item
  arguments n := by
    rw [eventsAt_events]
    cases r.output[n]? with
    | none => rfl
    | some item => simpa using (arguments_itemEvents n item).1
  argumentsDone n := by
    rw [eventsAt_events]
    cases r.output[n]? with
    | none => rfl
    | some item => simpa using (arguments_itemEvents n item).2

/-! ### What is told of it -/

/-- What is told while a response is listened to. -/
def heard (r : Response) : List Chunk := r.events.filterMap Event.chunk?

/-- The chunks are those of a response: pieces of its text, and word of each of its calls. -/
structure HeardAs (r : Response) (chunks : List Chunk) : Prop where
  kinds : ∀ c ∈ chunks, c = .processing ∨ ∃ t, c = .text t
  texts : String.join (chunks.filterMap Chunk.text?) = r.text
  calls : chunks.countP Chunk.isProcessing = r.calls.length

theorem heard_heardAs (r : Response) : r.HeardAs r.heard := by
  obtain ⟨htexts, hcalls⟩ := heard_itemsEvents r.output 0
  have hheard : r.heard = (itemsEvents 0 r.output).filterMap Event.chunk? := by
    simp [heard, events, Event.chunk?, List.filterMap_cons]
  refine ⟨fun c hc => ?_, hheard ▸ htexts, hheard ▸ hcalls⟩
  obtain ⟨e, -, hchunk⟩ := List.mem_filterMap.1 hc
  cases e with
  | textDelta n t => exact .inr ⟨t, (Option.some.inj hchunk).symm⟩
  | itemAdded n item =>
    cases item with
    | call => exact .inl (Option.some.inj hchunk).symm
    | _ => cases hchunk
  | _ => cases hchunk

end Response

namespace Session

variable {σ ε : Type}

/-! ## Listening -/

/-- What is told before the response ends. -/
theorem listen_underway {before : List Event} (h : ∀ e ∈ before, verdict? (.ok e) = none)
    (rest : List (Except ApiError Event)) :
    listen (before.map .ok ++ rest) =
      (before.filterMap Event.chunk? ++ (listen rest).1, (listen rest).2) := by
  induction before with
  | nil => rfl
  | cons e before ih =>
    have hrest := ih fun e he => h e (List.mem_cons_of_mem _ he)
    rw [List.map_cons, List.cons_append, listen.eq_def]
    cases e with
    | textDelta n t => simp [hrest, Event.chunk?]
    | itemAdded n item => cases item <;> simp [hrest, Event.chunk?, List.filterMap_cons]
    | completed r => cases h _ List.mem_cons_self
    | error m => cases h _ List.mem_cons_self
    | _ => simp [hrest, Event.chunk?, List.filterMap_cons]

/-- **Whoever listens to the events of a response hears it.** -/
theorem listen_events (r : Response) :
    listen (r.events.map .ok) = (r.heard, .completed r) := by
  obtain ⟨before, hevents, hbefore⟩ := r.events_eq
  rw [Response.heard, hevents, List.map_append, listen_underway fun e he => (hbefore e he).2,
    List.filterMap_append]
  rfl

end Session

/-! ## A turn -/

variable {σ ε : Type}

/-- What is told on the way to a response is told of the response alone. -/
def Asking.Hears (ask : Asking σ) (heard : Response → List Chunk) : Prop :=
  ∀ ⦃a q chunks r a'⦄, ask a q = ((chunks, some (.completed r)), a') → chunks = heard r

namespace Session

/-- Every call of a committed round has its action. -/
theorem Committed.length_invocations {ask : Asking σ} {executor : Executor ε} {now : Timestamp}
    {sender : String} {scene between : Scene σ ε} {rounds : List Round}
    (h : Committed ask executor now sender scene rounds between) :
    ∀ x ∈ rounds, x.invocations.length = x.response.calls.length := by
  induction h with
  | none => exact fun _ hx => absurd hx List.not_mem_nil
  | next _ hdone _ ih => exact List.forall_mem_cons.2 ⟨length_carryOut hdone.carryOut, ih⟩

/-- The chunks of a round: what is told of its response, then its actions. -/
def Round.chunks (heard : Response → List Chunk) (x : Round) : List Chunk :=
  heard x.response ++ x.invocations.map .action

/-- **All that is told of a turn with a reply**: its rounds one after the other, and the reply. -/
theorem rounds_chunks {ask : Asking σ} {heard : Response → List Chunk} (hask : ask.Hears heard)
    (executor : Executor ε) (now : Timestamp) (left : Nat) (draft : Draft) (scene : Scene σ ε) :
    let told := rounds ask executor now left draft scene
    ∀ reply, told.ending = .replied reply → ∃ rounds between,
      Committed ask executor now draft.sender scene rounds between ∧
        Finished between.session.settings left rounds ∧
        finish now (gathered draft rounds) between.session = (reply, told.final.session) ∧
        told.chunks.map Prod.fst = rounds.flatMap (Round.chunks heard) ++ [.done reply] := by
  -- a stream that ends in a reply had only rounds that were heard to the end, so the other
  -- endings are out
  refine rounds_induction (P := fun left draft scene told =>
    ∀ reply, told.ending = .replied reply → ∃ rounds between,
      Committed ask executor now draft.sender scene rounds between ∧
        Finished between.session.settings left rounds ∧
        finish now (gathered draft rounds) between.session = (reply, told.final.session) ∧
        told.chunks.map Prod.fst = rounds.flatMap (Round.chunks heard) ++ [.done reply])
    ?silent ?failed ?pending ?again ?last left draft scene
  case silent =>
    intro left draft s a e chunks a' ha reply hreply
    cases hreply
  case failed =>
    intro left draft s a e chunks a' reason ha reply hreply
    cases hreply
  case pending =>
    intro left draft s a e chunks a' r is e' ha hc reply hreply
    cases hreply
  case again =>
    intro left draft s a e chunks a' r is e' ha hc hagain scene told ih reply hreply
    obtain ⟨rounds, between, hcommitted, hfin, hclosing, hchunks⟩ := ih reply hreply
    have hsettings : between.session.settings = s.settings :=
      hcommitted.keeps (P := fun s' => s'.settings = s.settings) (fun _ _ _ _ h => h) rfl
    -- the round goes in front of those that follow, and its chunks in front of theirs
    have hon : ¬ Stops between.session.settings (left + 1) 0 r := by
      intro hstops
      rw [hsettings] at hstops
      rw [asksAgain_eq_false_iff.2 hstops] at hagain
      cases hagain
    refine ⟨⟨s.request, r, is⟩ :: rounds, between, .next ha (carryOut_finished hc) hcommitted,
      hfin.cons hon, ?_, ?_⟩
    · rw [gathered_cons hfin.1]
      exact hclosing
    · rw [Told.chunks_prepend, List.map_append, hchunks, hask ha]
      simp [Round.chunks, Function.comp_def]
  case last =>
    intro left draft s a e chunks a' r is e' ha hc hagain committed closing reply hreply
    cases hreply
    refine ⟨[⟨s.request, r, is⟩], ⟨committed, a', e'⟩, .next ha (carryOut_finished hc) .none,
      finished_singleton (asksAgain_eq_false_iff.1 hagain), rfl, ?_⟩
    rw [hask ha]
    simp [Round.chunks, Function.comp_def]

end Session

/-! ## Scripts -/

namespace Script

open Session

/-- The response to the `k`-th request from now. -/
def upcoming (s : Script) (k : Nat) : Response :=
  (s.lines[k]?.getD ended).response (s.served + k + 1)

theorem upcoming_succ (s : Script) (requests : List Request) (k : Nat) :
    upcoming ⟨s.lines.tail, requests, s.served + 1, s.offline⟩ k = s.upcoming (k + 1) := by
  rw [upcoming, upcoming, List.getElem?_tail, Nat.add_right_comm s.served 1 k, Nat.add_assoc s.served]

/-- A request that is answered uses up the next line. -/
theorem answered {s s' : Script} {q : Request} {chunks : List Chunk} {r : Response}
    (h : Script.asModel.byEvents s q = ((chunks, some (.completed r)), s')) :
    chunks = r.heard ∧ r = s.upcoming 0 ∧
      s' = ⟨s.lines.tail, s.requests ++ [q], s.served + 1, s.offline⟩ := by
  simp only [Model.byEvents, asModel, answer] at h
  cases hoffline : s.offline with
  | true => simp [hoffline, Except.map] at h
  | false =>
    simp only [hoffline, Bool.false_eq_true, if_false, Except.map, listen_events, Prod.mk.injEq,
      Option.some.injEq, Heard.completed.injEq] at h
    obtain ⟨⟨rfl, rfl⟩, rfl⟩ := h
    refine ⟨rfl, ?_, rfl⟩
    rw [upcoming, List.headD_eq_head?_getD, List.head?_eq_getElem?]

theorem hears : Asking.Hears Script.asModel.byEvents Response.heard :=
  fun _ _ _ _ _ h => (answered h).1

/-- **The responses of committed rounds are the next lines of the script.** -/
theorem committed_responses {executor : Executor ε} {now : Timestamp} {sender : String}
    {scene between : Scene Script ε} {rounds : List Round}
    (h : Committed Script.asModel.byEvents executor now sender scene rounds between) :
    ∀ k x, rounds[k]? = some x → x.response = scene.model.upcoming k := by
  induction h with
  | none => exact fun _ _ hx => by cases hx
  | next ha _ _ ih =>
    obtain ⟨-, hresponse, rfl⟩ := answered ha
    intro k x hx
    cases k with
    | zero =>
      cases hx
      exact hresponse
    | succ k =>
      rw [← upcoming_succ]
      exact ih k x hx

end Script

namespace Session

/-- **What is streamed is what was answered.** The events of a response say it, in pieces and as a
whole. Of a turn streamed from a script that ends with a reply there is told, for each of its rounds, the
text of the script's next response in pieces, with word of each of its calls, and then the actions that
the calls came to in order; last of all the reply, which is on record, with all the actions. -/
theorem streamed_as_answered {ε : Type} :
    (∀ r : Response, r.InEvents r.events) ∧
    ∀ (executor : Executor ε) (now : Timestamp) (sender text : String) (scene : Scene Script ε) reply,
      let told := stream Script.asModel executor now sender text scene
      told.ending = .replied reply → ∃ rounds between,
        Committed Script.asModel.byEvents executor now sender
          { scene with session := scene.session.beginTurn now sender text } rounds between ∧
        Finished scene.session.settings scene.session.settings.maxToolRounds rounds ∧
        (∀ k x, rounds[k]? = some x → x.response = scene.model.upcoming k) ∧
        (∀ x ∈ rounds, x.response.HeardAs x.response.heard ∧
          x.invocations.length = x.response.calls.length) ∧
        told.chunks.map Prod.fst = rounds.flatMap (Round.chunks Response.heard) ++ [.done reply] ∧
        told.final.session.transcript =
          between.session.transcript ++ [.spoken now scene.session.name sender reply.message] ∧
        reply.activities = rounds.flatMap Round.invocations := by
  refine ⟨Response.events_inEvents, fun executor now sender text scene reply => ?_⟩
  intro told hreply
  have htold : told = turn Script.asModel.byEvents executor now sender text scene := stream_eq ..
  rw [htold] at hreply ⊢
  obtain ⟨rounds, between, hcommitted, hfin, hclosing, hchunks⟩ :=
    rounds_chunks Script.hears executor now _ _ _ reply hreply
  have hsettings : between.session.settings = scene.session.settings :=
    hcommitted.keeps (P := fun s => s.settings = scene.session.settings) (fun _ _ _ _ h => h) rfl
  have hname : between.session.name = scene.session.name :=
    hcommitted.keeps (P := fun s => s.name = scene.session.name) (fun _ _ _ _ h => h) rfl
  obtain ⟨hfinal, -, hactivities, -⟩ := finish_eq hclosing
  rw [sender_gathered, hname] at hfinal
  rw [activities_gathered] at hactivities
  have hresponses := Script.committed_responses hcommitted
  exact ⟨rounds, between, hcommitted, hsettings ▸ hfin, hresponses,
    fun x hx => ⟨x.response.heard_heardAs, hcommitted.length_invocations x hx⟩, hchunks,
    congrArg Session.transcript hfinal, hactivities⟩

/-- Two calls of which one is refused, then a text with runs of spaces. -/
theorem streamed_as_answered_twice :
    let s := { Session.new (.new "Rosa" "cook" "a knife") "Be brief."
      { Settings.default with followUp := .untilText }
      with tools := [⟨"wave", "Wave.", .null, false⟩] }
    let executor : Executor Unit :=
      ⟨fun now e name arguments => (.finished (.ok (.succeeded now name arguments "done")), e)⟩
    let script := Script.new [⟨none, [("wave", ""), ("bow", "")]⟩, .say "Well,  I  never. "]
    let told := stream Script.asModel executor default "Ann" "Hello." ⟨s, script, ()⟩
    ∃ reply, ∃ rounds : List Round, told.ending = .replied reply ∧
      told.chunks.map Prod.fst = rounds.flatMap (Round.chunks Response.heard) ++ [.done reply] ∧
      (told.chunks.filterMap fun c => c.1.text?) = ["Well, ", " ", "I ", " ", "never. "] ∧
      reply.activities = rounds.flatMap Round.invocations ∧
      reply.activities.map Invocation.success = [true, false] ∧
      reply.message = "Well,  I  never. " := by
  intro s executor script told
  have hheard : (Point.ended told.ending).reply?.map (fun r =>
      (r.activities.map Invocation.success, r.message)) =
        some ([true, false], "Well,  I  never. ") := by decide +kernel
  obtain ⟨reply, hreply, hwhat⟩ := Option.map_eq_some_iff.1 hheard
  have hending : told.ending = .replied reply := by
    cases hcases : told.ending <;> rw [hcases] at hreply <;> cases hreply
    rfl
  obtain ⟨rounds, -, -, -, -, -, hchunks, -, hactivities⟩ :=
    streamed_as_answered.2 executor default "Ann" "Hello." ⟨s, script, ()⟩ reply hending
  obtain ⟨hsuccess, hmessage⟩ := Prod.mk.inj hwhat
  exact ⟨reply, rounds, hending, hchunks, by decide +kernel, hactivities, hsuccess, hmessage⟩

end Session

end Inquest

import Inquest.Proofs.Session.Rounds

/-! # Streamed and whole replies agree

A turn may wait for whole responses or listen to their events. Of the events only the first that
ends the response counts: `conclusion?` is what it says.

* `listen_snd`: listening comes to the conclusion, or to a stream that broke off.
* `Model.Consistent`: a model whose events conclude with the response that it gives as a whole;
  where it has none to give, the events may break off instead.
* `Model.recorded`, `Executor.recorded`: they keep what they are asked, so that equal states mean
  equal requests and equal actions in the same order.
* `stream_agrees`: a turn followed to its end leaves everything as the whole reply does.
-/

namespace Inquest

/-- What an element of a stream says about the response, if it ends it. -/
def verdict? : Except ApiError Event → Option (Except ApiError Response)
  | .error e => some (.error e)
  | .ok (.completed r) => some (.ok r)
  | .ok (.error m) => some (.error (.failed m))
  | .ok _ => none

/-- What the first element that ends the response says; nothing if the stream breaks off. -/
def conclusion? (events : List (Except ApiError Event)) : Option (Except ApiError Response) :=
  events.findSome? verdict?

/-- A whole response and events that amount to the same. -/
inductive Corresponds : Answer Response → Answer (List (Except ApiError Event)) → Prop
  | never : Corresponds .never .never
  | refused (e : ApiError) : Corresponds (.came (.error e)) (.came (.error e))
  | concluded {events : List (Except ApiError Event)} {answer : Except ApiError Response} :
    conclusion? events = some answer → Corresponds (.came answer) (.came (.ok events))
  /-- The response failed and its events broke off. -/
  | broken {events : List (Except ApiError Event)} (e : ApiError) :
    conclusion? events = none → Corresponds (.came (.error e)) (.came (.ok events))

section
variable {σ ε : Type}

/-- Whole and streamed answers of the model correspond and leave it in the same state. -/
def Model.Consistent (model : Model σ) : Prop :=
  ∀ a q, Corresponds (model.respond a q).1 (model.stream a q).1 ∧
    (model.respond a q).2 = (model.stream a q).2

/-- A model that keeps what it is asked and in which state, the newest first. -/
def Model.recorded (model : Model σ) : Model (σ × List (σ × Request)) where
  respond := fun (a, asked) q =>
    let (answer, a') := model.respond a q
    (answer, a', (a, q) :: asked)
  stream := fun (a, asked) q =>
    let (answer, a') := model.stream a q
    (answer, a', (a, q) :: asked)

/-- An executor that keeps what it is asked, the newest first. -/
def Executor.recorded (executor : Executor ε) : Executor (ε × List (String × Parameters)) where
  perform := fun now (e, asked) name parameters =>
    let (outcome, e) := executor.perform now e name parameters
    (outcome, e, (name, parameters) :: asked)

/-- Whether the events of the last request broke off. -/
def Model.brokeOff (model : Model σ) : (asked : List (σ × Request)) → Bool
  | [] => false
  | (a, q) :: _ =>
    match (model.stream a q).1 with
    | .came (.ok events) => (conclusion? events).isNone
    | _ => false

end

namespace Session

/-- **Listening comes to the conclusion.** Events before it and after it do not matter. -/
theorem listen_snd (events : List (Except ApiError Event)) :
    (listen events).2 =
      match conclusion? events with
      | some (.ok r) => .completed r
      | some (.error e) => .failed (.model e)
      | none => .failed .incompleteStream := by
  induction events with
  | nil => rfl
  | cons x rest ih =>
    rw [conclusion?, List.findSome?_cons]
    rcases x with e | event
    · rfl
    · cases event with
      | itemAdded index item => cases item <;> exact ih
      | completed r => rfl
      | error m => rfl
      | _ => exact ih

variable {σ ε : Type} {model : Model σ}

/-- What a consistent model is heard to say, in events and as a whole. -/
theorem heard_agrees (hmodel : model.Consistent) {a a' : σ × List (σ × Request)} {q : Request}
    {chunks : List Chunk} {heard : Option Heard}
    (h : model.recorded.byEvents a q = ((chunks, heard), a')) :
    (model.recorded.byResponse a q = (([], heard), a') ∧ model.brokeOff a'.2 = false) ∨
      (heard = some (.failed .incompleteStream) ∧ model.brokeOff a'.2 = true ∧
        ∃ e, model.recorded.byResponse a q = (([], some (.failed (.model e))), a')) := by
  obtain ⟨a, asked⟩ := a
  obtain ⟨hanswer, hstate⟩ := hmodel a q
  rcases hwhole : model.respond a q with ⟨whole, b⟩
  rcases hstream : model.stream a q with ⟨events, b'⟩
  rw [hwhole, hstream] at hanswer hstate
  cases hstate
  simp only [Model.byEvents, Model.recorded, hstream] at h
  simp only [Model.byResponse, Model.recorded, hwhole]
  -- a stream that is concluded says what the whole answer says; one that breaks off says less
  cases hanswer with
  | never =>
    cases h
    exact .inl ⟨rfl, by simp [Model.brokeOff, hstream]⟩
  | refused e =>
    cases h
    exact .inl ⟨rfl, by simp [Model.brokeOff, hstream]⟩
  | @concluded events answer hconclusion =>
    cases h
    refine .inl ⟨?_, by simp [Model.brokeOff, hstream, hconclusion]⟩
    rw [listen_snd, hconclusion]
    cases answer <;> rfl
  | @broken events e hconclusion =>
    cases h
    refine .inr ⟨?_, by simp [Model.brokeOff, hstream, hconclusion], e, rfl⟩
    rw [listen_snd, hconclusion]

theorem rounds_agree (hmodel : model.Consistent) (executor : Executor ε) (now : Timestamp)
    (left : Nat)
    (draft : Draft) (scene : Scene (σ × List (σ × Request)) ε) :
    let told := rounds model.recorded.byEvents executor now left draft scene
    let whole := rounds model.recorded.byResponse executor now left draft scene
    told.final = whole.final ∧
      if model.brokeOff told.final.model.2 then
        told.ending = .failed .incompleteStream ∧ ∃ e, whole.ending = .failed (.model e)
      else told.ending = whole.ending := by
  -- round by round the stream is as good as the response, until one breaks off: that one is heard
  -- as a failure, so the other cases cannot be it
  refine rounds_induction (P := fun left draft scene told =>
    let whole := rounds model.recorded.byResponse executor now left draft scene
    told.final = whole.final ∧
      if model.brokeOff told.final.model.2 then
        told.ending = .failed .incompleteStream ∧ ∃ e, whole.ending = .failed (.model e)
      else told.ending = whole.ending) ?silent ?failed ?pending ?again ?last left draft scene
  case silent =>
    intro left draft s a e chunks a' ha
    rcases heard_agrees hmodel ha with ⟨hwhole, hbroke⟩ | ⟨hheard, -⟩
    · simp [rounds_silent hwhole, hbroke]
    · cases hheard
  case failed =>
    intro left draft s a e chunks a' reason ha
    rcases heard_agrees hmodel ha with ⟨hwhole, hbroke⟩ | ⟨hheard, hbroke, cause, hwhole⟩
    · simp [rounds_failed hwhole, hbroke]
    · cases hheard
      simp [rounds_failed hwhole, hbroke]
  case pending =>
    intro left draft s a e chunks a' r is e' ha hc
    rcases heard_agrees hmodel ha with ⟨hwhole, hbroke⟩ | ⟨hheard, -⟩
    · simp [rounds_pending hwhole hc, hbroke]
    · cases hheard
  case again =>
    intro left draft s a e chunks a' r is e' ha hc hagain scene told ih
    rcases heard_agrees hmodel ha with ⟨hwhole, hbroke⟩ | ⟨hheard, -⟩
    · rw [rounds_again hwhole hc hagain]
      exact ih
    · cases hheard
  case last =>
    intro left draft s a e chunks a' r is e' ha hc hagain committed closing
    rcases heard_agrees hmodel ha with ⟨hwhole, hbroke⟩ | ⟨hheard, -⟩
    · simp [rounds_last hwhole hc hagain, hbroke, committed, closing]
    · cases hheard

/-- **Streamed and whole replies agree.** A streamed turn that is followed to its end and a whole
reply from a consistent model leave the same session, after the same requests and the same actions
in the same order, and end alike. Only where the events of the last request broke off the one tells
of that and the other of the model's failure. -/
theorem stream_agrees (hmodel : model.Consistent) (executor : Executor ε) (now : Timestamp)
    (sender text : String)
    (scene : Scene (σ × List (σ × Request)) (ε × List (String × Parameters))) :
    let told := stream model.recorded executor.recorded now sender text scene
    let sent := send model.recorded executor.recorded now sender text scene
    told.final = sent.2 ∧
      if model.brokeOff told.final.model.2 then
        told.ending = .failed .incompleteStream ∧ ∃ e, sent.1 = .failed (.model e)
      else told.ending = sent.1 := by
  rw [stream_eq, send_eq]
  exact rounds_agree hmodel executor.recorded now _ _ _

/-- A model that calls a tool and then fails, with events that break off. -/
def faltering : Model Bool where
  respond called _ :=
    if called then (.came (.error (.failed "lost")), true)
    else (.came (.ok ⟨"r0", "m", .completed, [.call ⟨none, "c0", "wave", ""⟩],
      ⟨0, 0⟩, .null⟩), true)
  stream called _ :=
    if called then (.came (.ok [.ok (.created "r1"), .ok .other]), true)
    else (.came (.ok [.ok (.argumentsDelta 0 "x"),
      .ok (.completed ⟨"r0", "m", .completed, [.call ⟨none, "c0", "wave", ""⟩], ⟨0, 0⟩, .null⟩),
      .error .noApiKey]), true)

theorem stream_agrees_faltering :
    let s := { Session.new (.new "Rosa" "cook" "a knife") "Be brief."
      { Settings.default with followUp := .untilText }
      with tools := [⟨"wave", "Wave.", .null, false⟩] }
    let executor : Executor Unit := ⟨fun _ e _ _ => (.panicked, e)⟩
    let told := stream faltering.recorded executor.recorded default "Ann" "Hello."
      ⟨s, (false, []), ((), [])⟩
    let sent := send faltering.recorded executor.recorded default "Ann" "Hello."
      ⟨s, (false, []), ((), [])⟩
    faltering.Consistent ∧ told.final = sent.2 ∧ told.final.executor.2 = [("wave", [])] ∧
      told.final.model.2.length = 2 ∧ told.ending = .failed .incompleteStream := by
  intro s executor told sent
  have hmodel : faltering.Consistent := by
    intro called q
    cases called
    · exact ⟨.concluded rfl, rfl⟩
    · exact ⟨.broken _ rfl, rfl⟩
  have hbroke : faltering.brokeOff told.final.model.2 = true := by decide +kernel
  obtain ⟨hfinal, hending⟩ :=
    stream_agrees hmodel executor default "Ann" "Hello." ⟨s, (false, []), ((), [])⟩
  rw [if_pos hbroke] at hending
  exact ⟨hmodel, hfinal, by decide +kernel, by decide +kernel, hending.1⟩

end Session

end Inquest

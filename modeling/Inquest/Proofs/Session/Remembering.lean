import Inquest.Proofs.Evidence
import Inquest.Proofs.Session.Log
import Inquest.Proofs.Session.Retrying

/-! # What a session remembers, and what is replayed of it

A message leaves its trace twice: lines in the transcript, and items in the history that the model is told.
The lines do not say who spoke but by name, and a replay has nothing else to go by.

* `Page.items`: the items of a message. `Message.Course.history`: a message adds them.
* `Chronicle`: what is done to one session, in whatever company: evidence is told, messages are answered.
* `replay_turns_eq_iff`: the lines of a message are replayed as who said what just where the sender
  does not have the suspect's name.
* `user_replay_eq_iff`: when the user's items among them are those of the history.
* `Replayed`: the request with the next message to a session that took up the transcript of another.
-/

namespace Inquest

/-- An item that the model takes for the user's. -/
def Item.isUser : Item → Bool
  | .message _ .user _ => true
  | _ => false

section
variable {α β : Type} {l : List α} {f g : α → List β}

theorem length_flatMap_le (h : ∀ a ∈ l, (f a).length ≤ (g a).length) :
    (l.flatMap f).length ≤ (l.flatMap g).length := by
  induction l with
  | nil => exact Nat.le_refl _
  | cons a l ih =>
    rw [List.flatMap_cons, List.flatMap_cons, List.length_append, List.length_append]
    exact Nat.add_le_add (h a List.mem_cons_self) (ih fun b hb => h b (List.mem_cons_of_mem a hb))

/-- Where no part is longer than its counterpart, wholes are equal just where their parts are. -/
theorem flatMap_eq_flatMap_iff (h : ∀ a ∈ l, (f a).length ≤ (g a).length) :
    l.flatMap f = l.flatMap g ↔ ∀ a ∈ l, f a = g a := by
  induction l with
  | nil => simp
  | cons a l ih =>
    have hrest : ∀ b ∈ l, (f b).length ≤ (g b).length := fun b hb => h b (List.mem_cons_of_mem a hb)
    rw [List.flatMap_cons, List.flatMap_cons, List.forall_mem_cons, ← ih hrest]
    constructor
    · intro heq
      have hlength := congrArg List.length heq
      rw [List.length_append, List.length_append] at hlength
      have hle := length_flatMap_le hrest
      have ha := h a List.mem_cons_self
      exact List.append_inj heq (by omega)
    · rintro ⟨ha, hl⟩
      rw [ha, hl]

end

namespace Session

variable {σ ε : Type}

/-! ## One message -/

/-- The items that a message adds to the history: the message, and of each round the output and the
outputs of its calls. -/
def Page.items (p : Page) : List Item :=
  p.message.said ::
    p.rounds.flatMap fun x => x.response.output ++ outputs x.response.calls x.invocations

/-- A message and its reply, if there was one, as said by the user and by the assistant. -/
def Page.exchange (p : Page) : List Item :=
  p.message.said :: (p.point.reply?.map fun r => Item.assistantText r.message).toList

theorem Committed.history {ask : Asking σ} {executor : Executor ε} {now : Timestamp}
    {sender : String} {scene between : Scene σ ε} {rounds : List Round}
    (h : Committed ask executor now sender scene rounds between) :
    between.session.history = scene.session.history ++
      rounds.flatMap fun x => x.response.output ++ outputs x.response.calls x.invocations := by
  induction h with
  | none => exact (List.append_nil _).symm
  | @next s a e chunks r a' is e' rounds between _ _ _ ih =>
    have hround : ((s.recordActs sender is).commit r (outputs r.calls is)).history =
        s.history ++ r.output ++ outputs r.calls is := rfl
    rw [ih, hround, List.flatMap_cons, List.append_assoc, List.append_assoc, List.append_assoc]

/-- **A message adds the items of its page to the history.** -/
theorem Message.Course.history {model : Model σ} {executor : Executor ε} {m : Message}
    {scene between : Scene σ ε} {rounds : List Round} {acts : List Invocation} {point : Point}
    (h : m.Course model executor scene rounds between acts point) :
    (m.deliver model executor scene).2.session.history =
      scene.session.history ++ Page.items ⟨m, rounds, acts, point⟩ := by
  have hbegun : (m.begun scene).session.history = scene.session.history ++ [m.said] := rfl
  rw [h.halt.history, h.committed.history, hbegun, List.append_assoc]
  rfl

/-! ## Replaying -/

/-- The spoken turns of a transcript as items for the model. -/
def replay (name : String) (t : Transcript) : List Item :=
  (t.filter fun turn => !turn.isActivity).map (replayed name)

theorem replay_append (name : String) (t t' : Transcript) :
    replay name (t ++ t') = replay name t ++ replay name t' := by
  rw [replay, List.filter_append, List.map_append]
  rfl

theorem replay_flatMap (name : String) (pages : List Page) :
    replay name (pages.flatMap (Page.turns name)) =
      pages.flatMap fun p => replay name (Page.turns name p) := by
  induction pages with
  | nil => rfl
  | cons p pages ih => rw [List.flatMap_cons, replay_append, ih, List.flatMap_cons]

/-- The actions of a message are not replayed; the reply is the assistant's, and so is the message if its
sender has the suspect's name. -/
theorem replay_turns (name : String) (p : Page) :
    replay name (Page.turns name p) =
      (if p.message.sender = name then
          Item.assistantText (frameMessage p.message.sender p.message.text)
        else p.message.said) ::
        (p.point.reply?.map fun r => Item.assistantText r.message).toList := by
  have hacted : (p.invocations.map (Turn.acted name p.message.sender)).filter
      (fun turn => !turn.isActivity) = [] := by
    refine List.filter_eq_nil_iff.2 fun turn hturn => ?_
    obtain ⟨i, -, rfl⟩ := List.mem_map.1 hturn
    exact Bool.false_ne_true
  rw [replay, Page.turns, List.filter_cons_of_pos rfl, List.filter_append, hacted, List.nil_append,
    List.map_cons]
  congr 1
  cases p.point.reply? with
  | none => rfl
  | some r => exact congrArg (fun item => [item]) (if_pos rfl)

/-- **Who said what is replayed just where the sender does not have the suspect's name.** -/
theorem replay_turns_eq_iff {name : String} {p : Page} :
    replay name (Page.turns name p) = p.exchange ↔ p.message.sender ≠ name := by
  rw [replay_turns, Page.exchange, List.cons.injEq]
  refine (and_iff_left rfl).trans ?_
  split
  · next hsame => exact iff_of_false nofun fun hne => hne hsame
  · next hne => exact iff_of_true rfl hne

theorem user_replay_turns (name : String) (p : Page) :
    (replay name (Page.turns name p)).filter Item.isUser =
      if p.message.sender = name then [] else [p.message.said] := by
  have hreply : (p.point.reply?.map fun r => Item.assistantText r.message).toList.filter
      Item.isUser = [] := by
    cases p.point.reply? <;> rfl
  rw [replay_turns]
  split
  · rw [List.filter_cons_of_neg Bool.false_ne_true, hreply]
  · rw [List.filter_cons_of_pos rfl, hreply]

theorem user_outputs (calls : List Call) (is : List Invocation) :
    (outputs calls is).filter Item.isUser = [] := by
  induction calls generalizing is with
  | nil => rfl
  | cons c calls ih =>
    cases is with
    | nil => rfl
    | cons i is => exact ih is

theorem user_items (p : Page) :
    p.items.filter Item.isUser =
      p.message.said :: p.rounds.flatMap fun x => x.response.output.filter Item.isUser := by
  rw [Page.items, List.filter_cons_of_pos rfl, List.filter_flatMap]
  simp only [List.filter_append, user_outputs, List.append_nil]

/-- **The user's items in the replay are those of the history just where** the sender does not have the
suspect's name and no response held an item of the user. -/
theorem user_replay_eq_iff {name : String} {p : Page} :
    (replay name (Page.turns name p)).filter Item.isUser = p.items.filter Item.isUser ↔
      p.message.sender ≠ name ∧ ∀ x ∈ p.rounds, ∀ item ∈ x.response.output, item.isUser = false := by
  rw [user_replay_turns, user_items]
  split
  · next hsame => exact iff_of_false nofun fun h => h.1 hsame
  · next hne =>
    rw [List.cons.injEq, eq_comm (a := []), List.flatMap_eq_nil_iff]
    simp only [hne, ne_eq, not_false_eq_true, true_and, List.filter_eq_nil_iff, Bool.not_eq_true]

/-! ## All that is done to a session -/

/-- A session and all that was done to it since it was new, each time in whatever company: evidence was
told in its instructions, messages were answered, which gives `pages`, and the transcript was taken up by
a session of its own, behind which the pages so far are `earlier` ones. -/
inductive Chronicle : (earlier pages : List Page) → Session → Prop
  | opened (profile : Profile) (instructions : String) (settings : Settings) :
    Chronicle [] [] (.new profile instructions settings)
  | told {earlier pages s} (items : List Evidence) : Chronicle earlier pages s →
    Chronicle earlier pages { s with instructions := Evidence.revised items s.instructions }
  | page {earlier pages s} {σ ε : Type} {model : Model σ} {executor : Executor ε} {a : σ} {e : ε}
    {m rounds between acts point} : Chronicle earlier pages s →
    m.Course model executor ⟨s, a, e⟩ rounds between acts point →
    Chronicle earlier (pages ++ [⟨m, rounds, acts, point⟩])
      (m.deliver model executor ⟨s, a, e⟩).2.session
  | resumed {earlier pages s} (settings : Settings) : Chronicle earlier pages s →
    Chronicle (earlier ++ pages) []
      ((Session.new s.profile s.instructions settings).withTranscript s.transcript)

section
variable {s : Session} {earlier pages : List Page} (h : Chronicle earlier pages s)
include h

/-- All that was ever said is on record. -/
theorem Chronicle.transcript :
    s.transcript = (earlier ++ pages).flatMap (Page.turns s.name) := by
  induction h with
  | opened => rfl
  | told _ _ ih => exact ih
  | page _ hcourse ih =>
    rw [hcourse.transcript, hcourse.name_later, ih, ← List.append_assoc,
      @List.flatMap_append _ _ (_ ++ _), List.flatMap_singleton]
  | resumed settings _ ih =>
    rw [List.append_nil]
    exact ih

/-- The model is told what was said since the transcript was taken up, and a replay of what was said
before. -/
theorem Chronicle.history :
    s.history = replay s.name (earlier.flatMap (Page.turns s.name)) ++ pages.flatMap Page.items := by
  induction h with
  | opened => rfl
  | told _ _ ih => exact ih
  | page _ hcourse ih =>
    rw [hcourse.history, hcourse.name_later, ih, List.append_assoc, List.flatMap_append,
      List.flatMap_singleton]
  | @resumed earlier pages s settings h _ =>
    have hname : ((Session.new s.profile s.instructions settings).withTranscript s.transcript).name =
      s.name := rfl
    rw [hname, ← h.transcript, List.flatMap_nil, List.append_nil]
    rfl

/-- Until a message is answered the service holds nothing. -/
theorem Chronicle.unsent (hpages : pages = []) :
    s.submitted = 0 ∧ s.previousResponseId = none := by
  induction h with
  | opened => exact ⟨rfl, rfl⟩
  | told _ _ ih => exact ih hpages
  | page => simp at hpages
  | resumed => exact ⟨rfl, rfl⟩

end

/-- The request with the next message to a session that took up the transcript of another, which has the
pages `pages` and before them `earlier` ones. It names no response, and holds the spoken lines of the
transcript, by name. So it says who said what, and has the user's items of the other's history, just where
nobody with the suspect's name was heard, and no user but those who sent the messages. -/
structure Replayed (s : Session) (earlier pages : List Page) (next : Item) (q : Request) : Prop where
  afresh : q.previousResponseId = none
  input : q.input = replay s.name s.transcript ++ [next]
  exchanges : q.input = (earlier ++ pages).flatMap Page.exchange ++ [next] ↔
    ∀ p ∈ earlier ++ pages, p.message.sender ≠ s.name
  users : q.input.dropLast.filter Item.isUser = s.history.filter Item.isUser ↔
    ∀ p ∈ pages, p.message.sender ≠ s.name ∧
      ∀ x ∈ p.rounds, ∀ item ∈ x.response.output, item.isUser = false

theorem Chronicle.replayed {s : Session} {earlier pages : List Page} (h : Chronicle earlier pages s)
    {next : Item} {q : Request} (hprevious : q.previousResponseId = none)
    (hinput : q.input = replay s.name s.transcript ++ [next]) :
    Replayed s earlier pages next q where
  afresh := hprevious
  input := hinput
  exchanges := by
    -- no page is replayed longer than it was, so the whole is equal only where each page is
    have hlength (p : Page) : (replay s.name (Page.turns s.name p)).length ≤ p.exchange.length := by
      rw [replay_turns]
      exact Nat.le_refl _
    rw [hinput, List.append_cancel_right_eq, h.transcript, replay_flatMap,
      flatMap_eq_flatMap_iff fun p _ => hlength p]
    exact forall₂_congr fun p _ => replay_turns_eq_iff
  users := by
    have hlength (p : Page) : ((replay s.name (Page.turns s.name p)).filter Item.isUser).length ≤
        (p.items.filter Item.isUser).length := by
      rw [user_replay_turns, user_items]
      split <;> simp
    rw [hinput, List.dropLast_concat, h.history, h.transcript, List.flatMap_append, replay_append,
      List.filter_append, List.filter_append, List.append_cancel_left_eq, replay_flatMap,
      List.filter_flatMap, List.filter_flatMap, flatMap_eq_flatMap_iff fun p _ => hlength p]
    exact forall₂_congr fun p _ => user_replay_eq_iff

/-- Until a message is answered a session that took up a transcript sends a replay of it. -/
theorem Chronicle.request {s : Session} {earlier : List Page} (h : Chronicle earlier [] s)
    (now : Timestamp) (sender text : String) :
    (s.beginTurn now sender text).request.previousResponseId = none ∧
      (s.beginTurn now sender text).request.input =
        replay s.name s.transcript ++ [.userText (frameMessage sender text)] := by
  obtain ⟨hsubmitted, hprevious⟩ := h.unsent rfl
  have hhistory : (s.beginTurn now sender text).history =
      replay s.name s.transcript ++ [.userText (frameMessage sender text)] := by
    rw [history_beginTurn, h.history, h.transcript, List.flatMap_nil, List.append_nil, List.append_nil]
  have hunsent : (s.beginTurn now sender text).unsent = (s.beginTurn now sender text).history := by
    rw [Session.unsent, show (s.beginTurn now sender text).submitted = 0 from hsubmitted,
      List.drop_zero]
  rw [Session.request]
  cases (s.beginTurn now sender text).settings.context with
  | fullTranscript => exact ⟨rfl, hhistory⟩
  | previousResponse => exact ⟨hprevious, hunsent.trans hhistory⟩

end Session

end Inquest

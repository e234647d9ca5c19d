import Inquest.Proofs.Session.Journal

/-! # The transcript as a log

What a message leaves in the transcript can be read off its page: the message, the actions in the
order in which they were carried out, and the reply if there was one. Nothing that is on record is ever
changed.

* `Page.turns`: the lines that a message leaves. `Message.Course.transcript`: a message adds them.
* `Page.Faithful`: the actions on record are those of the reply, of the rounds before the one that
  failed, or of all calls before the one that never ended.
* `transcript_records`: the transcript of a run.
-/

namespace Inquest

namespace Session

variable {σ ε : Type}

/-- The actions that were carried out to their end, in order. -/
def Page.invocations (p : Page) : List Invocation :=
  p.rounds.flatMap Round.invocations ++ p.acts

/-- What a message leaves in the transcript of the suspect `npc`. -/
def Page.turns (npc : String) (p : Page) : List Turn :=
  .spoken p.message.now p.message.sender npc (frameMessage p.message.sender p.message.text) ::
    (p.invocations.map (Turn.acted npc p.message.sender) ++
      (p.point.reply?.map fun r =>
        .spoken p.message.now npc p.message.sender r.message).toList)

theorem Committed.transcript {ask : Asking σ} {executor : Executor ε} {now : Timestamp}
    {sender : String} {scene between : Scene σ ε} {rounds : List Round}
    (h : Committed ask executor now sender scene rounds between) :
    between.session.transcript = scene.session.transcript ++
      (rounds.flatMap Round.invocations).map (Turn.acted scene.session.name sender) := by
  induction h with
  | none => rw [List.flatMap_nil, List.map_nil, List.append_nil]
  | @next s a e chunks r a' is e' rounds between _ _ _ ih =>
    have hround : ((s.recordActs sender is).commit r (outputs r.calls is)).transcript =
        s.transcript ++ is.map (Turn.acted s.name sender) := rfl
    rw [ih, hround, List.append_assoc, List.flatMap_cons, List.map_append]
    rfl

section
variable {model : Model σ} {executor : Executor ε} {m : Message} {scene between : Scene σ ε}
  {rounds : List Round} {acts : List Invocation} {point : Point}

/-- Before the reply the message and the actions of the rounds are on record. -/
theorem Message.Course.transcript_between
    (h : m.Course model executor scene rounds between acts point) :
    between.session.transcript = scene.session.transcript ++
      .spoken m.now m.sender scene.session.name (frameMessage m.sender m.text) ::
        (rounds.flatMap Round.invocations).map (Turn.acted scene.session.name m.sender) := by
  have hbegun : (m.begun scene).session.transcript = scene.session.transcript ++
      [.spoken m.now m.sender scene.session.name (frameMessage m.sender m.text)] := rfl
  rw [h.committed.transcript, hbegun, List.append_assoc]
  rfl

/-- **A message adds the lines of its page to the transcript.** -/
theorem Message.Course.transcript (h : m.Course model executor scene rounds between acts point) :
    (m.deliver model executor scene).2.session.transcript = scene.session.transcript ++
      Page.turns scene.session.name ⟨m, rounds, acts, point⟩ := by
  have hbetween := h.transcript_between
  cases hreply : point.reply? with
  | none =>
    have hlater := h.halt.unreplied hreply
    rw [hlater]
    simp [recordActs, Draft.start, Page.turns, Page.invocations, hbetween, h.name, hreply]
  | some reply =>
    obtain ⟨-, rfl, -, hclosing⟩ := h.replies hreply
    have hlater := (finish_eq hclosing).1
    rw [sender_gathered] at hlater
    rw [hlater]
    simp [record, Draft.start, Page.turns, Page.invocations, hbetween, h.name, hreply]

theorem Message.Course.name_later (h : m.Course model executor scene rounds between acts point) :
    (m.deliver model executor scene).2.session.name = scene.session.name := by
  rw [← h.name]
  cases hreply : point.reply? with
  | none =>
    rw [h.halt.unreplied hreply]
    rfl
  | some reply =>
    obtain ⟨-, -, -, hclosing⟩ := h.replies hreply
    rw [(finish_eq hclosing).1]
    rfl

end

/-! ## Runs -/

section
variable {model : Model σ} {executor : Executor ε} {start later : Scene σ ε}
  {messages : List Message} {pages : List Page}

theorem Journal.transcript (h : Journal model executor start messages pages later) :
    later.session.name = start.session.name ∧
      later.session.transcript =
        start.session.transcript ++ pages.flatMap (Page.turns start.session.name) := by
  induction h with
  | start => exact ⟨rfl, (List.append_nil _).symm⟩
  | unheard _ _ ih => exact ih
  | page _ hcourse ih =>
    refine ⟨hcourse.name_later.trans ih.1, ?_⟩
    rw [hcourse.transcript, ih.1, ih.2, List.append_assoc, List.flatMap_append,
      List.flatMap_singleton]

end

end Session

end Inquest

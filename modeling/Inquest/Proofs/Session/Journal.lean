import Mathlib.Data.List.Induction
import Inquest.Proofs.Session.Course
import Inquest.Proofs.Session.Threading

/-! # What a run of messages brings

Every message that is delivered has a course: rounds that are committed, and a point at which its turn is
over or left. A journal has a page for each message that anybody listened to.

* `Message.Course`: the course of one message. `deliver_course`: a delivered message has one.
* `Journal`: the pages of a run. `converse_journal`: every run has a journal.
-/

namespace Inquest

/-- What is heard last of a reply; nothing if nobody listens. -/
def lastPoint? : List Chunk × Option Ending → Option Point
  | (_, some ending) => some (.ended ending)
  | (chunks, none) => chunks.getLast?.map .told

/-- Whoever follows a turn leaves it at one of its points. -/
theorem Told.upTo_point {α : Type} (t : Told α) (k : Nat) :
    ∃ x ∈ t.points, lastPoint? (t.upTo k).1 = some x.1 ∧ (t.upTo k).2 = x.2 := by
  rcases Nat.lt_or_ge k t.chunks.length with hk | hk
  · refine ⟨(.told t.chunks[k].1, t.chunks[k].2), Told.mem_points.2 ?_, ?_, ?_⟩
    · exact .inl ⟨t.chunks[k], List.getElem_mem hk, rfl⟩
    · have hlast : (t.chunks.take (k + 1)).getLast? = some t.chunks[k] := by
        rw [← List.take_append_getElem hk, List.getLast?_concat]
      rw [upTo, if_neg (Nat.not_le_of_lt hk), lastPoint?, List.getLast?_map, hlast]
      rfl
    · simp [upTo, List.getElem?_eq_getElem hk]
  · refine ⟨(.ended t.ending, t.final), Told.mem_points.2 (.inr rfl), ?_, ?_⟩
    · rw [upTo, if_pos hk]
      rfl
    · simp [upTo, List.getElem?_eq_none hk]

namespace Session

variable {σ ε : Type}

/-! ## One message -/

/-- The way in which the model is asked for the reply. -/
def Message.asking (model : Model σ) (m : Message) : Asking σ :=
  match m.chunks with
  | none => model.byResponse
  | some _ => model.byEvents

/-- The scene with the message on record. -/
def Message.begun (m : Message) (scene : Scene σ ε) : Scene σ ε :=
  { scene with session := scene.session.beginTurn m.now m.sender m.text }

theorem underway_asking (model : Model σ) (m : Message) : Underway (m.asking model) := by
  rw [Message.asking]
  split
  · exact underway_byResponse model
  · exact underway_byEvents model

/-- The course of a message: `rounds` are committed and leave things as they are in `between`, and
`point` is heard last, with `acts` from a round that is given up. -/
structure Message.Course (model : Model σ) (executor : Executor ε) (m : Message) (scene : Scene σ ε)
    (rounds : List Round) (between : Scene σ ε) (acts : List Invocation) (point : Point) : Prop where
  heard : lastPoint? (m.deliver model executor scene).1 = some point
  committed : Committed (m.asking model) executor m.now m.sender (m.begun scene) rounds between
  halt : Halt (m.asking model) executor m.now scene.session.settings.maxToolRounds
    (.start m.sender scene.session.settings.maxToolRounds) rounds between acts point
    (m.deliver model executor scene).2

section
variable (model : Model σ) (executor : Executor ε) (m : Message) (scene : Scene σ ε)

/-- A delivered message leaves its turn at one of the points. -/
theorem deliver_point (h : m.chunks ≠ some 0) :
    ∃ x ∈ (turn (m.asking model) executor m.now m.sender m.text scene).points,
      lastPoint? (m.deliver model executor scene).1 = some x.1 ∧
        (m.deliver model executor scene).2 = x.2 := by
  obtain ⟨now, sender, text, _ | _ | k⟩ := m
  · simp only [Message.deliver, send_eq, Message.asking]
    exact ⟨_, Told.mem_points.2 (.inr rfl), rfl, rfl⟩
  · exact absurd rfl h
  · simp only [Message.deliver, stream_eq, Message.asking]
    exact Told.upTo_point _ k

/-- **A message that anybody listens to has a course.** -/
theorem deliver_course (h : m.chunks ≠ some 0) :
    ∃ rounds between acts point, m.Course model executor scene rounds between acts point := by
  obtain ⟨x, hx, hheard, hlater⟩ := deliver_point model executor m scene h
  obtain ⟨rounds, between, acts, hcommitted, hhalt⟩ :=
    rounds_halt (m.asking model) executor m.now scene.session.settings.maxToolRounds
      (.start m.sender scene.session.settings.maxToolRounds) (m.begun scene) x hx
  rw [← hlater] at hhalt
  exact ⟨rounds, between, acts, x.1, hheard, hcommitted, hhalt⟩

end

section
variable {model : Model σ} {executor : Executor ε} {m : Message} {scene between : Scene σ ε}
  {rounds : List Round} {acts : List Invocation} {point : Point}

/-- What committed rounds say of the settings holds from the beginning of the turn. -/
theorem Message.Course.settings (h : m.Course model executor scene rounds between acts point) :
    between.session.settings = scene.session.settings :=
  h.committed.keeps (P := fun s => s.settings = scene.session.settings) (fun _ _ _ _ h => h) rfl

theorem Message.Course.name (h : m.Course model executor scene rounds between acts point) :
    between.session.name = scene.session.name :=
  h.committed.keeps (P := fun s => s.name = scene.session.name) (fun _ _ _ _ h => h) rfl

/-- A reply closes the record of its turn. -/
theorem Message.Course.replies (h : m.Course model executor scene rounds between acts point)
    {reply : Reply} (hreply : point.reply? = some reply) :
    Finished scene.session.settings scene.session.settings.maxToolRounds rounds ∧ acts = [] ∧
      (m.deliver model executor scene).2.model = between.model ∧
      finish m.now
          (gathered (.start m.sender scene.session.settings.maxToolRounds) rounds) between.session =
        (reply, (m.deliver model executor scene).2.session) := by
  rw [← h.settings]
  exact h.settings ▸ h.halt.replies (underway_asking model m) hreply

end

/-! ## Runs -/

/-- What a message brought. -/
structure Page where
  message : Message
  rounds : List Round
  acts : List Invocation
  point : Point

/-- The pages of the messages that were listened to, in order. -/
inductive Journal (model : Model σ) (executor : Executor ε) (start : Scene σ ε) :
    List Message → List Page → Scene σ ε → Prop
  | start : Journal model executor start [] [] start
  | unheard {messages pages scene m} : Journal model executor start messages pages scene →
    m.chunks = some 0 → Journal model executor start (messages ++ [m]) pages scene
  | page {messages pages scene m rounds between acts point} :
    Journal model executor start messages pages scene →
    m.Course model executor scene rounds between acts point →
    Journal model executor start (messages ++ [m]) (pages ++ [⟨m, rounds, acts, point⟩])
      (m.deliver model executor scene).2

theorem converse_append (model : Model σ) (executor : Executor ε) (before after : List Message)
    (scene : Scene σ ε) :
    (converse model executor (before ++ after) scene).2 =
      (converse model executor after (converse model executor before scene).2).2 := by
  induction before generalizing scene with
  | nil => rfl
  | cons m rest ih => exact ih _

/-- **Every run has a journal.** -/
theorem converse_journal (model : Model σ) (executor : Executor ε) (messages : List Message)
    (scene : Scene σ ε) :
    ∃ pages, Journal model executor scene messages pages
      (converse model executor messages scene).2 := by
  induction messages using List.reverseRecOn with
  | nil => exact ⟨[], .start⟩
  | append_singleton messages m ih =>
    obtain ⟨pages, hpages⟩ := ih
    rw [converse_append, converse]
    by_cases hm : m.chunks = some 0
    · refine ⟨pages, ?_⟩
      rw [Message.deliver, hm]
      exact .unheard hpages hm
    · obtain ⟨rounds, between, acts, point, hcourse⟩ := deliver_course model executor m _ hm
      exact ⟨_, .page hpages hcourse⟩

end Session

end Inquest

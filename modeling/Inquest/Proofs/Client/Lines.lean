import Inquest.Client.EventLines
import Mathlib.Data.List.TakeWhile

/-! # Streamed bytes, line by line

Bytes are complete lines (`completeLines`) and what stands after the last of them (`openLine`). Reading
answers the complete lines one after the other; a line whose data ends too early (`stalls`) is not
answered, nor is any line after it.

* `lines_induction`: bytes are one open line, or a complete line in front of more bytes.
* `readLines_append`, `receiveAll_flatten`: what is left of a buffer is read again with what arrives, so
  chunks are read as the bytes that they make up.
* `readLines_eq`: the answers and what is left, in terms of the lines.
* `lines_answered_iff`: every line is answered if and only if none of them stalls.
-/

namespace Inquest.Client

/-! ## Lines -/

/-- The complete lines of the bytes, without the bytes that end them. -/
def completeLines (bytes : List UInt8) : List (List UInt8) := (bytes.splitOn lineFeed).dropLast

/-- The bytes after the last complete line. -/
def openLine (bytes : List UInt8) : List UInt8 := (bytes.splitOn lineFeed).getLastD []

/-- Lines as bytes, each with the byte that ends it. -/
def joinLines (lines : List (List UInt8)) : List UInt8 := lines.flatMap fun line => line ++ [lineFeed]

section
variable {line rest : List UInt8} (h : lineFeed ∉ line)
include h

theorem completeLines_of_not_mem : completeLines line = [] := by
  rw [completeLines, List.splitOn_eq_singleton h]
  rfl

theorem openLine_of_not_mem : openLine line = line := by
  rw [openLine, List.splitOn_eq_singleton h]
  rfl

theorem splitOn_line :
    (line ++ lineFeed :: rest).splitOn lineFeed = line :: rest.splitOn lineFeed := by
  have hpiece : ∀ b ∈ line, (b == lineFeed) = false :=
    fun b hb => beq_false_of_ne fun heq => h (heq ▸ hb)
  exact List.splitOnP_append_cons_of_forall_mem hpiece lineFeed (beq_self_eq_true _) rest

theorem completeLines_line : completeLines (line ++ lineFeed :: rest) = line :: completeLines rest := by
  rw [completeLines, splitOn_line h, List.dropLast_cons_of_ne_nil (List.splitOn_ne_nil _ _)]
  rfl

theorem openLine_line : openLine (line ++ lineFeed :: rest) = openLine rest := by
  obtain ⟨piece, pieces, hpieces⟩ := List.exists_cons_of_ne_nil (List.splitOn_ne_nil lineFeed rest)
  rw [openLine, openLine, splitOn_line h, hpieces]
  rfl

end

/-- **Induction over lines.** Bytes are one open line, or a complete line in front of more bytes. -/
theorem lines_induction {P : List UInt8 → Prop} (opened : ∀ tail, lineFeed ∉ tail → P tail)
    (complete : ∀ line rest, lineFeed ∉ line → P rest → P (line ++ lineFeed :: rest))
    (bytes : List UInt8) : P bytes := by
  induction hn : bytes.length using Nat.strongRecOn generalizing bytes with
  | _ n ih =>
  by_cases hmem : lineFeed ∈ bytes
  · obtain ⟨line, rest, rfl, hline⟩ := List.eq_append_cons_of_mem hmem
    refine complete line rest hline (ih rest.length ?_ rest rfl)
    rw [← hn, List.length_append, List.length_cons]
    omega
  · exact opened bytes hmem

/-- The lines make up the bytes. -/
theorem joinLines_completeLines (bytes : List UInt8) :
    joinLines (completeLines bytes) ++ openLine bytes = bytes := by
  induction bytes using lines_induction with
  | opened tail htail =>
    rw [completeLines_of_not_mem htail, openLine_of_not_mem htail]
    rfl
  | complete line rest hline ih =>
    rw [completeLines_line hline, openLine_line hline, joinLines, List.flatMap_cons, ← joinLines,
      List.append_assoc, ih, List.append_assoc]
    rfl

theorem lineFeed_not_mem_openLine (bytes : List UInt8) : lineFeed ∉ openLine bytes := by
  induction bytes using lines_induction with
  | opened tail htail => rwa [openLine_of_not_mem htail]
  | complete line rest hline ih => rwa [openLine_line hline]

/-! ## Reading, line by line -/

theorem readLinesFrom_append {line : List UInt8} (h : lineFeed ∉ line) (start rest : List UInt8) :
    readLinesFrom start (line ++ rest) = readLinesFrom (line.reverse ++ start) rest := by
  induction line generalizing start with
  | nil => rfl
  | cons b line ih =>
    have hb : b ≠ lineFeed := fun heq => h (heq ▸ List.mem_cons_self)
    have hline : lineFeed ∉ line := fun hmem => h (List.mem_cons_of_mem _ hmem)
    rw [List.cons_append, readLinesFrom, if_neg hb, ih hline, List.reverse_cons, List.append_assoc]
    rfl

/-- Of a line that has not ended nothing is read. -/
theorem readLines_of_not_mem {tail : List UInt8} (h : lineFeed ∉ tail) :
    readLines tail = ([], tail) := by
  have hread := readLinesFrom_append h [] []
  rw [List.append_nil] at hread
  rw [readLines, hread, readLinesFrom, List.append_nil, List.reverse_reverse]

/-- A complete line is read before what stands after it. -/
theorem readLines_line {line : List UInt8} (h : lineFeed ∉ line) (rest : List UInt8) :
    readLines (line ++ lineFeed :: rest) =
      match lineEvent line with
      | .nothing => readLines rest
      | .event e => (e :: (readLines rest).1, (readLines rest).2)
      | .unfinished => ([], line ++ lineFeed :: rest) := by
  rw [readLines, readLinesFrom_append h, readLinesFrom, if_pos rfl, List.append_nil,
    List.reverse_reverse]
  cases lineEvent line <;> rfl

/-- **What is left of a buffer is read again with what arrives later.** -/
theorem readLines_append (bytes more : List UInt8) :
    readLines (bytes ++ more) =
      ((readLines bytes).1 ++ (readLines ((readLines bytes).2 ++ more)).1,
        (readLines ((readLines bytes).2 ++ more)).2) := by
  induction bytes using lines_induction with
  | opened tail htail =>
    rw [readLines_of_not_mem htail]
    rfl
  | complete line rest hline ih =>
    have hread := readLines_line hline rest
    have hmore := readLines_line hline (rest ++ more)
    rw [List.append_assoc, List.cons_append]
    -- a line that stalls keeps everything after it, so nothing of it is read twice
    cases hevent : lineEvent line with
    | nothing =>
      rw [hevent] at hread hmore
      rw [hread, hmore]
      exact ih
    | event e =>
      rw [hevent] at hread hmore
      rw [hread, hmore, ih]
      rfl
    | unfinished =>
      rw [hevent] at hread
      rw [hread, List.append_assoc, List.cons_append]
      rfl

theorem receiveAll_left (bytes : List UInt8) (chunks : List (List UInt8)) :
    readLines (bytes ++ chunks.flatten) =
      ((readLines bytes).1 ++ (receiveAll (readLines bytes).2 chunks).1,
        (receiveAll (readLines bytes).2 chunks).2) := by
  induction chunks generalizing bytes with
  | nil => simp [receiveAll]
  | cons chunk rest ih =>
    rw [List.flatten_cons, ← List.append_assoc, ih (bytes ++ chunk), readLines_append bytes chunk]
    simp only [receiveAll, receive, List.append_assoc]

/-- **Chunks are read as the bytes that they make up.** -/
theorem receiveAll_flatten (chunks : List (List UInt8)) :
    receiveAll [] chunks = readLines chunks.flatten := by
  exact (receiveAll_left [] chunks).symm

/-! ## Answers -/

/-- The data of a line, if there is any that counts. -/
def payload? (line : List UInt8) : Option (List Char) :=
  (lineData? line).bind fun data => if data = [] ∨ data = "[DONE]".toList then none else some data

/-- Whether the data of a line ends too early. -/
def stalls (line : List UInt8) : Bool :=
  (payload? line).any fun data => (Event.ofData (String.ofList data)).isNone

/-- What a line with data should be answered with: its event, or that it cannot be read. -/
def answer? (line : List UInt8) : Option Received :=
  (payload? line).map fun data =>
    (Event.ofData (String.ofList data)).getD (.error (.unreadable .line))

/-- A line that does not stall is answered. -/
theorem lineEvent_eq (line : List UInt8) :
    lineEvent line =
      if stalls line then .unfinished
      else
        match answer? line with
        | none => .nothing
        | some e => .event e := by
  unfold lineEvent stalls answer? payload?
  cases lineData? line with
  | none => rfl
  | some data =>
    simp only [Option.bind_some]
    split
    · rfl
    · simp only [Option.any_some, Option.map_some]
      cases Event.ofData (String.ofList data) <;> rfl

/-- **The lines before the first that stalls are answered, and all the others are left.** -/
theorem readLines_eq (bytes : List UInt8) :
    readLines bytes =
      (((completeLines bytes).takeWhile fun line => !stalls line).filterMap answer?,
        joinLines ((completeLines bytes).dropWhile fun line => !stalls line) ++ openLine bytes) := by
  induction bytes using lines_induction with
  | opened tail htail =>
    rw [readLines_of_not_mem htail, completeLines_of_not_mem htail, openLine_of_not_mem htail]
    rfl
  | complete line rest hline ih =>
    rw [readLines_line hline, completeLines_line hline, openLine_line hline, lineEvent_eq]
    cases hstalls : stalls line with
    | true =>
      have hjoined := joinLines_completeLines (line ++ lineFeed :: rest)
      rw [completeLines_line hline, openLine_line hline] at hjoined
      simp [hstalls, hjoined]
    | false =>
      cases hanswer : answer? line <;> simp [hstalls, hanswer, ih]

/-- **Every line is answered if and only if none of them stalls.** Of the bytes of a stream, however
they arrive, the lines before the first that stalls are answered, one after the other; that line and
everything after it are left. So every line with data is answered and no complete line is left just
where no line stalls. -/
theorem lines_answered_iff (chunks : List (List UInt8)) :
    receiveAll [] chunks =
        (((completeLines chunks.flatten).takeWhile fun line => !stalls line).filterMap answer?,
          joinLines ((completeLines chunks.flatten).dropWhile fun line => !stalls line) ++
            openLine chunks.flatten) ∧
      ((receiveAll [] chunks).1 = (completeLines chunks.flatten).filterMap answer? ∧
          lineFeed ∉ (receiveAll [] chunks).2 ↔
        ∀ line ∈ completeLines chunks.flatten, stalls line = false) := by
  rw [receiveAll_flatten, readLines_eq]
  generalize completeLines chunks.flatten = lines
  refine ⟨rfl, fun ⟨_, hleft⟩ line hline => ?_, fun hnone => ?_⟩
  · rcases hrest : lines.dropWhile (fun line => !stalls line) with _ | ⟨first, rest⟩
    · simpa using List.dropWhile_eq_nil_iff.1 hrest line hline
    · refine absurd (List.mem_append_left _ ?_) hleft
      show lineFeed ∈ joinLines (lines.dropWhile fun line => !stalls line)
      rw [hrest, joinLines, List.flatMap_cons, List.append_assoc]
      exact List.mem_append_right _ List.mem_cons_self
  · have hall : ∀ line ∈ lines, (!stalls line) = true := by
      intro line hline
      rw [hnone line hline]
      rfl
    rw [List.takeWhile_eq_self_iff.2 hall, List.dropWhile_eq_nil_iff.2 hall]
    exact ⟨rfl, lineFeed_not_mem_openLine chunks.flatten⟩

/-- A line whose data ends too early, and an event after it. -/
def cutShort : List UInt8 :=
  Text.Utf8.encode "data: \x7b\ndata: \x7b\"type\":\"error\",\"message\":\"busy\"\x7d\n"

/-- Both lines have data that counts, neither is answered, and both are left. -/
theorem cutShort_hides_event :
    ((completeLines cutShort).map fun line => (answer? line).isSome) = [true, true] ∧
      (receiveAll [] [cutShort]).1.length = 0 ∧ lineFeed ∈ (receiveAll [] [cutShort]).2 := by
  decide +kernel

end Inquest.Client

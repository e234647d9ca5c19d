import Inquest.Client.Exchange
import Inquest.Proofs.Client.Lines
import Inquest.Proofs.Text.Utf8

/-! # Where the network cuts a stream, and how its lines end

A stream is told alike however its bytes are cut into chunks, and whether its lines end in a line feed or
in a carriage return and a line feed.

* `lineEvent_return`: a carriage return at the end of a line changes nothing about the line.
* `answers_withReturns`: neither does one at the end of every line.
* `receiveAll_cuts`: chunks, their bytes at once, and lines that end the other way.
-/

namespace Inquest.Client

open Text

/-- The byte that may stand before the one that ends a line. -/
def carriageReturn : UInt8 := 13

/-- The bytes with a carriage return in front of every line feed. -/
def withReturns (bytes : List UInt8) : List UInt8 :=
  bytes.flatMap fun b => if b = lineFeed then [carriageReturn, lineFeed] else [b]

theorem withReturns_of_not_mem {line : List UInt8} (h : lineFeed ∉ line) :
    withReturns line = line := by
  induction line with
  | nil => rfl
  | cons b line ih =>
    have hb : b ≠ lineFeed := fun heq => h (heq ▸ List.mem_cons_self)
    have hline : lineFeed ∉ line := fun hmem => h (List.mem_cons_of_mem _ hmem)
    rw [withReturns, List.flatMap_cons, if_neg hb, ← withReturns, ih hline]
    rfl

theorem withReturns_line {line : List UInt8} (h : lineFeed ∉ line) (rest : List UInt8) :
    withReturns (line ++ lineFeed :: rest) =
      (line ++ [carriageReturn]) ++ lineFeed :: withReturns rest := by
  have hline := withReturns_of_not_mem h
  unfold withReturns at hline ⊢
  rw [List.flatMap_append, hline, List.flatMap_cons, if_pos rfl, List.append_assoc]
  rfl

/-- Carriage returns at the end of a line do not belong to it. -/
theorem lineData?_return (line : List UInt8) :
    lineData? (line ++ [carriageReturn]) = lineData? line := by
  have hdecoded : Utf8.decodeLossy (line ++ [carriageReturn]) = Utf8.decodeLossy line ++ ['\r'] :=
    Utf8.decodeLossy_concat_ascii (by decide) line
  rw [lineData?, lineData?, hdecoded, List.reverse_append]
  rfl

theorem lineEvent_return (line : List UInt8) :
    lineEvent (line ++ [carriageReturn]) = lineEvent line := by
  rw [lineEvent, lineEvent, lineData?_return]

/-- **The answers are the same with a carriage return in front of every line feed.** -/
theorem answers_withReturns (bytes : List UInt8) :
    (readLines (withReturns bytes)).1 = (readLines bytes).1 := by
  induction bytes using lines_induction with
  | opened tail htail => rw [withReturns_of_not_mem htail]
  | complete line rest hline ih =>
    have hreturn : lineFeed ∉ line ++ [carriageReturn] := by
      rw [List.mem_append, List.mem_singleton]
      exact fun h => h.elim hline (by decide)
    rw [withReturns_line hline, readLines_line hreturn, readLines_line hline, lineEvent_return]
    cases lineEvent line with
    | nothing => exact ih
    | event e => exact congrArg (e :: ·) ih
    | unfinished => rfl

/-- **A stream is told alike however it is cut and however its lines end.** Chunks that arrive one after
the other are answered as their bytes at once are, and leave the same behind; so the client tells the
same of an answer of the service. With a carriage return in front of every line feed the answers are the
same. -/
theorem receiveAll_cuts (chunks : List (List UInt8)) :
    receiveAll [] chunks = readLines chunks.flatten ∧
      (∀ status cut, stream (.answered status chunks cut) =
        stream (.answered status [chunks.flatten] cut)) ∧
      (readLines (withReturns chunks.flatten)).1 = (readLines chunks.flatten).1 := by
  have hwhole : receiveAll [] [chunks.flatten] = receiveAll [] chunks := by
    rw [receiveAll_flatten, receiveAll_flatten, List.flatten_singleton]
  refine ⟨receiveAll_flatten chunks, fun status cut => ?_, answers_withReturns chunks.flatten⟩
  rw [stream, stream, hwhole, errorBody, errorBody, List.flatten_singleton]

end Inquest.Client

import Inquest.Model.Event
import Inquest.Text.Blank
import Inquest.Text.Search
import Inquest.Text.Utf8

/-! # Lines of a streamed response

A streamed response is a sequence of bytes cut into lines, of which those that begin with `data:` carry
an event each. `readLines` takes the events of the complete lines and leaves the bytes of the last,
unfinished one. A line whose data ends too early is left too, with everything after it.

* `lineEvent`: what a complete line carries.
* `receive`: the events of the bytes that have arrived, chunk by chunk.
-/

namespace Inquest.Client

open Text

/-- What a complete line carries. -/
inductive LineEvent
  /-- No data, or none that counts. -/
  | nothing
  /-- An event, or the reason why the data is none. -/
  | event (e : Except ApiError Event)
  /-- Data that ends too early. -/
  | unfinished

/-- The byte that ends a line. -/
def lineFeed : UInt8 := 10

/-- The text of a line's data; carriage returns at the end do not belong to the line. -/
def lineData? (line : List UInt8) : Option (List Char) :=
  let text := (Utf8.decodeLossy line).reverse.dropWhile (· == '\r') |>.reverse
  (stripPrefix? "data:".toList text).map trimStartChars

/-- What a complete line carries. -/
def lineEvent (line : List UInt8) : LineEvent :=
  match lineData? line with
  | none => .nothing
  | some data =>
    if data = [] ∨ data = "[DONE]".toList then .nothing
    else
      match Event.ofData (String.ofList data) with
      | some e => .event e
      | none => .unfinished

/-- An event, or the reason why there is none. -/
abbrev Received := Except ApiError Event

/-- The events of the complete lines, and the bytes that are left; `line` holds the bytes of the
current line, last first. -/
def readLinesFrom (line : List UInt8) : List UInt8 → List Received × List UInt8
  | [] => ([], line.reverse)
  | b :: bs =>
    if b = lineFeed then
      match lineEvent line.reverse with
      | .nothing => readLinesFrom [] bs
      | .event e => let (es, left) := readLinesFrom [] bs; (e :: es, left)
      | .unfinished => ([], line.reverse ++ b :: bs)
    else readLinesFrom (b :: line) bs

/-- The events of the complete lines, and the bytes that are left. -/
def readLines (buffer : List UInt8) : List Received × List UInt8 := readLinesFrom [] buffer

/-- The events of one more chunk, and the bytes that are left. -/
def receive (buffer chunk : List UInt8) : List Received × List UInt8 := readLines (buffer ++ chunk)

/-- The events of chunks that arrive one after the other, and the bytes that are left. -/
def receiveAll (buffer : List UInt8) : List (List UInt8) → List Received × List UInt8
  | [] => ([], buffer)
  | chunk :: rest =>
    let (es, left) := receive buffer chunk
    let (more, left) := receiveAll left rest
    (es ++ more, left)

end Inquest.Client

import Inquest.Model.Basic
import Inquest.Text.Search

/-! # A model that follows a script

A `Script` answers every request with the next of its lines, numbered from one, and keeps the requests.
When it has no more lines it says so; one that is offline answers nothing.

* `Response.events`: the events in which a response is streamed.
* `Script.asModel`: the script as a model, whose streams hold the events of its responses.
-/

namespace Inquest

/-- The words of a text, each with the space after it, as a streamed text is cut. -/
def textDeltas (text : String) : List String :=
  (Text.splitInclusive ' ' text.toList).map String.ofList

namespace Response

/-- The events of an item of a response. -/
def itemEvents (index : Nat) (item : Item) : List Event :=
  let opening : List Event :=
    match item with
    | .message id speaker parts =>
      .itemAdded index (.message id speaker []) ::
        (textDeltas (Item.partsText parts)).map (.textDelta index)
    | .call c =>
      [.itemAdded index (.call { c with arguments := "" }), .argumentsDelta index c.arguments,
        .argumentsDone index c.arguments]
    | _ => []
  opening ++ [.itemDone index item]

/-- The events of items from an index on. -/
def itemsEvents : (index : Nat) → List Item → List Event
  | _, [] => []
  | index, item :: rest => itemEvents index item ++ itemsEvents (index + 1) rest

/-- The events in which a response is streamed: its id, its items one after the other, and the whole
response. -/
def events (r : Response) : List Event :=
  .created r.id :: (itemsEvents 0 r.output ++ [.completed r])

end Response

/-- A scripted response: what is said before the calls, if anything, and the calls with their
arguments. -/
structure Line where
  text : Option String
  calls : List (String × String)

namespace Line

/-- A line that only says something. -/
def say (text : String) : Line := ⟨some text, []⟩

/-- The calls of a line from a place on, in the `n`-th response. -/
def callItems (n : Nat) : (place : Nat) → List (String × String) → List Item
  | _, [] => []
  | i, (name, arguments) :: rest =>
    .call ⟨some s!"fc_{n}_{i}", s!"call_{n}_{i}", name, arguments⟩ :: callItems n (i + 1) rest

/-- A line as the `n`-th response. -/
def response (n : Nat) (l : Line) : Response where
  id := s!"resp_{n}"
  model := "mock"
  status := .completed
  output :=
    (match l.text with
      | some t => [Item.message (some s!"msg_{n}") .assistant [.output t]]
      | none => []) ++ callItems n 0 l.calls
  usage := ⟨0, 0⟩
  raw := .obj [("id", .str s!"resp_{n}"), ("mock", .bool true), ("object", .str "response")]

end Line

/-- A model that follows a script. -/
structure Script where
  lines : List Line
  /-- The requests received so far. -/
  requests : List Request
  /-- How many responses were given. -/
  served : Nat
  offline : Bool

namespace Script

/-- A script of some lines. -/
def new (lines : List Line) : Script := ⟨lines, [], 0, false⟩

/-- A model that is offline. -/
def failing : Script := ⟨[], [], 0, true⟩

/-- The script with another line at its end. -/
def push (s : Script) (l : Line) : Script := { s with lines := s.lines ++ [l] }

/-- What is said when the script has ended. -/
def ended : Line := .say "I have nothing more to say."

/-- A request answered. -/
def answer (s : Script) (r : Request) : Except ApiError Response × Script :=
  let s := { s with requests := s.requests ++ [r] }
  if s.offline then (.error (.network "mock backend is offline"), s)
  else
    let n := s.served + 1
    (.ok ((s.lines.headD ended).response n), { s with lines := s.lines.tail, served := n })

/-- The script as a model. -/
def asModel : Model Script where
  respond s r :=
    let (result, s) := s.answer r
    (.came result, s)
  stream s r :=
    let (result, s) := s.answer r
    (.came (result.map fun response => response.events.map .ok), s)

end Script

end Inquest

import Inquest.Text.Blank
import Inquest.Text.Search
import Inquest.Json.Decode

/-! # Collected evidence

The detective's evidence is told to a suspect between two markers in the suspect's instructions.
`inject` replaces the text between the first opening marker and the first closing marker after it, and
touches nothing else.

* `splitSection_eq_found`: the parts around and between the markers make up the instructions.
* `Board.collect`: a board holds one item of a name, the first that was collected.
-/

namespace Inquest

/-- A piece of evidence. -/
structure Evidence where
  name : String
  description : String
  deriving DecidableEq

namespace Evidence

/-- The marker before the evidence. -/
def openMarker : List Char := "[COLLECTED EVIDENCE]".toList

/-- The marker after the evidence. -/
def closeMarker : List Char := "[END COLLECTED EVIDENCE]".toList

/-- One line about an item; a blank description is left out. -/
def line (e : Evidence) : List Char :=
  if Text.isBlank e.description then '-' :: ' ' :: (e.name.toList ++ ['\n'])
  else '-' :: ' ' :: (e.name.toList ++ ':' :: ' ' :: (e.description.toList ++ ['\n']))

/-- The text between the markers. -/
def bodyChars (items : List Evidence) : List Char :=
  '\n' :: if items.isEmpty then "- (none)\n".toList else items.flatMap line

/-- The text between the markers. -/
def body (items : List Evidence) : String := String.ofList (bodyChars items)

/-- Instructions that cannot take evidence. -/
inductive InjectError
  /-- The section is opened and never closed. -/
  | unclosedMarker
  deriving DecidableEq

/-- What is wrong, in words. -/
def InjectError.message : InjectError → String
  | .unclosedMarker => "Instructions open an evidence section but never close it"

/-- How instructions stand to the markers. -/
inductive Section
  /-- There is no opening marker. -/
  | absent
  /-- The first opening marker has no closing marker after it. -/
  | unclosed
  /-- The text before the opening marker, between the markers, and after the closing marker. -/
  | found (before body after : List Char)
  deriving DecidableEq

/-- The evidence section of instructions. -/
def splitSection (instructions : List Char) : Section :=
  match Text.splitAt? openMarker instructions with
  | none => .absent
  | some (before, rest) =>
    match Text.splitAt? closeMarker rest with
    | none => .unclosed
    | some (body, after) => .found before body after

theorem splitSection_eq_found {instructions before body after : List Char}
    (h : splitSection instructions = .found before body after) :
    instructions = before ++ openMarker ++ (body ++ closeMarker ++ after) := by
  unfold splitSection at h
  split at h
  · cases h
  · next h1 =>
    split at h
    · cases h
    · next h2 =>
      injection h with hb hi ha
      rw [← hb, ← hi, ← ha, Text.splitAt?_eq_some h1, Text.splitAt?_eq_some h2]

/-- Instructions with the evidence section replaced; `none` where nothing changes. -/
def injectChars (instructions : List Char) (items : List Evidence) :
    Except InjectError (Option (List Char)) :=
  match splitSection instructions with
  | .absent => .ok none
  | .unclosed => .error .unclosedMarker
  | .found before body after =>
    if body = bodyChars items then .ok none
    else .ok (some (before ++ openMarker ++ bodyChars items ++ closeMarker ++ after))

/-- Instructions with the evidence section replaced; `none` where nothing changes. -/
def inject (instructions : String) (items : List Evidence) : Except InjectError (Option String) :=
  (injectChars instructions.toList items).map fun t => t.map String.ofList

/-- An item as data. -/
def toJson (e : Evidence) : Json :=
  .obj [("name", .str e.name), ("description", .str e.description)]

open Json in
/-- An item in data. -/
def decode : Json.Decoder Evidence := fun room d => do
  let found ← fieldsOf [required "name" text, required "description" text] room d
  return ⟨← found.get room "name" text, ← found.get room "description" text⟩

end Evidence

/-- The evidence collected so far, in the order of collection. -/
structure Board where
  items : List Evidence
  deriving DecidableEq

namespace Board

/-- A board without evidence. -/
def empty : Board := ⟨[]⟩

/-- The board with an item added, and whether it was: an item of the same name stays alone. -/
def collect (b : Board) (e : Evidence) : Board × Bool :=
  if b.items.any fun i => i.name == e.name then (b, false) else (⟨b.items ++ [e]⟩, true)

end Board

/-- Where a town looks up the evidence. -/
inductive Inventory
  /-- A board that more may be added to. -/
  | board (b : Board)
  /-- A list that stays as it is. -/
  | fixed (items : List Evidence)
  deriving DecidableEq

/-- The evidence as it stands. -/
def Inventory.items : Inventory → List Evidence
  | .board b => b.items
  | .fixed items => items

end Inquest

import Inquest.Json.Token

/-! # What a JSON text says, as far as it can be read

A `Doc` holds the values of a text in the order of the text. Where the text stops being JSON the
document holds the fault instead, with everything before it kept: whoever asks for a shape learns
which comes first, a value of another shape or the fault.

* `Reading.value`: the text as generic data, names sorted and the last of equal names kept.
* `nestingLimit`: arrays and objects nested deeper cannot be read, only passed over.
-/

namespace Inquest.Json

/-- A value of a text, its fields and items in the order of the text. -/
inductive Doc
  | null
  | bool (b : Bool)
  | num (n : Number)
  | str (s : String)
  /-- An array; `stop` is the fault that ended it. -/
  | arr (items : List Doc) (stop : Option Fault)
  /-- An object; `stop` is the fault that ended it. -/
  | obj (fields : List (String × Doc)) (stop : Option Fault)
  /-- No value: reading here reports `read`, passing over reports `skip`, if anything. -/
  | fault (read : Fault) (skip : Option Fault)

instance : Inhabited Doc := ⟨.null⟩

/-! ## From tokens -/

/-- An array or object not yet closed, its contents last first. -/
inductive Frame
  | items (done : List Doc)
  | fields (done : List (String × Doc)) (key : String)

/-- What may come next. -/
inductive Expects
  /-- A value. -/
  | value
  /-- A value, or the end of the empty array. -/
  | firstItem
  /-- A name, or the end of the empty object. -/
  | firstName
  /-- A name, after the fields `done`. -/
  | name (done : List (String × Doc))
  /-- The colon after a name. -/
  | colon
  /-- A comma or the end of the array or object that just got a value. -/
  | more
  /-- Nothing. -/
  | finished (d : Doc)

/-- The document with its open arrays and objects closed around a last value. -/
def unwind (d : Doc) : List Frame → Doc
  | [] => d
  | .items done :: frames => unwind (.arr (d :: done).reverse none) frames
  | .fields done key :: frames => unwind (.obj ((key, d) :: done).reverse none) frames

/-- A fault where a value is due. -/
def faultValue (f : Fault) : Doc := .fault f (some f)

/-- The innermost array or object stopped by a fault. -/
def stopHere (f : Fault) : List Frame → Doc
  | [] => faultValue f
  | .items done :: frames => unwind (.arr done.reverse (some f)) frames
  | .fields done _ :: frames => unwind (.obj done.reverse (some f)) frames

/-- A finished value put into the innermost array or object. -/
def deliver (d : Doc) : List Frame → Expects × List Frame
  | [] => (.finished d, [])
  | .items done :: frames => (.more, .items (d :: done) :: frames)
  | .fields done key :: frames => (.more, .fields ((key, d) :: done) key :: frames)

/-- The scalar of a token. -/
def scalar? : Token → Option Doc
  | .null => some .null
  | .bool b => some (.bool b)
  | .num n => some (.num n)
  | .text s => some (.str s)
  | .brokenText read skip => some (.fault read skip)
  | .broken read skip => some (.fault read skip)
  | _ => none

/-- Whether nothing can be read after a token. -/
def Token.isFatal : Token → Bool
  | .brokenText _ (some _) => true
  | .broken _ (some _) => true
  | _ => false

/-- A token where a value is due: the new expectation, or the whole document where it ends. -/
def takeValue (t : Token) (frames : List Frame) : Except Doc (Expects × List Frame) :=
  match t with
  | .openArray => .ok (.firstItem, .items [] :: frames)
  | .openObject => .ok (.firstName, .fields [] "" :: frames)
  | t =>
    match scalar? t with
    | some d => if t.isFatal then .error (unwind d frames) else .ok (deliver d frames)
    | none => .error (unwind (faultValue .malformed) frames)

/-- A token where a name is due. -/
def takeName (t : Token) (done : List (String × Doc)) (frames : List Frame) :
    Except Doc (Expects × List Frame) :=
  match t with
  | .text s => .ok (.colon, .fields done s :: frames)
  | .brokenText read _ => .error (stopHere read (.fields done "" :: frames))
  | _ => .error (stopHere .malformed (.fields done "" :: frames))

/-- The end of an array or object. -/
def close (frames : List Frame) : Expects × List Frame :=
  match frames with
  | [] => (.more, [])
  | .items done :: frames => deliver (.arr done.reverse none) frames
  | .fields done _ :: frames => deliver (.obj done.reverse none) frames

/-- A token after a value. -/
def takeMore (t : Token) (frames : List Frame) : Except Doc (Expects × List Frame) :=
  match t, frames with
  | .comma, .items done :: frames => .ok (.value, .items done :: frames)
  | .comma, .fields done _ :: frames => .ok (.name done, frames)
  | .closeArray, .items done :: frames => .ok (close (.items done :: frames))
  | .closeObject, .fields done key :: frames => .ok (close (.fields done key :: frames))
  | _, frames => .error (stopHere .malformed frames)

/-- One token of the text. -/
def takeToken (t : Token) : Expects → List Frame → Except Doc (Expects × List Frame)
  | .value, frames => takeValue t frames
  | .firstItem, frames =>
    match t with
    | .closeArray => .ok (close frames)
    | _ => takeValue t frames
  | .firstName, frames =>
    match t with
    | .closeObject => .ok (close frames)
    | _ => takeName t [] (frames.drop 1)
  | .name done, frames => takeName t done frames
  | .colon, frames =>
    match t with
    | .colon => .ok (.value, frames)
    | _ => .error (unwind (faultValue .malformed) frames)
  | .more, frames => takeMore t frames
  | .finished d, _ => .error d

/-- The text ended. -/
def takeEnd : Expects → List Frame → Doc
  | .value, frames => unwind (faultValue .ended) frames
  | .colon, frames => unwind (faultValue .ended) frames
  | .name done, frames => stopHere .ended (.fields done "" :: frames)
  | .finished d, _ => d
  | _, frames => stopHere .ended frames

/-- A text that has been read: its value, and whether anything stands after it. -/
structure Reading where
  doc : Doc
  trailing : Bool

/-- The document of the tokens that are left. -/
def readTokens : List Token → Expects → List Frame → Reading
  | [], expects, frames => ⟨takeEnd expects frames, false⟩
  | _ :: _, .finished d, _ => ⟨d, true⟩
  | t :: ts, expects, frames =>
    match takeToken t expects frames with
    | .ok (expects, frames) => readTokens ts expects frames
    | .error d => ⟨d, false⟩

/-- The document of a text. -/
def readChars (s : List Char) : Reading := readTokens (tokens s) .value []

/-- The document of a text. -/
def read (s : String) : Reading := readChars s.toList

/-! ## Generic data -/

/-- How deep arrays and objects may be nested. -/
def nestingLimit : Nat := 127

/-- A fault, if there is one. -/
def stopped : Option Fault → Except Fault Unit
  | none => .ok ()
  | some f => .error f

mutual

/-- A document as generic data, with room for `room` more levels of nesting. -/
def Doc.value (room : Nat) : Doc → Except Fault Json
  | .null => .ok .null
  | .bool b => .ok (.bool b)
  | .num n => .ok (.num n)
  | .str s => .ok (.str s)
  | .arr items stop => do
    if room = 0 then throw .malformed
    let values ← Doc.values (room - 1) items
    stopped stop
    return .arr values
  | .obj fields stop => do
    if room = 0 then throw .malformed
    let values ← Doc.fieldValues (room - 1) fields
    stopped stop
    return .obj (ofFields values)
  | .fault f _ => .error f

/-- Items as generic data. -/
def Doc.values (room : Nat) : List Doc → Except Fault (List Json)
  | [] => .ok []
  | d :: rest => do return (← d.value room) :: (← Doc.values room rest)

/-- Fields as generic data. -/
def Doc.fieldValues (room : Nat) : List (String × Doc) → Except Fault (List (String × Json))
  | [] => .ok []
  | (k, d) :: rest => do return (k, ← d.value room) :: (← Doc.fieldValues room rest)

end

mutual

/-- The fault met in passing over a document. -/
def Doc.skipFault : Doc → Option Fault
  | .arr items stop => (Doc.skipItems items).or stop
  | .obj fields stop => (Doc.skipFields fields).or stop
  | .fault _ skip => skip
  | _ => none

/-- The fault met in passing over items. -/
def Doc.skipItems : List Doc → Option Fault
  | [] => none
  | d :: rest => (d.skipFault).or (Doc.skipItems rest)

/-- The fault met in passing over fields. -/
def Doc.skipFields : List (String × Doc) → Option Fault
  | [] => none
  | (_, d) :: rest => (d.skipFault).or (Doc.skipFields rest)

end

mutual

/-- A value as a document without faults. -/
def toDoc : Json → Doc
  | .null => .null
  | .bool b => .bool b
  | .num n => .num n
  | .str s => .str s
  | .arr items => .arr (toDocs items) none
  | .obj fields => .obj (toDocFields fields) none

/-- Items as documents. -/
def toDocs : List Json → List Doc
  | [] => []
  | j :: rest => toDoc j :: toDocs rest

/-- Fields as documents. -/
def toDocFields : List (String × Json) → List (String × Doc)
  | [] => []
  | (k, j) :: rest => (k, toDoc j) :: toDocFields rest

end

mutual

/-- How deep arrays and objects are nested in a value. -/
def depth : Json → Nat
  | .arr items => itemsDepth items + 1
  | .obj fields => fieldsDepth fields + 1
  | _ => 0

/-- How deep the items are nested. -/
def itemsDepth : List Json → Nat
  | [] => 0
  | j :: rest => max (depth j) (itemsDepth rest)

/-- How deep the fields are nested. -/
def fieldsDepth : List (String × Json) → Nat
  | [] => 0
  | (_, j) :: rest => max (depth j) (fieldsDepth rest)

end

/-- What a decoder makes of a document that may nest `room` levels deep. -/
abbrev Decoder (α : Type) := (room : Nat) → Doc → Except Fault α

/-- The whole text decoded; nothing may stand after its value. -/
def Reading.decode {α : Type} (r : Reading) (decoder : Decoder α) (limit : Nat) : Except Fault α := do
  let a ← decoder limit r.doc
  if r.trailing then throw .malformed
  return a

/-- A text decoded. -/
def decodeText {α : Type} (decoder : Decoder α) (s : String) : Except Fault α :=
  (read s).decode decoder nestingLimit

/-- A value decoded; it may nest as deep as it does. -/
def decodeValue {α : Type} (decoder : Decoder α) (j : Json) : Except Fault α :=
  decoder j.depth (toDoc j)

/-- A text as generic data. -/
def parse (s : String) : Except Fault Json := decodeText (fun room d => d.value room) s

end Inquest.Json

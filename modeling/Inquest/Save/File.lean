import Inquest.Entry
import Inquest.Save.Basic
import Inquest.Text.LetterTable

/-! # Save files

A save is a file of indented JSON. `fileName` names one for a detective and a time, in letters, digits
and underscores.

* `text`, `ofText`: a save as the text of a file, and back; the version must be the one written now.
* `load`, `store`: the same with a directory.
-/

namespace Inquest.SavedTown

/-- Why a save cannot be read or written. -/
inductive FileError
  | file (e : Entry.ReadError)
  | json (fault : Json.Fault)
  | version (found : Nat)
  deriving DecidableEq

/-- What went wrong, in words. -/
def FileError.message : FileError → String
  | .file e => s!"IO error: {e.message}"
  | .json .ended => "JSON error: the text ended too early"
  | .json .malformed => "JSON error: not JSON"
  | .json .misfit => "JSON error: not a save"
  | .version found => s!"Version mismatch: expected {currentVersion}, found {found}"

/-- A save as the text of a file. -/
def text (s : SavedTown) : String := s.toJson.pretty

/-- The save in the text of a file. -/
def ofText (content : String) : Except FileError SavedTown :=
  match Json.decodeText decode content with
  | .error f => .error (.json f)
  | .ok s => if s.version = currentVersion then .ok s else .error (.version s.version)

/-- The save in the file to which a path leads. -/
def load (path : String) (directory : Entry) : Except FileError SavedTown :=
  match (directory.follow (Entry.names path)).bind Entry.readText with
  | .error e => .error (.file e)
  | .ok content => ofText content

/-- A save written to a path. -/
def store (path : String) (s : SavedTown) (directory : Entry) : Except FileError Entry :=
  (directory.write s.text path).mapError .file

/-- A name in letters, digits and underscores. -/
def plainName (name : String) : String :=
  String.ofList (name.toList.map fun c => if Text.isAlphanumeric c then c else '_')

/-- The name of a save file. -/
def fileName (detective : String) (now : Timestamp) : String :=
  s!"{plainName detective}_{now.fileText}.json"

/-- The path of a save file in a directory. -/
def path (base detective : String) (now : Timestamp) : String :=
  Entry.join base (fileName detective now)

end Inquest.SavedTown

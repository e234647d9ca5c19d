import Inquest.Text.Utf8

/-! # Files and directories

An `Entry` is a file or a directory with what is in it. A path is followed from an entry, name by name.

* `follow`, `readText`: what a path leads to, and the text of a file.
* `put`, `write`: a file written where a path leads.
-/

namespace Inquest

/-- What a name in a directory stands for. -/
inductive Entry
  | file (bytes : List UInt8)
  | directory (entries : List (String × Entry))

namespace Entry

/-- Why a file or directory could not be read. -/
inductive ReadError
  | missing
  | isDirectory
  | notDirectory
  | notText
  deriving DecidableEq

/-- What went wrong, in words. -/
def ReadError.message : ReadError → String
  | .missing => "No such file or directory (os error 2)"
  | .isDirectory => "Is a directory (os error 21)"
  | .notDirectory => "Not a directory (os error 20)"
  | .notText => "stream did not contain valid UTF-8"

/-- The names in a path; a path that ends in a slash has an empty one at its end. -/
def components : List Char → List (List Char)
  | [] => [[]]
  | c :: s =>
    if c = '/' then [] :: components s
    else
      match components s with
      | [] => [[c]]
      | w :: ws => (c :: w) :: ws

/-- The names in a path. -/
def names (path : String) : List String := (components path.toList).map String.ofList

/-- The path of an entry in a directory. -/
def join (directory name : String) : String :=
  if directory.isEmpty then name
  else if directory.toList.getLast? = some '/' then directory ++ name
  else directory ++ "/" ++ name

/-- Whether a name stands for the directory in which it is looked up. -/
def isHere (name : String) : Bool := name == "" || name == "."

/-- What a path leads to, from an entry. -/
def follow : (path : List String) → Entry → Except ReadError Entry
  | [], e => .ok e
  | _ :: _, .file _ => .error .notDirectory
  | name :: path, .directory entries =>
    if isHere name then follow path (.directory entries)
    else
      match entries.lookup name with
      | some e => follow path e
      | none => .error .missing

/-- The text of a file. -/
def readText : Entry → Except ReadError String
  | .directory _ => .error .isDirectory
  | .file bytes =>
    match Text.Utf8.decode? bytes with
    | some s => .ok (String.ofList s)
    | none => .error .notText

/-! ## Writing -/

/-- Entries with the one of a name replaced. -/
def replaceEntry (name : String) (e : Entry) : List (String × Entry) → List (String × Entry)
  | [] => []
  | (n, f) :: rest => if n = name then (n, e) :: rest else (n, f) :: replaceEntry name e rest

/-- An entry put where the path leads. The directories on the way must be there, or are made if
`parents` says so. -/
def put (parents : Bool) (leaf : Entry) : (path : List String) → Entry → Except ReadError Entry
  | [], e =>
    match e, leaf with
    | .directory _, .file _ => .error .isDirectory
    | .file _, .directory _ => .error .notDirectory
    | .directory entries, .directory _ => .ok (.directory entries)
    | .file _, .file bytes => .ok (.file bytes)
  | _ :: _, .file _ => .error .notDirectory
  | name :: path, .directory entries =>
    if isHere name then put parents leaf path (.directory entries)
    else
      match entries.lookup name with
      | some e =>
        (put parents leaf path e).map fun e => .directory (replaceEntry name e entries)
      | none =>
        if path.isEmpty then .ok (.directory (entries ++ [(name, leaf)]))
        else if parents then
          (put parents leaf path (.directory [])).map fun e => .directory (entries ++ [(name, e)])
        else .error .missing

/-- A text written to a path. A path that ends in a slash is a directory's, whether it is there or
not. -/
def write (text path : String) (e : Entry) : Except ReadError Entry :=
  let names := names path
  if names.getLast? = some "" then
    match follow (names.reverse.dropWhile (· == "")).reverse.dropLast e with
    | .error r => .error r
    | .ok (.file _) => .error .notDirectory
    | .ok (.directory _) => .error .isDirectory
  else put false (.file (Text.Utf8.encode text)) names e

end Entry

end Inquest

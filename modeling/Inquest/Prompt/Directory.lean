import Inquest.Entry
import Inquest.Prompt.Store

/-! # Prompts from a directory

Templates are files named by tag, role and kind, in a directory that also holds the two shared texts.
The system lists the directory in whatever order, with names that are bytes and need not be text.
`PromptStore.loadListing` takes the templates in the order of their names; files with other names,
directories and blank templates are passed over, and only a template or a shared text that cannot be
read fails.

* `fileStem`: the part of a file's name that says whether it is a template.
* `PromptStore.load`: the same from an entry that a path leads to.
-/

namespace Inquest

/-- A directory as the system lists it. -/
abbrev Listing := List (List UInt8 × Entry)

namespace Listing

/-- A new entry among those that stand in the order of their names. -/
def insert (e : List UInt8 × Entry) : Listing → Listing
  | [] => [e]
  | f :: rest => if f.1 < e.1 then f :: insert e rest else e :: f :: rest

/-- The entries in the order of their names' bytes. -/
def sorted (entries : Listing) : Listing := entries.foldr insert []

/-- What stands under a name. -/
def find (name : String) (entries : Listing) : Except Entry.ReadError Entry :=
  match entries.lookup (Text.Utf8.encode name) with
  | some e => .ok e
  | none => .error .missing

end Listing

/-- The byte of a point. -/
def pointByte : UInt8 := 0x2E

/-- A file's name without its extension: the last point and what follows it, unless nothing stands
before that point. -/
def fileStem (name : List UInt8) : List UInt8 :=
  match name.reverse.dropWhile (· != pointByte) with
  | [] | [_] => name
  | _ :: stem => stem.reverse

namespace PromptStore

/-- The tag of templates unless another is asked for. -/
def defaultTag : String := "prompt"

/-- The file with what the whole town knows. -/
def townMemoryFile : String := "town_collective_memory.txt"

/-- The file with the rules for every suspect. -/
def generalRulesFile : String := "general_rules.txt"

/-- A name as it is shown in a path. -/
def shown (name : List UInt8) : String := String.ofList (Text.Utf8.decodeLossy name)

/-- A read that fails is told with its path. -/
def reading {α : Type} (path : String) (r : Except Entry.ReadError α) : Except PromptError α :=
  r.mapError fun e => .unreadable path e.message

/-- The role and the kind that the name of a template's file tells. -/
def named? (tag : String) (name : List UInt8) : Option (String × Bool) := do
  let stem ← Text.Utf8.decode? (fileStem name)
  Template.ofStem? tag (String.ofList stem)

/-- The templates among files that stand in order, read where their names say that they are some. -/
def readTemplates (place tag : String) : Listing → Except PromptError (List Template)
  | [] => .ok []
  | (_, .directory _) :: rest => readTemplates place tag rest
  | (name, .file bytes) :: rest =>
    match named? tag name with
    | none => readTemplates place tag rest
    | some (role, isCulprit) => do
      let text ← reading (Entry.join place (shown name)) (Entry.file bytes).readText
      let others ← readTemplates place tag rest
      match Template.mk? role isCulprit text with
      | .ok t => return t :: others
      | .error _ => return others

/-- A shared text. -/
def readShared (place name : String) (entries : Listing) : Except PromptError String :=
  reading (Entry.join place name) (do (← entries.find name).readText)

/-- The prompts of a directory at `place`. -/
def loadListing (place tag : String) (entries : Listing) : Except PromptError PromptStore := do
  let templates ← readTemplates place tag entries.sorted
  let townMemory ← readShared place townMemoryFile entries
  let generalRules ← readShared place generalRulesFile entries
  return ⟨templates, townMemory, generalRules⟩

/-- The prompts of the directory at `place`, which is what `found` leads to. -/
def load (place tag : String) (found : Except Entry.ReadError Entry) :
    Except PromptError PromptStore := do
  match ← reading place found with
  | .file _ => throw (.unreadable place Entry.ReadError.notDirectory.message)
  | .directory entries =>
    loadListing place tag (entries.map fun (name, e) => (Text.Utf8.encode name, e))

end PromptStore

end Inquest

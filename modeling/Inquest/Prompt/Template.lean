import Inquest.Profile
import Inquest.Text.Search

/-! # Prompt templates

A `Template` is the text of the instructions for the suspects of one role, for the culprit or for the
others. Placeholders such as `{name}` stand for what differs between suspects and towns. The
name of a template's file tells the role and the kind (`ofStem?`).

* `text_mk?`: a template is made of its text unchanged.
-/

namespace Inquest

/-- The instructions for a role. -/
structure Template where
  role : String
  isCulprit : Bool
  text : String
  deriving DecidableEq

/-- Why instructions cannot be had. -/
inductive PromptError
  /-- A file or directory could not be read. -/
  | unreadable (path reason : String)
  | emptyTemplate (role : String)
  /-- No template is for the profile. -/
  | noTemplate (profile : Profile)
  /-- More than one template is for the profile. -/
  | manyTemplates (profile : Profile)
  deriving DecidableEq

/-- A truth value in words. -/
def boolText (b : Bool) : String := if b then "true" else "false"

/-- What went wrong, in words. -/
def PromptError.message : PromptError → String
  | .unreadable path reason => s!"Failed to read {path}: {reason}"
  | .emptyTemplate role => s!"Template for role '{role}' is empty"
  | .noTemplate p => s!"No template for '{p.name}' ({p.role}, culprit: {boolText p.isCulprit})"
  | .manyTemplates p =>
    s!"More than one template for '{p.name}' ({p.role}, culprit: {boolText p.isCulprit})"

namespace Template

/-- A template whose text is not blank. -/
def mk? (role : String) (isCulprit : Bool) (text : String) : Except PromptError Template :=
  let role := normalizeRole role
  if Text.isBlank text then .error (.emptyTemplate role) else .ok ⟨role, isCulprit, text⟩

theorem text_mk? {role text : String} {isCulprit : Bool} {t : Template}
    (h : mk? role isCulprit text = .ok t) : t = ⟨normalizeRole role, isCulprit, text⟩ := by
  cases hb : Text.isBlank text <;> simp only [mk?, hb, if_true, Bool.false_eq_true, if_false,
    Except.ok.injEq, reduceCtorEq] at h
  exact h.symm

/-- The kinds of template as a file name spells them. -/
def kindWord (isCulprit : Bool) : List Char :=
  if isCulprit then "culprit".toList else "regular".toList

/-- The role, as it is spelled, and the kind in a file's stem: the tag, the role and the kind with
underscores between them. -/
def splitStem? (tag stem : List Char) : Option (List Char × Bool) := do
  let rest ← Text.stripPrefix? tag stem
  let rest ← Text.stripPrefix? ['_'] rest
  let (role, kind) ← Text.splitLast? '_' rest
  if role.all Text.isBlankChar then none
  if kind = kindWord true then some (role, true)
  else if kind = kindWord false then some (role, false)
  else none

/-- The normalized role and the kind in a file's stem. -/
def ofStem? (tag stem : String) : Option (String × Bool) :=
  (splitStem? tag.toList stem.toList).map fun (role, isCulprit) =>
    (normalizeRole (String.ofList role), isCulprit)

/-- Whether a template is for a profile. -/
def isFor (t : Template) (p : Profile) : Bool :=
  t.isCulprit == p.isCulprit && t.role == p.role

/-- The placeholder of a variable: its name in braces. -/
def placeholder (key : String) : List Char := '\x7b' :: (key.toList ++ ['\x7d'])

/-- A text with every placeholder of a variable replaced. -/
def substitute (key value text : String) : String :=
  String.ofList (Text.replaceAll (placeholder key) value.toList text.toList)

/-- A template with a variable set. -/
def set (key value : String) (t : Template) : Template :=
  { t with text := substitute key value t.text }

/-- Role and kind on one line. -/
def display (t : Template) : String := s!"role:{t.role}-culprit:{boolText t.isCulprit}"

end Template

end Inquest

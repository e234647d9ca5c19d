import Inquest.Prompt.Template

/-! # Instructions for every suspect

A `PromptStore` holds the templates and the two texts that all suspects share. `resolve` finds the one
template for a profile and fills in its placeholders, one variable after the other.

* `resolve_of_filter`: what comes of a profile hangs on the templates that are for it alone.
-/

namespace Inquest

/-- The templates and the texts that they share. -/
structure PromptStore where
  templates : List Template
  townMemory : String
  generalRules : String

namespace PromptStore

/-- The values of the placeholders, in the order in which they are filled in. -/
def bindings (s : PromptStore) (p : Profile) : List (String × String) :=
  [("name", p.name), ("possessions", p.possessions), ("TOWN COLLECTIVE MEMORY", s.townMemory),
    ("general_rules", s.generalRules)]

/-- A template with its placeholders filled in. -/
def fill (s : PromptStore) (p : Profile) (t : Template) : String :=
  ((s.bindings p).foldl (fun t (key, value) => t.set key value) t).text

/-- The instructions for a profile. -/
def resolve (s : PromptStore) (p : Profile) : Except PromptError String :=
  match s.templates.filter fun t => t.isFor p with
  | [] => .error (.noTemplate p)
  | [t] => .ok (s.fill p t)
  | _ :: _ :: _ => .error (.manyTemplates p)

theorem resolve_of_filter {s : PromptStore} {p : Profile} {t : Template}
    (h : s.templates.filter (fun t => t.isFor p) = [t]) : s.resolve p = .ok (s.fill p t) := by
  unfold resolve
  rw [h]

end PromptStore

end Inquest

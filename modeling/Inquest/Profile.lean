import Inquest.Text.Blank
import Inquest.Text.Casing
import Inquest.Json.Decode

/-! # Who a suspect is

A `Profile` names a townsperson, their role, what they carry, and whether they are the culprit. Roles
are compared in one form (`normalizeRole`): without blanks at the ends, in small letters.

* `Profile.hasRole`: compares a role with that of a profile.
-/

namespace Inquest

/-- The form in which roles are compared. -/
def normalizeRole (role : String) : String := Text.lowercase (Text.trim role)

/-- A townsperson. -/
structure Profile where
  name : String
  role : String
  possessions : String
  isCulprit : Bool
  deriving DecidableEq

instance : Inhabited Profile := ⟨⟨"", "", "", false⟩⟩

namespace Profile

/-- A townsperson who is not the culprit, the role normalized. -/
def new (name role possessions : String) : Profile := ⟨name, normalizeRole role, possessions, false⟩

/-- Whether the person has a role, however it is spelled. -/
def hasRole (p : Profile) (role : String) : Bool := p.role == normalizeRole role

/-- A profile as data. -/
def toJson (p : Profile) : Json :=
  .obj [("name", .str p.name), ("role", .str p.role), ("possessions", .str p.possessions),
    ("is_culprit", .bool p.isCulprit)]

open Json in
/-- A profile in data; nobody is the culprit unless it is said. -/
def decode : Json.Decoder Profile := fun room d => do
  let found ← fieldsOf [required "name" text, required "role" text, required "possessions" text,
    defaulted "is_culprit" truth] room d
  return {
    name := ← found.get room "name" text
    role := ← found.get room "role" text
    possessions := ← found.get room "possessions" text
    isCulprit := ← found.getD room "is_culprit" truth false }

end Profile

end Inquest

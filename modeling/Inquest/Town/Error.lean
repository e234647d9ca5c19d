import Inquest.Evidence
import Inquest.Prompt.Template
import Inquest.Session.Send

/-! # What can go wrong in a town

The causes for which a town cannot be set up or a suspect cannot be talked to.
-/

namespace Inquest

/-- Why something cannot be done in a town. -/
inductive TownError
  | noProfiles
  | duplicateNpc (name : String)
  /-- Nobody can be the culprit under a rule. -/
  | noEligibleCulprit (rule : String)
  | unknownNpc (name : String)
  | indexOutOfRange (index size : Nat)
  /-- A save names another culprit than it marks. -/
  | culpritMismatch (saved marked : String)
  | prompt (e : PromptError)
  | evidence (e : Evidence.InjectError)
  | turn (e : TurnError)
  deriving DecidableEq

/-- What went wrong, in words. -/
def TownError.message : TownError → String
  | .noProfiles => "A town needs at least one NPC"
  | .duplicateNpc name => s!"Two NPCs are named '{name}'"
  | .noEligibleCulprit rule => s!"No NPC can be the culprit under {rule}"
  | .unknownNpc name => s!"No NPC named '{name}'"
  | .indexOutOfRange index size => s!"NPC index {index} out of range (town has {size})"
  | .culpritMismatch saved marked =>
    s!"Saved culprit '{saved}' does not match the marked NPC '{marked}'"
  | .prompt e => e.message
  | .evidence e => e.message
  | .turn e => e.message

end Inquest

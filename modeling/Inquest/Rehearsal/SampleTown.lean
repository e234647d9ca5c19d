import Inquest.Prompt.Store

/-! # A town to rehearse with

Three suspects and a template for every role, for the culprit and for the others.
-/

namespace Inquest.SampleTown

/-- The suspects. -/
def profiles : List Profile :=
  [.new "Hans" "Farmer" "a pitchfork, a rope", .new "Mara" "Innkeeper" "a ledger, a cellar key",
    .new "Otto" "Mayor" "the town seal"]

/-- What only the culprit knows, or only the others. -/
def secret (isCulprit : Bool) : String :=
  if isCulprit then "You poisoned the well. Never admit it." else "You did not poison the well."

/-- The template of a role. -/
def template (role : String) (isCulprit : Bool) : Template where
  role := role
  isCulprit := isCulprit
  text := "You are \x7bname\x7d, the " ++ role ++ ". You carry \x7bpossessions\x7d.\n" ++
    secret isCulprit ++ "\n\nWhat the town knows:\n\x7bTOWN COLLECTIVE MEMORY\x7d\n\n" ++
    "Rules:\n\x7bgeneral_rules\x7d\n\n[COLLECTED EVIDENCE]\n[END COLLECTED EVIDENCE]\n"

/-- The templates and the texts that they share. -/
def prompts : PromptStore where
  templates := ["farmer", "innkeeper", "mayor"].flatMap fun role =>
    [template role false, template role true]
  townMemory := "The village well was poisoned two nights ago."
  generalRules := "Stay in character. Answer in one or two sentences."

end Inquest.SampleTown

/-! # What can go wrong with the model

The causes for which a request to the model has no response.
-/

namespace Inquest

/-- Where an answer could not be understood. -/
inductive ParseSite
  /-- A whole body that is not JSON or was cut off. -/
  | body
  /-- JSON of another shape than a response. -/
  | response
  /-- One line of a stream. -/
  | line
  deriving Repr, DecidableEq

/-- Why a request has no response. -/
inductive ApiError
  | noApiKey
  | network (reason : String)
  /-- The answer's status was no success. -/
  | status (code : Nat) (body : String)
  | unreadable (site : ParseSite)
  | config (reason : String)
  /-- The model reported that it failed. -/
  | failed (reason : String)
  deriving DecidableEq

/-- What went wrong, in words. -/
def ApiError.message : ApiError → String
  | .noApiKey => "API key not configured"
  | .network reason => s!"Network error: {reason}"
  | .status code body => s!"API error (status {code}): {body}"
  | .unreadable .body => "Failed to parse response: not JSON"
  | .unreadable .response => "Failed to parse response: not a response"
  | .unreadable .line => "Failed to parse response: SSE parse error"
  | .config reason => s!"Invalid configuration: {reason}"
  | .failed reason => s!"Response failed: {reason}"

end Inquest

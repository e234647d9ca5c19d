import Inquest.Client.Exchange
import Inquest.Session.Basic
import Inquest.Town.Basic

/-! # The configuration of a game

Every setting has a default; `ofVariables` overlays those for which a variable has a value that is not
blank. The name of a model goes before the intelligence of the suspects.

* `boundedNat?`: a number in digits, of a bounded size.
-/

namespace Inquest

/-- Why a game cannot be configured. -/
inductive ConfigError
  /-- A variable's value makes no sense. -/
  | invalidValue (name value : String)
  /-- There is no client. -/
  | client (e : ApiError)
  deriving DecidableEq

/-- What went wrong, in words. -/
def ConfigError.message : ConfigError → String
  | .invalidValue name value => s!"Invalid value for {name}: '{value}'"
  | .client e => s!"Could not create model backend: {e.message}"

/-- The model for a level of intelligence. -/
def modelForIntelligence (level : Nat) : String :=
  match level with
  | 0 | 1 => "gpt-5-nano-2025-08-07"
  | 2 => "gpt-5-mini-2025-08-07"
  | _ => "gpt-5-2025-08-07"

/-- The value of digits after others, below a bound. -/
def digitsBelow? (bound : Nat) : (value : Nat) → List Char → Option Nat
  | value, [] => some value
  | value, c :: s => do
    let value := value * 10 + (← Json.digitValue? c)
    if value < bound then digitsBelow? bound value s else none

/-- A number below a bound in ASCII digits, a plus sign before them or not. -/
def boundedNat? (bound : Nat) (s : String) : Option Nat :=
  match s.toList with
  | [] => none
  | '+' :: [] => none
  | '+' :: digits => digitsBelow? bound 0 digits
  | digits => digitsBelow? bound 0 digits

/-- The configuration of a game. -/
structure Config where
  model : String
  effort : Effort
  promptsDir : String
  detective : String
  context : ContextStrategy
  /-- How many seconds a request may take. -/
  requestTimeout : Option Nat
  deriving DecidableEq

namespace Config

/-- The configuration unless another is given. -/
def default : Config where
  model := modelForIntelligence 1
  effort := .low
  promptsDir := "prompts"
  detective := Town.defaultDetective
  context := .previousResponse
  requestTimeout := none

/-- The value of a variable, unless it is blank. -/
def valueOf (lookup : String → Option String) (name : String) : Option String :=
  (lookup name).filter fun v => !Text.isBlank v

/-- A setting read from a variable; without one it stays as it is. -/
def overlay (lookup : String → Option String) (name : String)
    (set : Config → String → Option Config) (c : Config) : Except ConfigError Config :=
  match valueOf lookup name with
  | none => .ok c
  | some v =>
    match set c (Text.trim v) with
    | some c => .ok c
    | none => .error (.invalidValue name v)

/-- A setting taken from a variable as it is. -/
def overlayText (lookup : String → Option String) (name : String) (set : Config → String → Config)
    (c : Config) : Config :=
  match valueOf lookup name with
  | none => c
  | some v => set c v

/-- The model for the suspects' intelligence. -/
def withIntelligence (c : Config) (level : Nat) : Config :=
  { c with model := modelForIntelligence level }

/-- The configuration that variables give. -/
def ofVariables (lookup : String → Option String) : Except ConfigError Config := do
  let c ← overlay lookup "TOWN_SUSPECT_INTELLIGENCE"
    (fun c v => (boundedNat? 256 v).map c.withIntelligence) default
  let c := overlayText lookup "TOWN_MODEL" (fun c v => { c with model := Text.trim v }) c
  let c ← overlay lookup "TOWN_REASONING_EFFORT"
    (fun c v => (Effort.parse v).toOption.map fun e => { c with effort := e }) c
  let c := overlayText lookup "TOWN_PROMPTS_DIR" (fun c v => { c with promptsDir := v }) c
  let c := overlayText lookup "TOWN_DETECTIVE_NAME"
    (fun c v => { c with detective := Text.trim v }) c
  overlay lookup "TOWN_REQUEST_TIMEOUT_SECS"
    (fun c v => (boundedNat? 0x1_0000_0000_0000_0000 v).map fun n => { c with requestTimeout := some n }) c

/-- The settings of the sessions. -/
def settings (c : Config) : Settings :=
  { Settings.default with model := some c.model, effort := c.effort, context := c.context }

/-- The client of the model's service, with the key that was found. -/
def client (c : Config) (key : Option String) : Except ConfigError Client :=
  match Client.ofKey? key with
  | .ok client => .ok { client with model := c.model }
  | .error e => .error (.client e)

end Config

end Inquest

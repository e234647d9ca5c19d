import Inquest.Client.EventLines
import Inquest.Json.Document
import Inquest.Json.Printer
import Inquest.Model.Basic
import Inquest.Text.Blank

/-! # The client of the model's service

A `Client` sends requests to the service over HTTP and reads what comes back. What the service and the
network do is an `Exchange`: nothing, or a status with a body that arrives in chunks and may be cut off.

* `create`, `stream`: what the client makes of an exchange, for a whole response and for a stream.
* `prepare`: what is sent, or why nothing can be.
-/

namespace Inquest

/-- A client of the service. -/
structure Client where
  apiKey : String
  model : String
  baseUrl : String

namespace Client

/-- The model asked unless a request names another. -/
def defaultModel : String := "gpt-5-nano-2025-08-07"

/-- Where the service is unless another place is given. -/
def defaultBase : String := "https://api.openai.com/v1"

/-- A client with a key. -/
def new (apiKey : String) : Client := ⟨apiKey, defaultModel, defaultBase⟩

/-- A client with the key that was found, if one was; a blank key is none. -/
def ofKey? : Option String → Except ApiError Client
  | none => .error .noApiKey
  | some key => if Text.isBlank key then .error .noApiKey else .ok (new key)

/-- The client with another place of the service, slashes at the end left out. -/
def withBase (c : Client) (base : String) : Client :=
  { c with baseUrl := String.ofList (base.toList.reverse.dropWhile (· == '/')).reverse }

/-! ## What is sent -/

/-- A request as the service gets it. -/
structure Sent where
  url : String
  authorization : String
  contentType : String
  body : Json

/-- Whether a byte may stand in the value of a header. -/
def isHeaderByte (b : UInt8) : Bool := (32 ≤ b.toNat && b.toNat != 127) || b.toNat == 9

/-- What is sent for a request; a key that no header can hold is refused. -/
def prepare (c : Client) (r : Request) (stream : Bool) : Except ApiError Sent :=
  if (Text.Utf8.encode c.apiKey).all isHeaderByte then
    .ok ⟨c.baseUrl ++ "/responses", "Bearer " ++ c.apiKey, "application/json", r.body c.model stream⟩
  else .error (.config "Invalid API key: failed to parse header value")

/-! ## What comes back -/

/-- What the network and the service do with a request. -/
inductive Exchange
  /-- The service cannot be reached. -/
  | unreachable
  /-- The service takes the request and hangs up. -/
  | hangup
  /-- The service answers; the body arrives in chunks, and `cut` says that its end is missing. -/
  | answered (status : Nat) (chunks : List (List UInt8)) (cut : Bool)

/-- Whether the service gets the request. -/
def Exchange.arrives : Exchange → Bool
  | .unreachable => false
  | _ => true

/-- Whether a status is a success. -/
def isSuccess (status : Nat) : Bool := decide (200 ≤ status) && decide (status < 300)

/-- Nothing came back. -/
def noAnswer : ApiError := .network "no answer"

/-- The body of an answer that is no success. -/
def errorBody (chunks : List (List UInt8)) (cut : Bool) : String :=
  if cut then "" else String.ofList (Text.Utf8.decodeLossy chunks.flatten)

/-- The response of a whole body; a response that failed is an error. -/
def responseOfBody (body : List UInt8) : Except ApiError Response :=
  match (Text.Utf8.decode? body).map fun cs => Json.parse (String.ofList cs) with
  | some (.ok raw) => do
    let r ← Response.ofJson raw
    if r.status = .failed then
      throw (.failed ((Response.failureReason? raw).getD "unknown failure"))
    return r
  | _ => .error (.unreadable .body)

/-- The response that an exchange brings. -/
def create : Exchange → Except ApiError Response
  | .unreachable => .error noAnswer
  | .hangup => .error noAnswer
  | .answered status chunks cut =>
    if isSuccess status then
      if cut then .error (.unreadable .body) else responseOfBody chunks.flatten
    else .error (.status status (errorBody chunks cut))

/-- The events that an exchange brings. -/
def stream : Exchange → Except ApiError (List Received)
  | .unreachable => .error noAnswer
  | .hangup => .error noAnswer
  | .answered status chunks cut =>
    if isSuccess status then
      .ok ((receiveAll [] chunks).1 ++ if cut then [.error noAnswer] else [])
    else .error (.status status (errorBody chunks cut))

/-! ## The client as a model -/

/-- A service whose answers are known: those to come, the one given ever after, and the requests that
it got. -/
structure Service where
  exchanges : List Exchange
  afterwards : Exchange
  received : List Sent

/-- One request to a service. -/
def ask {α : Type} (c : Client) (s : Service) (r : Request) (streamed : Bool)
    (read : Exchange → Except ApiError α) : Answer α × Service :=
  match c.prepare r streamed with
  | .error e => (.came (.error e), s)
  | .ok sent =>
    let exchange := s.exchanges.headD s.afterwards
    let received := if exchange.arrives then s.received ++ [sent] else s.received
    (.came (read exchange), ⟨s.exchanges.tail, s.afterwards, received⟩)

/-- The client as a model, over a service whose answers are known. -/
def asModel (c : Client) : Model Service where
  respond s r := c.ask s r false create
  stream s r := c.ask s r true stream

end Client

end Inquest

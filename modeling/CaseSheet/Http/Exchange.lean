import CaseSheet.Http.Endpoint
import CaseSheet.Http.Headers
import CaseSheet.Http.Response
import CaseSheet.Json.Read
import CaseSheet.Session
/-!
# Exchanges

One exchange takes a call, sends at most one request for it and folds every outcome into a
response. The other end is a `Transport`: it answers a request in the light of everything sent
before it. An exchange threads the list of requests sent so far; it is extended by the one request
of a call whose method is known and whose endpoint resolves, and by nothing otherwise.
-/

namespace CaseSheet.Http

/-- A span of time in whole seconds and nanoseconds. -/
structure Span where
  secs : Nat
  nanos : Nat
deriving DecidableEq, Repr, Inhabited

namespace Span

def ofSecs (n : Nat) : Span := ⟨n, 0⟩

def ofMillis (n : Nat) : Span := ⟨n / 1000, n % 1000 * 1000000⟩

end Span

/-- A request as it is handed to the transport. -/
structure Request where
  method : Method
  url : Url
  headers : Headers
  body : Option Json.Value
  timeout : Span

/-- What the transport returns for an answered request. -/
structure Reply where
  status : Nat
  /-- Header names and values in increasing order of the names. -/
  headers : List (String × String)
  body : String

/-- Why the transport has no reply. -/
inductive TransportError where
  | connect (detail : String)
  | timeout (detail : String)
  | other (detail : String)
deriving DecidableEq, Repr

def TransportError.cause : TransportError → FailureCause
  | .connect detail => .connect detail
  | .timeout detail => .timeout detail
  | .other detail => .other detail

/-- Answers a request, given all requests sent before it. -/
abbrev Transport : Type := List Request → Request → Except TransportError Reply

/-- What a caller asks for; the method is still a text. -/
structure Call where
  method : String
  endpoint : String
  body : Option Json.Value
  headers : Headers
  expectedStatus : Nat

/-- The outcome of a call. -/
structure Execution where
  /-- Whether an answer came back with the expected status. -/
  matched : Bool
  response : Response

/-- The time a request may take unless another is given. -/
def defaultTimeout : Span := .ofSecs 30

/-- The decoded body of a reply: its JSON value, or an object that holds the text as it is. -/
def Reply.data (r : Reply) : Json.Value :=
  match Json.parse? r.body.toList with
  | some v => v
  | none => .object (Fields.ofList [("text", .string r.body), ("status_code", .ofNat r.status)])

/-- The request of a call, or why there is none. -/
def Call.request [Url.Idna] (c : Call) (timeout : Span) (session : Session) :
    Except FailureCause Request :=
  match Method.ofText? c.method with
  | none => .error (.unsupportedMethod c.method)
  | some method =>
    match resolve session.baseUrl c.endpoint with
    | .error e => .error (.unresolved c.endpoint e)
    | .ok url => .ok {
        method, url, timeout
        headers := .build c.headers session.token
        body := c.body }

/-- The outcome of a request, from what the transport returns for it. -/
def Execution.ofReply (expectedStatus : Nat) (request : Request) :
    Except TransportError Reply → Execution
  | .ok reply => {
      matched := reply.status == expectedStatus
      response := .answered {
        status := reply.status
        data := reply.data
        headers := reply.headers
        url := request.url.text
        method := request.method.name } }
  | .error e => { matched := false, response := .ofCause e.cause }

/-- Makes a call: the outcome, and the requests sent so far. -/
def Call.execute [Url.Idna] (c : Call) (send : Transport) (timeout : Span) (session : Session)
    (sent : List Request) : Execution × List Request :=
  match c.request timeout session with
  | .error cause => ({ matched := false, response := .ofCause cause }, sent)
  | .ok request =>
    (.ofReply c.expectedStatus request (send sent request), sent ++ [request])

end CaseSheet.Http

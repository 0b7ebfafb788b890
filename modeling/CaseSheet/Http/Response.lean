import CaseSheet.Json.Value
import CaseSheet.Http.Method
import CaseSheet.Url.Basic
import CaseSheet.Number.Digits
/-!
# What comes back

A response is either an answer of the server or a failure to get one. A failure has a kind and a
text; each cause that this library knows has one wording.
-/

namespace CaseSheet.Http

/-- The kinds of failure. -/
inductive FailureKind where
  | connection
  | timeout
  | unsupportedMethod
  | other
deriving DecidableEq, Repr

namespace FailureKind

/-- The kind in words, as reports show it. -/
def describe : FailureKind → String
  | .connection => "connection error"
  | .timeout => "timeout"
  | .unsupportedMethod => "unsupported method"
  | .other => "error"

/-- The kind as it is stored. -/
def key : FailureKind → String
  | .connection => "connection"
  | .timeout => "timeout"
  | .unsupportedMethod => "unsupported_method"
  | .other => "other"

end FailureKind

/-- Why no request was answered, or none was sent. -/
inductive FailureCause where
  | unsupportedMethod (name : String)
  | unresolved (endpoint : String) (error : Url.ParseError)
  | connect (detail : String)
  | timeout (detail : String)
  | other (detail : String)
deriving DecidableEq, Repr

namespace FailureCause

def kind : FailureCause → FailureKind
  | .unsupportedMethod _ => .unsupportedMethod
  | .unresolved _ _ => .other
  | .connect _ => .connection
  | .timeout _ => .timeout
  | .other _ => .other

def message : FailureCause → String
  | .unsupportedMethod name => unsupportedMethodMessage name
  | .unresolved endpoint error => s!"invalid URL for endpoint '{endpoint}': " ++ error.message
  | .connect detail => s!"connection failed: {detail} - check that the server is running"
  | .timeout detail => s!"request timed out: {detail}"
  | .other detail => s!"request failed: {detail}"

end FailureCause

/-- An answer with its decoded body. -/
structure Answer where
  status : Nat
  data : Json.Value
  /-- Header names and values in increasing order of the names. -/
  headers : List (String × String)
  url : String
  method : String

/-- The outcome of a request. -/
inductive Response where
  | answered (answer : Answer)
  | failed (kind : FailureKind) (message : String)

namespace Response

/-- The response that reports a cause of failure. -/
def ofCause (c : FailureCause) : Response := .failed c.kind c.message

def isFailure : Response → Bool
  | .answered _ => false
  | .failed _ _ => true

def status? : Response → Option Nat
  | .answered a => some a.status
  | .failed _ _ => none

def data? : Response → Option Json.Value
  | .answered a => some a.data
  | .failed _ _ => none

/-- The shape of decoded data, in a few words. -/
def describeShape : Json.Value → String
  | .array items => "JSON array (" ++ Digits.text items.length ++ " items)"
  | .object fields =>
    let keys := ", ".intercalate ((fields.take 3).map (·.1))
    "JSON object (keys: " ++ keys ++ (if 3 < fields.length then ", ..." else "") ++ ")"
  | .null => "data type: null"
  | .bool _ => "data type: boolean"
  | .number _ => "data type: number"
  | .string _ => "data type: string"

/-- What came back, in a few words. -/
def describe : Response → String
  | .failed kind message => "error (" ++ kind.describe ++ "): " ++ message
  | .answered a =>
    match a.status with
    | 200 => "200 OK, " ++ describeShape a.data
    | 201 => "201 Created"
    | 400 => "400 Bad Request"
    | 401 => "401 Unauthorized"
    | 404 => "404 Not Found"
    | 409 => "409 Conflict"
    | n => Digits.text n ++ " response"

/-- A response as a JSON value, its fields in the order in which they are written. -/
def toJson : Response → Json.Value
  | .answered a => .object [
      ("status_code", .ofNat a.status),
      ("data", a.data),
      ("headers", .object (a.headers.map fun h => (h.1, .string h.2))),
      ("url", .string a.url),
      ("method", .string a.method)]
  | .failed kind message => .object [
      ("error", .string message),
      ("kind", .string kind.key)]

end Response
end CaseSheet.Http

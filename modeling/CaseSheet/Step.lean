import CaseSheet.Http.Method
import CaseSheet.Json.Read
import CaseSheet.Text.Lines
import CaseSheet.Text.Search
/-!
# Steps

The step column of a case describes a request in a few lines. The first line with something on it
names the method and the endpoint; a later line that is a JSON object on its own is the body. A
step that does not start with a GET or POST line stands for a fallback request, so that every step
has a meaning.
-/

namespace CaseSheet

/-- The request that a step asks for. -/
structure Intent where
  method : Http.Method
  endpoint : String
  /-- Present for POST. -/
  body : Option Json.Value
  /-- The status that counts unless the expectation names one. -/
  expectedStatus : Nat

namespace Intent

/-- The endpoint of the fallback request, unless another is given. -/
def defaultEndpoint : String := "/api/v1/trends"

/-- A GET request. -/
def ofGet (endpoint : String) : Intent :=
  { method := .get, endpoint, body := none, expectedStatus := 200 }

/-- Whether a line is made to be a body: it starts and ends with a brace. -/
def isBodyLine (l : List Char) : Bool := Text.startsWith ['\x7b'] l && Text.endsWith ['\x7d'] l

/-- The body among the lines behind the first: the first one between braces counts, and the empty
object stands in for a missing or malformed one. -/
def bodyOf (later : List (List Char)) : Json.Value :=
  ((later.find? isBodyLine).bind Json.parse?).getD .emptyObject

/-- A POST request; signing up creates something. -/
def ofPost (endpoint : String) (later : List (List Char)) : Intent :=
  { method := .post
    endpoint
    body := some (bodyOf later)
    expectedStatus := if mentions endpoint "/signup" then 201 else 200 }

/-- The request that the filled lines of a step ask for. -/
def ofLines (fallback : String) : List (List Char) → Intent
  | [] => ofGet fallback
  | first :: later =>
    match Text.stripStart? "GET ".toList first with
    | some rest => ofGet (String.ofList (Text.trim rest))
    | none =>
      match Text.stripStart? "POST ".toList first with
      | some rest => ofPost (String.ofList (Text.trim rest)) later
      | none => ofGet fallback

/-- The request that a step asks for, with the endpoint of the fallback request. -/
def ofStep (fallback step : String) : Intent := ofLines fallback (Text.filledLines step.toList)

end Intent
end CaseSheet

import CaseSheet.Text.Letters
import CaseSheet.Text.Search
import CaseSheet.Number.Digits
/-!
# Expectations

The expected result of a case is prose. Of it count the status codes that it names, whether it asks
for a JSON array or for JSON at all, and whether a failed connection is what it expects. A code is
named where it stands between characters that are not ASCII digits.
-/

namespace CaseSheet

/-- A status that an expectation can name. -/
inductive StatusToken where
  | ok
  | created
  | badRequest
  | unauthorized
  | notFound
  | conflict
  | payloadTooLarge
deriving DecidableEq, Repr

namespace StatusToken

/-- All of them, in increasing order of their codes. -/
def all : List StatusToken :=
  [.ok, .created, .badRequest, .unauthorized, .notFound, .conflict, .payloadTooLarge]

def code : StatusToken → Nat
  | .ok => 200
  | .created => 201
  | .badRequest => 400
  | .unauthorized => 401
  | .notFound => 404
  | .conflict => 409
  | .payloadTooLarge => 413

/-- The status with a code. -/
def ofCode? (n : Nat) : Option StatusToken := all.find? fun t => t.code == n

theorem code_injective {s t : StatusToken} (h : s.code = t.code) : s = t := by
  cases s <;> cases t <;> simp_all [code]

theorem mem_all (t : StatusToken) : t ∈ all := by cases t <;> decide

end StatusToken

namespace Text

/-- Whether a text is empty or starts with a character that is not a digit. -/
def startsOutsideNumber : List Char → Bool
  | [] => true
  | c :: _ => !Digits.isDigit c

/-- Whether `word` stands in a text with no digit on either side; `fresh` says that no digit stands
before the text. -/
def standsAlone (word : List Char) : Bool → List Char → Bool
  | fresh, [] => fresh && word.isEmpty
  | fresh, c :: r =>
    (fresh && (match stripStart? word (c :: r) with
      | some rest => startsOutsideNumber rest
      | none => false)) ||
    standsAlone word (!Digits.isDigit c) r

end Text

/-- What an expected result asks of a response. -/
structure Expectation where
  /-- The statuses it names, in increasing order of their codes. -/
  codes : List StatusToken
  array : Bool
  json : Bool
  failure : Bool
deriving DecidableEq, Repr

namespace Expectation

/-- Words that ask for a JSON array. -/
def arrayMarkers : List String := ["배열", "array"]

/-- The word that asks for JSON. -/
def jsonMarker : String := "json"

/-- Words that expect a failure. -/
def failureMarkers : List String :=
  ["연결실패", "연결 실패", "실패", "connection failure", "failure", "failed"]

/-- Whether one of the words stands in a text. -/
def anyMarker (markers : List String) (cs : List Char) : Bool :=
  markers.any fun m => Text.contains m.toList cs

/-- Reads an expected result. -/
def classify (text : String) : Expectation :=
  let cs := text.toList
  let lowered := Text.lower cs
  let array := anyMarker arrayMarkers lowered
  { codes := StatusToken.all.filter fun t => Text.standsAlone (Digits.ofNat t.code) true cs
    array
    json := !array && Text.contains jsonMarker.toList lowered
    failure := anyMarker failureMarkers lowered }

/-- The status that takes the place of the one of the step. -/
def primary? (e : Expectation) : Option Nat := e.codes.head?.map StatusToken.code

/-- The expected status, given the one of the step. -/
def statusOr (e : Expectation) (default : Nat) : Nat := e.primary?.getD default

/-- Whether a status is among those named; without any, every status is fine. -/
def accepts (e : Expectation) (status : Nat) : Bool :=
  e.codes.isEmpty || e.codes.any fun t => t.code == status

end Expectation
end CaseSheet

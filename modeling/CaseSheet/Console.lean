import CaseSheet.Expectation
import CaseSheet.Json.Write
import CaseSheet.Result
import CaseSheet.Step
import CaseSheet.Text.Lines
/-!
# What a reader sees

The lines on a run and on single cases, with colours if they are wanted. Long payloads are cut.
-/

namespace CaseSheet

/-- When the payload of a response is shown. -/
inductive ShowResponse where
  | always
  | onFailure
  | never
deriving DecidableEq, Repr

/-- The colours of texts. -/
inductive Colour where
  | green
  | red
  | yellow
  | cyan
  | dim
deriving DecidableEq, Repr

namespace Colour

/-- The escape sequence that starts a colour. -/
def code : Colour → String
  | .green => "\x1b[32m"
  | .red => "\x1b[31m"
  | .yellow => "\x1b[33m"
  | .cyan => "\x1b[36m"
  | .dim => "\x1b[2m"

/-- The escape sequence that ends any colour. -/
def reset : String := "\x1b[0m"

/-- A text in a colour. -/
def paint (c : Colour) (s : String) : String := c.code ++ s ++ reset

end Colour

/-- How output looks. -/
structure Console where
  payloads : ShowResponse := .onFailure
  /-- How many characters of a payload are shown. -/
  truncateAt : Nat := 400
  colours : Bool := false
deriving DecidableEq, Repr

namespace Console

/-- Output that always shows payloads. -/
def verbose : Console := { payloads := .always }

/-- Output that never shows payloads. -/
def quiet : Console := { payloads := .never }

/-- Whether the payload of a case is shown. -/
def showsResponse (o : Console) (passed : Bool) : Bool :=
  match o.payloads with
  | .always => true
  | .onFailure => !passed
  | .never => false

/-- A text in a colour, if colours are wanted. -/
def paint (o : Console) (c : Colour) (s : String) : String := if o.colours then c.paint s else s

/-- A text cut to the wanted length, the last three characters being dots. -/
def truncate (o : Console) (s : String) : String :=
  if s.length ≤ o.truncateAt then s
  else String.ofList (s.toList.take (o.truncateAt - 3)) ++ "..."

/-- The line in front of a result. -/
def progress (o : Console) (index total : Nat) (c : TestCase) : String :=
  o.paint .dim ("[" ++ Digits.text index ++ "/" ++ Digits.text total ++ "]") ++ " " ++
    o.paint .cyan c.id ++ " - " ++ c.name

/-- The verdict on a case; what was expected is shown of failing cases only. -/
def result (o : Console) (r : CaseResult) : String :=
  let mark := if r.passed then o.paint .green "✓" else o.paint .red "✗"
  "  " ++ mark ++ " " ++ r.outcome.verdict.word ++ " " ++ r.outcome.actual ++ " (" ++
    r.elapsed.text ++ ")" ++
    (if r.passed then "" else "\n    └─ expected: " ++ r.outcome.testCase.expected)

/-- The lines of a payload. -/
def payload (o : Console) (v : Json.Value) : String :=
  let lines := Text.lines (o.truncate v.pretty).toList
  "    " ++ o.paint .yellow "Response:" ++ "\n" ++
    String.join (lines.map fun l => "      " ++ String.ofList l ++ "\n")

/-- The lines of the payload of a result, if it is shown. -/
def response (o : Console) (r : CaseResult) : String :=
  if o.showsResponse r.passed then o.payload r.outcome.response.toJson else ""

/-- What an expectation asks for besides a status, in words. -/
def shapeWords (e : Expectation) : List String :=
  (if e.array then ["array"] else []) ++ (if e.json then ["json"] else []) ++
    (if e.failure then ["failure-ok"] else [])

/-- How a case will be understood. -/
def inspection (o : Console) (c : TestCase) (i : Intent) (e : Expectation) (status : Nat) :
    String :=
  let codes := e.codes.map fun t => Digits.text t.code
  o.paint .cyan c.id ++ " - " ++ c.name ++ "\n" ++
  "  request : " ++ i.method.name ++ " " ++ i.endpoint ++ "\n" ++
  (match i.body with
    | some v => "  body    : " ++ o.truncate v.compact ++ "\n"
    | none => "") ++
  "  status  : " ++ Digits.text status ++ "\n" ++
  "  accepts : [" ++ ", ".intercalate codes ++ "] " ++ " ".intercalate (shapeWords e) ++ "\n" ++
  (if isBlankText c.precondition then "" else "  precond : " ++ c.precondition ++ "\n")

/-- The mark of a category: all passed, at least half, or fewer. -/
def categoryMark (o : Console) (rate : Double) : String :=
  if rate.atLeast 100 then o.paint .green "✓"
  else if rate.atLeast 50 then o.paint .yellow "!"
  else o.paint .red "✗"

/-- The lines of a category. -/
def category (o : Console) (c : CategorySummary) : String :=
  "  " ++ o.categoryMark c.passRate ++ " " ++ c.category ++ ": " ++ Digits.text c.passed ++ "/" ++
    Digits.text c.total ++ " (" ++ rateText c.passRate ++ ")\n" ++
  (if c.failedIds.isEmpty then "" else "      failed: " ++ ", ".intercalate c.failedIds ++ "\n")

/-- The lines at the end of a run. -/
def summary (o : Console) (s : RunSummary) : String :=
  let headline := "Results: " ++ Digits.text s.passed ++ "/" ++ Digits.text s.total ++
    " passed (" ++ rateText s.passRate ++ ")"
  o.paint (if s.allPassed then .green else .red) headline ++ "\n" ++
    String.join (s.categories.map o.category) ++ "\n" ++ s.recommendation.message ++ "\n"

end Console
end CaseSheet

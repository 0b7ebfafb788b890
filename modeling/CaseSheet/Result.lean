import CaseSheet.Calendar
import CaseSheet.Http.Exchange
import CaseSheet.Number.Places
import CaseSheet.Summary
/-!
# Results

What came of a case, with the time that it took and the instant at which it ended. Every export of
results is made from these.
-/

namespace CaseSheet

/-- The result of a case that was run. -/
structure CaseResult where
  outcome : CaseOutcome
  elapsed : Http.Span
  finishedAt : Instant

namespace Http.Span

/-- The span in seconds, the nanoseconds being rounded before they are added. -/
def seconds (s : Span) : Double := (Double.ofNat s.secs).add (.ofRatio s.nanos 1000000000)

/-- The seconds with two decimal places. -/
def text (s : Span) : String := String.ofList (Places.ofDouble 2 s.seconds) ++ "s"

end Http.Span

namespace CaseResult

def id (r : CaseResult) : String := r.outcome.id

def name (r : CaseResult) : String := r.outcome.testCase.name

def passed (r : CaseResult) : Bool := r.outcome.passed

end CaseResult

namespace RunSummary

def ofResults (results : List CaseResult) : RunSummary := ofOutcomes (results.map (·.outcome))

end RunSummary

/-- A rate in percent with one decimal place. -/
def rateText (rate : Double) : String := String.ofList (Places.ofDouble 1 rate) ++ "%"

end CaseSheet

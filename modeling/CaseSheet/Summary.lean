import CaseSheet.Runner
import CaseSheet.Number.Double
/-!
# Summaries

Counts of passes and failures, over a whole run and by category. Categories are listed in the order
in which they first occur, each with the ids of its failing cases in run order.
-/

namespace CaseSheet

namespace CaseOutcome

def id (o : CaseOutcome) : String := o.testCase.id

def category (o : CaseOutcome) : String := o.testCase.category

def passed (o : CaseOutcome) : Bool := o.verdict.isPass

end CaseOutcome

/-- A share in percent; none of nothing is zero. -/
def percent (part whole : Nat) : Double :=
  if whole = 0 then .zero else .ofRatio (part * 100) whole

/-- The counts of one category. -/
structure CategorySummary where
  category : String
  total : Nat
  passed : Nat
  /-- Failing ids in run order. -/
  failedIds : List String
deriving DecidableEq, Repr

namespace CategorySummary

/-- A category of which nothing has been counted. -/
def empty (category : String) : CategorySummary :=
  { category, total := 0, passed := 0, failedIds := [] }

/-- Counts one more outcome. -/
def count (s : CategorySummary) (o : CaseOutcome) : CategorySummary :=
  if o.passed then { s with total := s.total + 1, passed := s.passed + 1 }
  else { s with total := s.total + 1, failedIds := s.failedIds ++ [o.id] }

def failed (s : CategorySummary) : Nat := s.total - s.passed

def passRate (s : CategorySummary) : Double := percent s.passed s.total

/-- Counts an outcome under its category, which comes last if it is new. -/
def add (o : CaseOutcome) : List CategorySummary → List CategorySummary
  | [] => [(empty o.category).count o]
  | s :: ss => if s.category = o.category then s.count o :: ss else s :: add o ss

/-- The summaries of all categories. -/
def ofOutcomes (os : List CaseOutcome) : List CategorySummary :=
  os.foldl (fun acc o => add o acc) []

end CategorySummary

/-- What a pass rate recommends. -/
inductive Recommendation where
  | allPassed
  | mostlyPassing
  | needsAttention
  | critical
deriving DecidableEq, Repr

namespace Recommendation

/-- All passed from a hundred percent, mostly from eighty, in need of attention from fifty. -/
def ofRate (rate : Double) : Recommendation :=
  if rate.atLeast 100 then .allPassed
  else if rate.atLeast 80 then .mostlyPassing
  else if rate.atLeast 50 then .needsAttention
  else .critical

def message : Recommendation → String
  | .allPassed => "All tests passed. Ready to ship."
  | .mostlyPassing => "Most tests passed. Check the failing cases."
  | .needsAttention => "Some important features may be broken. Investigate the failures."
  | .critical => "Many tests failed. The system needs a full check."

end Recommendation

/-- The counts of a whole run. -/
structure RunSummary where
  total : Nat
  passed : Nat
  failed : Nat
  categories : List CategorySummary
deriving DecidableEq, Repr

namespace RunSummary

def ofOutcomes (os : List CaseOutcome) : RunSummary :=
  let passed := (os.filter CaseOutcome.passed).length
  { total := os.length
    passed
    failed := os.length - passed
    categories := CategorySummary.ofOutcomes os }

def passRate (s : RunSummary) : Double := percent s.passed s.total

def allPassed (s : RunSummary) : Bool := s.failed == 0

def recommendation (s : RunSummary) : Recommendation := .ofRate s.passRate

end RunSummary
end CaseSheet

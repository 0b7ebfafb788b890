import CaseSheet.Result
/-!
# The report

A run as a Markdown text: the counts, the rate of each category, every case, the failing cases once
more, and a recommendation. Texts of cases are put in as they are.
-/

namespace CaseSheet.Report

/-- The mark in front of a case. -/
def mark (passed : Bool) : String := if passed then "✅" else "❌"

def overview (s : RunSummary) : String :=
  "## Overview\n" ++
  "- **Total**: " ++ Digits.text s.total ++ "\n" ++
  "- **Passed**: " ++ Digits.text s.passed ++ " ✅\n" ++
  "- **Failed**: " ++ Digits.text s.failed ++ " ❌\n" ++
  "- **Pass rate**: " ++ rateText s.passRate ++ "\n\n"

def categoryLine (c : CategorySummary) : String :=
  "- **" ++ c.category ++ "**: " ++ Digits.text c.passed ++ "/" ++ Digits.text c.total ++ " (" ++
    rateText c.passRate ++ ")\n"

/-- What the report says of a case; what was expected is shown of failing cases only. -/
def detail (r : CaseResult) : String :=
  "### " ++ mark r.passed ++ " " ++ r.id ++ " - " ++ r.name ++ "\n" ++
  "- **Actual**: " ++ r.outcome.actual ++ "\n" ++
  "- **Elapsed**: " ++ r.elapsed.text ++ "\n" ++
  (if r.passed then "" else "- **Expected**: " ++ r.outcome.testCase.expected ++ "\n") ++ "\n"

def failureLine (r : CaseResult) : String :=
  "- **" ++ r.id ++ "**: " ++ r.name ++ " - " ++ r.outcome.actual ++ "\n"

/-- The failing cases, if there are any. -/
def failures (results : List CaseResult) : String :=
  match results.filter fun r => !r.passed with
  | [] => ""
  | failed => "## Failed Cases\n\n" ++ String.join (failed.map failureLine) ++ "\n"

/-- The report on results, made at a local time. -/
def markdown (results : List CaseResult) (madeAt : DateTime) : String :=
  if results.isEmpty then "No test results.\n"
  else
    let summary := RunSummary.ofResults results
    "# API Test Report\n\n" ++ overview summary ++
    "## Results by Category\n" ++ String.join (summary.categories.map categoryLine) ++
    "\n## Details\n\n" ++ String.join (results.map detail) ++ failures results ++
    "## Recommendation\n" ++ summary.recommendation.message ++ "\n\n---\n" ++
    "**Generated**: " ++ madeAt.text ++ "\n"

end CaseSheet.Report

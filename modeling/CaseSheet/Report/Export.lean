import CaseSheet.Csv.Write
import CaseSheet.FileTree
import CaseSheet.Json.Write
import CaseSheet.Report.Markdown
import CaseSheet.Sheet.Column
import CaseSheet.Sheet.Csv
/-!
# Saved results

Results are saved under names that carry the local time, as JSON, as comma-separated values, or as
both, and always with the report. The newest JSON and the newest report are also kept under names of
their own. The saved sheets have the columns of a case sheet and four more.
-/

namespace CaseSheet.Report

/-! ## Columns -/

def actualTitle : String := "실제결과"
def verdictTitle : String := "Pass/Fail"
def elapsedTitle : String := "실행시간"
def timestampTitle : String := "타임스탬프"
def responseTitle : String := "응답데이터"

/-! ## JSON -/

/-- The seconds of a span to the nearest hundredth. -/
def hundredths (s : Http.Span) : Double :=
  ((s.seconds.mul (.ofNat 100)).round).div (.ofNat 100)

/-- A result as a JSON value, its fields in the order in which they are written. -/
def jsonOf (r : CaseResult) : Json.Value :=
  .object ((Column.all.map fun c => (c.title, .string (r.outcome.testCase.cell c))) ++ [
    (actualTitle, .string r.outcome.actual),
    (verdictTitle, .string r.outcome.verdict.word),
    (elapsedTitle, .number (.double (hundredths r.elapsed))),
    (timestampTitle, .string (r.finishedAt.textWith "Z")),
    (responseTitle, r.outcome.response.toJson)])

/-- The JSON text of results. -/
def json (results : List CaseResult) : String := (Json.Value.array (results.map jsonOf)).pretty

/-! ## Comma-separated values -/

/-- The titles of the columns of a saved sheet. -/
def titles : List String :=
  [Column.id, .category, .name, .precondition, .steps, .expected].map Column.title ++
    [actualTitle, verdictTitle, Column.notes.title, elapsedTitle, timestampTitle]

/-- The record of a result. -/
def record (r : CaseResult) : List String :=
  [Column.id, .category, .name, .precondition, .steps, .expected].map r.outcome.testCase.cell ++
    [r.outcome.actual, r.outcome.verdict.word, r.outcome.testCase.notes, r.elapsed.text,
      r.finishedAt.textWith "+00:00"]

/-- The records of results, with the titles in front if there are any. -/
def records (results : List CaseResult) : List (List String) :=
  if results.isEmpty then [] else titles :: results.map record

/-- The sheet of results. -/
def csv (results : List CaseResult) : String :=
  String.ofList (Sheet.byteOrderMark :: Csv.write (records results))

/-! ## Files -/

/-- Which exports are saved beside the report. -/
inductive ExportFormat where
  | json
  | csv
  | both
deriving DecidableEq, Repr

namespace ExportFormat

def hasJson : ExportFormat → Bool
  | .json | .both => true
  | .csv => false

def hasCsv : ExportFormat → Bool
  | .csv | .both => true
  | .json => false

end ExportFormat

/-- Why results are not saved: a directory or file cannot be written. -/
structure SaveProblem where
  path : String
  problem : FileProblem
deriving DecidableEq, Repr

namespace SaveProblem

/-- The wording of a problem. -/
def message (p : SaveProblem) : String :=
  "IO error writing " ++ quotedPath p.path ++ ": " ++ p.problem.message

/-- The wording of a problem and of what lies behind it. -/
def chain (p : SaveProblem) : List String := [p.message, p.problem.message]

end SaveProblem

/-- Where results have been saved. -/
structure Saved where
  json : Option String
  csv : Option String
  report : String
  latestReport : String
deriving DecidableEq, Repr

/-- A file to be written. -/
structure Output where
  path : String
  text : String
deriving DecidableEq, Repr

def latestJsonName : String := "latest_test_results.json"
def latestReportName : String := "latest_test_report.md"
def jsonName (now : DateTime) : String := "test_results_" ++ now.stamp ++ ".json"
def csvName (now : DateTime) : String := "test_results_" ++ now.stamp ++ ".csv"
def reportName (now : DateTime) : String := "test_report_" ++ now.stamp ++ ".md"

/-- The files that are written for results, in order. -/
def outputs (results : List CaseResult) (dir : String) (format : ExportFormat) (now : DateTime) :
    List Output :=
  let file := fun name text => Output.mk (Path.join dir name) text
  (if format.hasJson then
    [file (jsonName now) (json results), file latestJsonName (json results)] else []) ++
  (if format.hasCsv then [file (csvName now) (csv results)] else []) ++
  [file (reportName now) (markdown results now), file latestReportName (markdown results now)]

/-- Where the files for results are. -/
def saved (dir : String) (format : ExportFormat) (now : DateTime) : Saved :=
  { json := if format.hasJson then some (Path.join dir (jsonName now)) else none
    csv := if format.hasCsv then some (Path.join dir (csvName now)) else none
    report := Path.join dir (reportName now)
    latestReport := Path.join dir latestReportName }

/-- Writes files one after the other, up to the first that cannot be written. -/
def writeAll : List Output → FileStore → Except SaveProblem Unit × FileStore
  | [], files => (.ok (), files)
  | o :: rest, files =>
    match files.writeText o.path o.text with
    | .ok files => writeAll rest files
    | .error e => (.error ⟨o.path, e⟩, files)

/-- Saves results in a directory, which is made if it is not there; what has been made and written
before a problem stays. -/
def save (results : List CaseResult) (dir : String) (format : ExportFormat) (now : DateTime)
    (files : FileStore) : Except SaveProblem Saved × FileStore :=
  match files.createDirs dir with
  | .error (e, files) => (.error ⟨dir, e⟩, files)
  | .ok files =>
    let (done, files) := writeAll (outputs results dir format now) files
    (done.map fun _ => saved dir format now, files)

end CaseSheet.Report

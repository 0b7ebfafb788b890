import CaseSheet.Command.Arguments
import CaseSheet.Command.Target
import CaseSheet.Console
/-!
# Running case files

Each file is run in a session of its own, whatever happens to the others. A file counts as passed
if it loads, all its selected cases pass, and its results are saved; one without selected cases
counts as passed as well, and nothing is saved for it.
-/

namespace CaseSheet.Command

/-- The readings of the clocks: for each case, counted over all files, how long it took and when it
ended; for each time that results are saved, the local time. -/
structure Clock where
  elapsed : Nat → Http.Span
  finishedAt : Nat → Instant
  savedAt : Nat → DateTime

/-- What a run meets outside the program. -/
structure World where
  send : Http.Transport
  clock : Clock
  /-- Whether the reader sees colours. -/
  colours : Bool

/-- What a run of several files hands on from one to the next. -/
structure RunState where
  files : FileStore
  sent : List Http.Request
  /-- How many cases have been run. -/
  cases : Nat
  /-- How many times results have been saved. -/
  saves : Nat

/-- How the files of a run are to be run. -/
structure RunPlan where
  config : Config
  /-- The directory of the configuration file. -/
  configDir : Option String
  options : RunOptions

/-- The line between parts of the output. -/
def rule : String := String.ofList (List.replicate 60 '─') ++ "\n"

def consoleOf (w : World) (o : RunOptions) : Console :=
  { if o.verbose then Console.verbose else {} with colours := w.colours }

/-- The results of cases that were run one after the other, the first being case number `next`. -/
def resultsFrom (clock : Clock) : (next : Nat) → List CaseOutcome → List CaseResult
  | _, [] => []
  | next, o :: rest =>
    { outcome := o, elapsed := clock.elapsed next, finishedAt := clock.finishedAt next } ::
      resultsFrom clock (next + 1) rest

/-- The lines of cases in the order in which they were run. -/
def caseLines (o : Console) (total : Nat) : (index : Nat) → List CaseResult → String
  | _, [] => ""
  | index, r :: rest =>
    o.progress index total r.outcome.testCase ++ "\n" ++ o.result r ++ "\n" ++ o.response r ++
      caseLines o total (index + 1) rest

/-- What is said of saved results. -/
def savedLines (s : Report.Saved) : String :=
  "\n" ++
  (match s.json with
    | some path => "JSON results: " ++ path ++ "\n"
    | none => "") ++
  (match s.csv with
    | some path => "CSV results: " ++ path ++ "\n"
    | none => "") ++
  "Report: " ++ s.latestReport ++ "\n"

/-- Saves the results of a file, if they are to be saved. -/
def saveResults (w : World) (plan : RunPlan) (file : String) (results : List CaseResult)
    (st : RunState) : Said Unit × RunState :=
  if plan.options.save then
    let dir := plan.config.resultsDirFor file plan.configDir
    let (saved, files) :=
      Report.save results dir plan.options.format (w.clock.savedAt st.saves) st.files
    let st := { st with files, saves := st.saves + 1 }
    match saved with
    | .ok s => (.after (savedLines s) (.done ()), st)
    | .error p => (.fail (("Failed to write results to " ++ quotedPath dir) :: p.chain), st)
  else (.done (), st)

variable [Url.Idna]

/-- Runs the cases of a file in a session of its own, and says whether all passed. -/
def runCases (w : World) (plan : RunPlan) (file : String) (cases : List TestCase) (st : RunState) :
    Said Bool × RunState :=
  let settings := plan.config.runSettings
  let console := consoleOf w plan.options
  let (outcomes, sent) := Runner.runAll { settings, send := w.send } cases
    (selection plan.options.testIds) st.sent
  let results := resultsFrom w.clock st.cases outcomes
  let st := { st with sent, cases := st.cases + results.length }
  let text := "\nRunning: " ++ file ++ "\nBase URL: " ++ settings.baseUrl ++ "\n" ++ rule ++
    caseLines console results.length 1 results ++ rule
  if results.isEmpty then (.after (text ++ "No cases were executed.\n") (.done true), st)
  else
    let summary := RunSummary.ofResults results
    let (saved, st) := saveResults w plan file results st
    let said : Said Bool := { saved with ended := saved.ended.map fun _ => summary.allPassed }
    (.after (text ++ "\n" ++ console.summary summary) said, st)

/-- Runs a file, and says whether it passed. -/
def runFile (w : World) (plan : RunPlan) (file : String) (st : RunState) : Said Bool × RunState :=
  match Sheet.load st.files file with
  | .error p => (.fail ("Failed to load case file" :: p.chain), st)
  | .ok cases => runCases w plan file cases st

/-- What is said of a file that failed. -/
def failedLine (file : String) (f : Failure) : String :=
  "\x1b[31mError running " ++ quotedPath file ++ ": " ++ f.line ++ "\x1b[0m\n"

/-- Runs files one after the other: what is said, whether all passed, and the state behind them. -/
def runFiles (w : World) (plan : RunPlan) : List String → RunState → String × Bool × RunState
  | [], st => ("", true, st)
  | file :: rest, st =>
    let (said, st) := runFile w plan file st
    let (text, passed) := match said.ended with
      | .ok passed => (said.text, passed)
      | .error f => (said.text ++ failedLine file f, false)
    let (later, others, st) := runFiles w plan rest st
    (text ++ "\n" ++ rule ++ later, passed && others, st)

end CaseSheet.Command

import CaseSheet.Command.Run
/-!
# Performing commands

What each command does to the files and what it says.
-/

namespace CaseSheet.Command

/-- The outcome of a command that only says something. -/
def Outcome.ofSaid {α : Type} (files : FileStore) (err : String) (s : Said α) : Outcome :=
  match s.ended with
  | .ok _ => { exitCode := 0, out := s.text, err, files }
  | .error f => { exitCode := 1, out := s.text, err := err ++ f.report, files }

/-- The selected cases of a file, a line for each. -/
def listing (testIds : List String) (path : String) (cases : List TestCase) : String :=
  let selected := TestCase.select cases (selection testIds)
  "\n" ++ path ++ " (" ++ Digits.text selected.length ++ " case(s)):\n" ++
    String.join (selected.map fun c =>
      "  " ++ c.id ++ "  [" ++ c.category ++ "] " ++ c.name ++ "\n")

/-- How the selected cases of a file are understood. -/
def inspections (console : Console) (defaultEndpoint : String) (testIds : List String)
    (path : String) (cases : List TestCase) : String :=
  let inspect := fun (c : TestCase) =>
    let intent := Intent.ofStep defaultEndpoint c.steps
    let expectation := Expectation.classify c.expected
    console.inspection c intent expectation (expectation.statusOr intent.expectedStatus)
  "\nInspecting: " ++ path ++ "\n" ++ rule ++
    String.join ((TestCase.select cases (selection testIds)).map inspect)

/-- Says something of each file, and ends with an empty line. -/
def sayAll (files : FileStore) (say : String → List TestCase → String)
    (found : Said (List String)) : Said Unit :=
  match found.ended with
  | .error f => { text := found.text, ended := .error f }
  | .ok paths =>
    let said := sayEach files say paths
    .after found.text (match said.ended with
      | .ok () => { said with text := said.text ++ "\n" }
      | .error _ => said)

/-- Runs case files. -/
def performRun [Url.Idna] (w : World) (files : FileStore) (path : String) (given : Option String)
    (overrides : Config.Overrides) (options : RunOptions) (listOnly : Bool) : Outcome :=
  let (config, configDir, err) := chooseConfig files path given
  let config := config.withOverrides overrides
  let found := caseFiles files path config
  if listOnly then .ofSaid files err (sayAll files (listing options.testIds) found)
  else match found.ended with
    | .error _ => .ofSaid files err found
    | .ok paths =>
      let (text, passed, st) := runFiles w { config, configDir, options } paths
        { files, sent := [], cases := 0, saves := 0 }
      { exitCode := if passed then 0 else 1, out := found.text ++ text, err, files := st.files }

/-- Shows how cases are understood. -/
def performInspect (w : World) (files : FileStore) (path : String) (given : Option String)
    (testIds : List String) : Outcome :=
  let (config, _, err) := chooseConfig files path given
  let console : Console := { colours := w.colours }
  let say := inspections console config.defaultEndpoint testIds
  .ofSaid files err (sayAll files say (caseFiles files path config))

/-- Writes the sample sheet. -/
def performInit (files : FileStore) (path : String) (replace : Bool) : Outcome :=
  match Sheet.writeSample files path replace with
  | .ok (true, files) =>
    { exitCode := 0, err := "", files
      out := "Wrote sample cases: " ++ path ++ "\nRun them with: apicase run " ++ path ++ "\n" }
  | .ok (false, files) =>
    { exitCode := 0, err := "", files
      out := path ++ " already exists; use --force to replace it\n" }
  | .error failure =>
    .ofSaid failure.files ""
      (.fail (("Failed to write sample cases to " ++ quotedPath path) :: failure.problem.chain)
        : Said Unit)

/-- Does what is asked for. -/
def Request.perform [Url.Idna] (w : World) (files : FileStore) : Request → Outcome
  | .run path config overrides options listOnly =>
    performRun w files path config overrides options listOnly
  | .inspect path config testIds => performInspect w files path config testIds
  | .init path replace => performInit files path replace

/-- How the program is called. -/
def usage : String :=
  "Usage: apicase [-v] run PATH [-b URL] [-t ID]... [-f json|csv|both] [-o DIR] [-c FILE]\n" ++
  "                        [--delay-ms MS] [--no-save] [--list-cases]\n" ++
  "       apicase [-v] inspect PATH [-t ID]... [-c FILE]\n" ++
  "       apicase [-v] init [PATH] [--force]\n"

/-- Does what arguments ask for. Arguments that ask for nothing end with exit code 2. -/
def respond [Url.Idna] (w : World) (files : FileStore) (args : List String) : Outcome :=
  match Request.read false args with
  | .ok request => request.perform w files
  | .error .help => { exitCode := 0, out := usage, err := "", files }
  | .error .usage => { exitCode := 2, out := "", err := usage, files }

end CaseSheet.Command

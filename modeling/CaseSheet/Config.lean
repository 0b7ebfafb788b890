import CaseSheet.FileTree
import CaseSheet.Runner
import CaseSheet.Yaml.Mismatch
/-!
# Configuration

What a run and the search for case files go by. A configuration file gives some of the fields, the
defaults give the others, and the command line has the last word on three of them. A file may hold
keys that are not known, and need not be a mapping at all.
-/

namespace CaseSheet

/-- The configuration of a run and of the search for case files. -/
structure Config where
  /-- What relative endpoints are resolved against. -/
  baseUrl : String := "http://localhost:3000"
  timeoutSecs : Nat := 30
  /-- The pause between two cases. -/
  delayMs : Nat := 500
  /-- The case whose response carries the session token. -/
  loginCaseId : String := "TC009"
  tokenField : String := "token"
  /-- What a precondition says when the server is stopped. -/
  serverDownMarker : String := "서버중지"
  unreachableBaseUrl : String := "http://invalid-server:9999"
  /-- Requested when a step cannot be read. -/
  defaultEndpoint : String := "/api/v1/trends"
  /-- The pattern for names of case files. -/
  casePattern : String := "*.\x7bcsv,yaml,yml\x7d"
  recursive : Bool := true
  /-- Names that are passed over in the search. -/
  exclude : List String := ["target", "test_results", ".git", "node_modules"]
  /-- Where results go, seen from the directory of the configuration file. -/
  resultsDir : Option String := none
deriving DecidableEq, Repr, Inhabited

namespace Config

open Yaml (Found Mismatch Value)

/-- The name of configuration files. -/
def fileName : String := ".apicase.yaml"

/-! ## Fields -/

/-- A text. -/
def textOf (wanted : String) (v : Value) : Except Mismatch String :=
  match v.untagged with
  | .text s => .ok s
  | v => .error (.wrongKind (.ofValue v) wanted)

/-- A natural number of 64 bits. -/
def natOf (v : Value) : Except Mismatch Nat :=
  match v.untagged with
  | .int (.ofNat n) => .ok n
  | .int n => .error (.outOfRange (.int n) "u64")
  | v => .error (.wrongKind (.ofValue v) "u64")

/-- A truth value. -/
def boolOf (v : Value) : Except Mismatch Bool :=
  match v.untagged with
  | .bool b => .ok b
  | v => .error (.wrongKind (.ofValue v) "a boolean")

/-- A list of texts, which is empty where nothing is given. -/
def textsOf (v : Value) : Except Mismatch (List String) :=
  match v.untagged with
  | .null => .ok []
  | .sequence vs => vs.mapM (textOf "a string")
  | v => .error (.wrongKind (.ofValue v) "a sequence")

/-- A path, or none where nothing is given. -/
def pathOf (v : Value) : Except Mismatch (Option String) :=
  match v with
  | .null => .ok none
  | v => (textOf "path string" v).map some

/-- A field that has a default. -/
inductive Field where
  | baseUrl
  | timeoutSecs
  | delayMs
  | loginCaseId
  | tokenField
  | serverDownMarker
  | unreachableBaseUrl
  | defaultEndpoint
  | casePattern
  | recursive
  | exclude
deriving DecidableEq, Repr

namespace Field

/-- All fields, in the order in which they are looked at. -/
def all : List Field := [.baseUrl, .timeoutSecs, .delayMs, .loginCaseId, .tokenField,
  .serverDownMarker, .unreachableBaseUrl, .defaultEndpoint, .casePattern, .recursive, .exclude]

/-- The key of a field in a file. -/
def key : Field → String
  | .baseUrl => "base_url"
  | .timeoutSecs => "timeout_secs"
  | .delayMs => "delay_ms"
  | .loginCaseId => "login_case_id"
  | .tokenField => "token_field"
  | .serverDownMarker => "server_down_marker"
  | .unreachableBaseUrl => "unreachable_base_url"
  | .defaultEndpoint => "default_endpoint"
  | .casePattern => "case_pattern"
  | .recursive => "recursive"
  | .exclude => "exclude"

/-- The configuration with the field set to a value. -/
def set (c : Config) (v : Value) : Field → Except Mismatch Config
  | .baseUrl => (textOf "a string" v).map fun s => { c with baseUrl := s }
  | .timeoutSecs => (natOf v).map fun n => { c with timeoutSecs := n }
  | .delayMs => (natOf v).map fun n => { c with delayMs := n }
  | .loginCaseId => (textOf "a string" v).map fun s => { c with loginCaseId := s }
  | .tokenField => (textOf "a string" v).map fun s => { c with tokenField := s }
  | .serverDownMarker => (textOf "a string" v).map fun s => { c with serverDownMarker := s }
  | .unreachableBaseUrl => (textOf "a string" v).map fun s => { c with unreachableBaseUrl := s }
  | .defaultEndpoint => (textOf "a string" v).map fun s => { c with defaultEndpoint := s }
  | .casePattern => (textOf "a string" v).map fun s => { c with casePattern := s }
  | .recursive => (boolOf v).map fun b => { c with recursive := b }
  | .exclude => (textsOf v).map fun l => { c with exclude := l }

end Field

/-- The key of the one field without a default. -/
def resultsDirKey : String := "results_dir"

/-! ## Layers -/

/-- The value that entries give for a key. -/
def given? (entries : List (Value × Value)) (key : String) : Option Value :=
  (entries.find? fun e => e.1.same (.text key)).map (·.2)

/-- Sets a field if entries give a value for it. -/
def setGiven (entries : List (Value × Value)) (c : Config) (f : Field) : Except Mismatch Config :=
  match given? entries f.key with
  | some v => f.set c v
  | none => .ok c

/-- Whether a key is that of a field with a default. -/
def isFieldKey (k : Value) : Bool := Field.all.any fun f => k.same (.text f.key)

/-- Looks at one of the other entries. All keys must be texts; `seen` says that the place for
results has been given. -/
def takeOther (state : Config × Bool) (entry : Value × Value) : Except Mismatch (Config × Bool) :=
  let (c, seen) := state
  match entry.1.untagged with
  | .text name =>
    if Field.all.any (fun f => f.key == name) then .error (.duplicate name)
    else if name = resultsDirKey then
      if seen then .error (.duplicate name)
      else (pathOf entry.2).map fun dir => ({ c with resultsDir := dir }, true)
    else .ok (c, seen)
  | k => .error (.wrongKind (.ofValue k) "field identifier")

/-- The configuration that a value describes: the fields with a default are looked at first, in
their own order, and then the other entries in the order of the file. -/
def ofValue (v : Value) : Except Mismatch Config :=
  match v.untagged with
  | .mapping entries => do
    let c ← Field.all.foldlM (setGiven entries) {}
    let others := entries.filter fun e => !isFieldKey e.1
    let (c, _) ← others.foldlM takeOther (c, false)
    return c
  | _ => .ok {}

/-- What the command line sets in place of the file and the defaults. -/
structure Overrides where
  baseUrl : Option String := none
  delayMs : Option Nat := none
  resultsDir : Option String := none
deriving DecidableEq, Repr

/-- The configuration with what the command line sets. -/
def withOverrides (c : Config) (o : Overrides) : Config :=
  { c with
    baseUrl := o.baseUrl.getD c.baseUrl
    delayMs := o.delayMs.getD c.delayMs
    resultsDir := o.resultsDir.or c.resultsDir }

/-! ## Files -/

/-- Why a configuration file does not load. -/
inductive Problem where
  | unreadable (path : String) (problem : FileProblem)
  | malformed (path : String)
  | invalid (path : String) (mismatch : Mismatch)
deriving DecidableEq, Repr

namespace Problem

/-- The wording of a problem and of what lies behind it. -/
def chain : Problem → List String
  | .unreadable path problem =>
    ["Failed to read config file: " ++ quotedPath path, problem.message]
  | .malformed path =>
    ["Failed to parse config file: " ++ quotedPath path, "not a well-formed document"]
  | .invalid path mismatch => ["Invalid config file: " ++ quotedPath path, mismatch.message]

/-- The wording of a problem on one line. -/
def message (p : Problem) : String := String.intercalate ": " p.chain

end Problem

/-- The configuration in the file at a path. -/
def load (files : FileStore) (path : String) : Except Problem Config :=
  match files.readText path with
  | .error e => .error (.unreadable path e)
  | .ok text =>
    match (Yaml.readDocument? text.toList).bind Yaml.Document.value? with
    | none => .error (.malformed path)
    | some v =>
      match ofValue v with
      | .ok c => .ok c
      | .error e => .error (.invalid path e)

/-- The directory of a configuration file that is given by its path. -/
def dirOf (path : String) : String := (Path.parent? path).getD "."

/-- The text of a place in the tree. -/
def pathOfPlace (loc : List String) : String := "/" ++ String.intercalate "/" loc

/-- The nearest directory upward from a place that has an entry with the name of configuration
files; `outer` are the names from the place up. -/
def nearestDir? (t : FileTree) : (outer : List String) → Option (List String)
  | [] => if (t.at? [fileName]).isSome then some [] else none
  | n :: outer =>
    if (t.at? ((n :: outer).reverse ++ [fileName])).isSome then some (n :: outer).reverse
    else nearestDir? t outer

/-- The configuration found upward from a directory, with the directory of its file. There is none
if the nearest file does not load. -/
def discover? (files : FileStore) (start : String) : Option (Config × String) := do
  let loc ← (files.resolve start).toOption
  let dir ← nearestDir? files.tree loc.reverse
  let dir := pathOfPlace dir
  let c ← (load files (Path.join dir fileName)).toOption
  return (c, dir)

/-- Where the results of a case file go: the configured directory, seen from the directory of the
configuration file, and otherwise a directory beside the case file. -/
def resultsDirFor (c : Config) (caseFile : String) (configDir : Option String) : String :=
  match c.resultsDir, configDir with
  | some dir, some configDir => Path.join configDir dir
  | some dir, none => dir
  | none, _ => Path.join ((Path.parent? caseFile).getD ".") "test_results"

/-- The settings of a run. Slashes at the end of the base URL do not count. -/
def runSettings (c : Config) : RunSettings :=
  { baseUrl := String.ofList (Text.dropEndWhile (· == '/') c.baseUrl.toList)
    timeout := .ofSecs c.timeoutSecs
    delay := .ofMillis c.delayMs
    loginCaseId := c.loginCaseId
    tokenField := c.tokenField
    serverDownMarker := c.serverDownMarker
    unreachableBaseUrl := c.unreachableBaseUrl
    defaultEndpoint := c.defaultEndpoint }

end Config
end CaseSheet

import CaseSheet.Config
import CaseSheet.Pattern
/-!
# Finding case files

The case files below a directory are the files whose names fit the pattern of the configuration.
Entries whose name is excluded are passed over together with everything in them, and so is an entry
with the name of the directory for results, so that written results never become cases. The path
that the search starts at excludes nothing.
-/

namespace CaseSheet

/-- Why a search fails. -/
structure SearchProblem where
  path : String
  problem : FileProblem
deriving DecidableEq, Repr

namespace SearchProblem

/-- The wording of a problem. -/
def message (p : SearchProblem) : String :=
  "IO error for operation on " ++ p.path ++ ": " ++ p.problem.message

/-- The wording of a problem and of what lies behind it. -/
def chain (p : SearchProblem) : List String := [p.message, p.problem.message]

end SearchProblem

namespace Config

/-- The names that are passed over. -/
def excludedNames (c : Config) : List String :=
  match c.resultsDir.bind Path.name? with
  | some name => c.exclude ++ [String.ofList name]
  | none => c.exclude

/-- Whether an entry is passed over with everything in it. -/
def excludes (c : Config) (name : String) : Bool := c.excludedNames.contains name

/-- Whether a file name is that of a case file. -/
def isCaseFile (c : Config) (name : String) : Bool :=
  name != fileName && Pattern.fits c.casePattern.toList name.toList

end Config

namespace FileTree

mutual

/-- The case files in a directory, each by its names from the start of the search down. -/
def caseFiles (c : Config) (above : List String) : FileTree → List (List String)
  | .file _ => []
  | .directory entries => caseFilesAmong c above entries

/-- The case files among the entries of a directory, and in the directories among them. -/
def caseFilesAmong (c : Config) (above : List String) :
    List (String × FileTree) → List (List String)
  | [] => []
  | (name, t) :: rest =>
    let here := if t.isFile && c.isCaseFile name then [above ++ [name]] else []
    let inside := if c.recursive then caseFiles c (above ++ [name]) t else []
    (if c.excludes name then [] else here ++ inside) ++ caseFilesAmong c above rest

end

end FileTree

/-- The case files below a path, in the order of their parts; for the path of a file, that file if
its name fits. -/
def discoverCases (files : FileStore) (root : String) (c : Config) :
    Except SearchProblem (List String) :=
  match files.find root with
  | .error e => .error ⟨root, e⟩
  | .ok (.file _) =>
    match Path.name? root with
    | some name => .ok (if c.isCaseFile (String.ofList name) then [root] else [])
    | none => .ok []
  | .ok (.directory entries) =>
    .ok (Path.sort ((FileTree.caseFiles c [] (.directory entries)).map fun names =>
      names.foldl Path.join root))

end CaseSheet

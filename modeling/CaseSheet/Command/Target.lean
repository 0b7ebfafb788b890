import CaseSheet.Command.Outcome
import CaseSheet.Discovery
import CaseSheet.Sheet.File
/-!
# What a command works on

The path that a command is given leads to a configuration and to case files: the file itself, or all
that are found below a directory.
-/

namespace CaseSheet.Command

/-- Where the search for a configuration starts: at the directory of a file. -/
def searchStart (files : FileStore) (path : String) : String :=
  if files.isFile path then (Path.parent? path).getD "." else path

/-- The configuration of a command, with the directory of its file and what there is to say. A file
that is given and does not load is passed over, as is one that is found. -/
def chooseConfig (files : FileStore) (path : String) (given : Option String) :
    Config × Option String × String :=
  match given with
  | some file =>
    match Config.load files file with
    | .ok c => (c, some (Config.dirOf file), "")
    | .error p =>
      ({}, none,
        "\x1b[33mIgnoring config " ++ quotedPath file ++ ": " ++ p.message ++ "\x1b[0m\n")
  | none =>
    match Config.discover? files (searchStart files path) with
    | some (c, dir) => (c, some dir, "")
    | none => ({}, none, "")

/-- What is said when no case file is found. -/
def nothingFound (path : String) (c : Config) : String :=
  "\nNo case files found matching pattern '" ++ c.casePattern ++ "' in " ++ quotedPath path ++
    "\nCreate one with: apicase init " ++ Path.join path Sheet.sampleFileName ++ "\n"

/-- The case files that a path leads to. -/
def caseFiles (files : FileStore) (path : String) (c : Config) : Said (List String) :=
  if files.isFile path then .done [path]
  else match discoverCases files path c with
    | .ok [] => .after (nothingFound path c) (.done [])
    | .ok found => .done found
    | .error p => .fail (("Failed to scan " ++ quotedPath path) :: p.chain)

/-- The selection that ids on the command line make; none selects all. -/
def selection (testIds : List String) : Option (List String) :=
  if testIds.isEmpty then none else some testIds

/-- Loads case files one after the other and says something of each, up to the first that does not
load. -/
def sayEach (files : FileStore) (say : String → List TestCase → String) : List String → Said Unit
  | [] => .done ()
  | path :: rest =>
    match Sheet.load files path with
    | .ok cases => .after (say path cases) (sayEach files say rest)
    | .error p => .fail (("Failed to load " ++ quotedPath path) :: p.chain)

end CaseSheet.Command

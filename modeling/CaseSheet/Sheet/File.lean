import CaseSheet.Sheet.Csv
import CaseSheet.Sheet.Sample
import CaseSheet.Sheet.Yaml
import CaseSheet.Text.Letters
/-!
# Case sheets in files

The extension of a file name tells the format of a sheet, in whatever case its letters are.
-/

namespace CaseSheet.Sheet

/-- The formats of case sheets. -/
inductive Format where
  | csv
  | yaml
deriving DecidableEq, Repr

namespace Format

/-- The format that the extension of a path tells. -/
def ofPath? (path : String) : Option Format :=
  match (Path.extension? path).map fun e => String.ofList (Text.lower e) with
  | some "csv" => some .csv
  | some "yaml" => some .yaml
  | some "yml" => some .yaml
  | _ => none

def read : Format → List Char → Except SheetProblem (List TestCase)
  | .csv => readCsv
  | .yaml => readYaml

def write : Format → List TestCase → List Char
  | .csv => writeCsv
  | .yaml => writeYaml

end Format

/-- The cases of the sheet at a path. The format is looked at before the file. -/
def load (files : FileStore) (path : String) : Except SheetProblem (List TestCase) :=
  match Format.ofPath? path with
  | none => .error (.unsupported path)
  | some format =>
    match files.readText path with
    | .ok text => format.read text.toList
    | .error e => .error (.file path e)

/-- Makes the directory around a path. -/
def createParent (files : FileStore) (path : String) :
    Except (FileProblem × FileStore) FileStore :=
  match Path.parent? path with
  | some dir => if dir.isEmpty then .ok files else files.createDirs dir
  | none => .ok files

/-- Why a sheet is not written, and the files as they are left. -/
structure WriteFailure where
  problem : SheetProblem
  files : FileStore

/-- A failure is reported as its problem. -/
instance : Coe WriteFailure SheetProblem := ⟨WriteFailure.problem⟩

/-- Writes the sample sheet to a path, and says whether it did: something that is already there
is left alone, unless it is to be replaced. Directories that are made before a problem stay. -/
def writeSample (files : FileStore) (path : String) (replace : Bool) :
    Except WriteFailure (Bool × FileStore) :=
  if files.holds path && !replace then .ok (false, files)
  else match Format.ofPath? path with
    | none => .error ⟨.unsupported path, files⟩
    | some format =>
      match createParent files path with
      | .error (e, files) => .error ⟨.file path e, files⟩
      | .ok files =>
        match files.writeText path (String.ofList (format.write sample)) with
        | .ok files => .ok (true, files)
        | .error e => .error ⟨.file path e, files⟩

end CaseSheet.Sheet

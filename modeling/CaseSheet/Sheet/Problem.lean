import CaseSheet.Csv.Read
import CaseSheet.FileTree
import CaseSheet.Sheet.Column
import CaseSheet.Yaml.Mismatch
/-!
# Problems with case sheets

Why no cases come of a sheet: its file cannot be read, its format is not known, its text does not
make up rows, or a case has no id.
-/

namespace CaseSheet

/-- What is wrong with a record of comma-separated values. -/
inductive RecordProblem where
  | fieldCount (found expected : Nat)
  | row (problem : RowProblem)
deriving DecidableEq, Repr

/-- A record that is at fault; `number` counts records from the header, which is zero. -/
structure RecordFault where
  number : Nat
  place : Csv.Place
  problem : RecordProblem
deriving DecidableEq, Repr

namespace RecordFault

/-- Which record is at fault. -/
def position (f : RecordFault) : String :=
  "record " ++ Digits.text f.number ++ " (line: " ++ Digits.text f.place.line ++ ", byte: " ++
    Digits.text f.place.byte ++ ")"

/-- The wording of a fault. -/
def message (f : RecordFault) : String :=
  match f.problem with
  | .fieldCount found expected =>
    "CSV error: " ++ f.position ++ ": found record with " ++ Digits.text found ++
      " fields, but the previous record has " ++ Digits.text expected ++ " fields"
  | .row problem => "CSV deserialize error: " ++ f.position ++ ": " ++ problem.message

end RecordFault

/-- Why no cases come of a sheet. -/
inductive SheetProblem where
  | file (path : String) (problem : FileProblem)
  | record (fault : RecordFault)
  | yaml (fault : Yaml.Fault)
  /-- The text is no well-formed YAML document. -/
  | malformedYaml
  | unsupported (path : String)
  /-- A case without an id, counted from one. -/
  | missingId (number : Nat)
deriving DecidableEq, Repr

namespace SheetProblem

/-- The formats of case sheets, by file extension. -/
def supported : String := ".csv, .yaml, .yml"

/-- The wording of what lies behind a problem, if there is such. -/
def cause? : SheetProblem → Option String
  | .file _ problem => some problem.message
  | .record fault => some fault.message
  | .yaml fault => some fault.message
  | .malformedYaml => some "not a well-formed document"
  | .unsupported _ => none
  | .missingId _ => none

/-- The wording of a problem. -/
def message : SheetProblem → String
  | .file path problem => "IO error reading " ++ quotedPath path ++ ": " ++ problem.message
  | .record fault => "CSV parse error: " ++ fault.message
  | .yaml fault => "YAML parse error: " ++ fault.message
  | .malformedYaml => "YAML parse error: not a well-formed document"
  | .unsupported path =>
    "Unsupported case file '" ++ path ++ "'. Expected one of: " ++ supported
  | .missingId number =>
    "Case #" ++ Digits.text number ++ " is missing required field 'id'"

/-- The wording of a problem and of what lies behind it. -/
def chain (p : SheetProblem) : List String := p.message :: p.cause?.toList

end SheetProblem

namespace TestCase

/-- The number of the first case whose id is blank; cases are counted from `next`. -/
def firstWithoutId? : Nat → List TestCase → Option Nat
  | _, [] => none
  | next, c :: rest => if isBlankText c.id then some next else firstWithoutId? (next + 1) rest

/-- Cases all of which must have an id. -/
def withIds (cases : List TestCase) : Except SheetProblem (List TestCase) :=
  match firstWithoutId? 1 cases with
  | some n => .error (.missingId n)
  | none => .ok cases

end TestCase
end CaseSheet

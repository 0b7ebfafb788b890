import CaseSheet.Sheet.Problem
import CaseSheet.Yaml.Write
/-!
# Case sheets in YAML

A document with a list under `cases`, each item a mapping from column names to texts. A scalar
counts as its text, whatever it would mean. A written sheet gives all seven columns of each case.
-/

namespace CaseSheet.Sheet

open Yaml (Fault Mismatch Spot)

/-! ## Reading -/

/-- A problem with a row, as a mismatch. -/
def mismatchOf : RowProblem → Mismatch
  | .missing c => .missing c.title
  | .duplicate c => .duplicate c.title

/-- Fills the cell of an entry. A column that comes twice is found before its second text is looked
at. -/
def fillEntry (s : Spot) (cells : Cells) (entry : Spot × Spot) : Except Fault Cells := do
  let column ← entry.1.text "field identifier"
  match Column.ofName? column with
  | none => return cells
  | some c =>
    if cells.has c then .error (s.fault (.duplicate c.title))
    else
      let text ← entry.2.text "a string"
      return cells ++ [(c, text)]

/-- The case that a mapping makes up. -/
def caseOfSpot (s : Spot) : Except Fault TestCase := do
  let entries ← s.entries "struct TestCase"
  let s := s.followed
  let cells ← entries.foldlM (fillEntry s) []
  match cells.row with
  | .ok c => .ok c
  | .error e => .error (s.fault (mismatchOf e))

/-- The cases that the items of a list make up. -/
def casesOfSpot (s : Spot) : Except Fault (List TestCase) := do
  let items ← s.items "a sequence"
  items.mapM caseOfSpot

/-- The key of the list. -/
def casesKey : String := "cases"

/-- Takes the list from an entry, if it has its key. -/
def takeCases (s : Spot) (found : Option (List TestCase)) (entry : Spot × Spot) :
    Except Fault (Option (List TestCase)) := do
  let key ← entry.1.text "field identifier"
  if key ≠ casesKey then return found
  else if found.isSome then .error (s.fault (.duplicate casesKey))
  else
    let cases ← casesOfSpot entry.2
    return some cases

/-- The cases of a document. -/
def casesOfDocument (d : Yaml.Document) : Except Fault (List TestCase) := do
  let s := Spot.ofDocument d
  let entries ← s.entries "struct CaseFile"
  match ← entries.foldlM (takeCases s) none with
  | some cases => return cases
  | none => .error (s.fault (.missing casesKey))

/-- The cases of a sheet. A document that has no value at all is malformed. -/
def readYaml (content : List Char) : Except SheetProblem (List TestCase) :=
  match Yaml.readDocument? content with
  | none => .error .malformedYaml
  | some d =>
    match casesOfDocument d with
    | .ok cases => TestCase.withIds cases
    | .error fault => .error (if d.value?.isSome then .yaml fault else .malformedYaml)

/-! ## Writing -/

/-- The line of a column, with the lines that its text goes on over. -/
def writeColumn (lead : List Char) (c : TestCase) (column : Column) : List Char :=
  lead ++ column.title.toList ++ ':' :: ' ' :: Yaml.ScalarText.write 4 (c.cell column).toList

/-- The lines of a case. -/
def writeCase (c : TestCase) : List Char :=
  writeColumn ['-', ' '] c .id ++
    (Column.all.drop 1).flatMap (writeColumn [' ', ' '] c)

/-- The text of a sheet of cases. -/
def writeYaml (cases : List TestCase) : List Char :=
  if cases.isEmpty then "cases: []\n".toList
  else "cases:\n".toList ++ cases.flatMap writeCase

end CaseSheet.Sheet

import CaseSheet.Csv.Write
import CaseSheet.Sheet.Problem
/-!
# Case sheets as comma-separated values

The first record names the columns, each further one is a case. Column names may have blanks around
them, and the text may start with byte order marks. All records have as many fields as the first.
Written sheets start with one byte order mark, and have no header when there are no cases.
-/

namespace CaseSheet.Sheet

def byteOrderMark : Char := '\ufeff'

/-- The case of a record under column names. -/
def caseOfRecord (header : List String) (number : Nat) (r : Csv.Record) :
    Except SheetProblem TestCase :=
  if r.fields.length = header.length then
    match TestCase.ofCells (header.zip r.fields) with
    | .ok c => .ok c
    | .error e => .error (.record ⟨number, r.place, .row e⟩)
  else .error (.record ⟨number, r.place, .fieldCount r.fields.length header.length⟩)

/-- The cases of records, which are counted from `number`. -/
def casesOfRecords (header : List String) :
    (number : Nat) → List Csv.Record → Except SheetProblem (List TestCase)
  | _, [] => .ok []
  | number, r :: rest => do
    let c ← caseOfRecord header number r
    let cs ← casesOfRecords header (number + 1) rest
    return c :: cs

/-- The cases of a sheet. -/
def readCsv (content : List Char) : Except SheetProblem (List TestCase) :=
  match Csv.read (content.dropWhile (· == byteOrderMark)) with
  | [] => .ok []
  | header :: records => do
    let cases ← casesOfRecords (header.fields.map trimmed) 1 records
    TestCase.withIds cases

/-- The records of a sheet of cases. -/
def records (cases : List TestCase) : List (List String) :=
  if cases.isEmpty then [] else Column.all.map Column.title :: cases.map TestCase.cells

/-- The text of a sheet of cases. -/
def writeCsv (cases : List TestCase) : List Char := byteOrderMark :: Csv.write (records cases)

end CaseSheet.Sheet

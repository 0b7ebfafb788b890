import CaseSheet.TestCase
/-!
# Columns of a case sheet

A sheet has seven columns, each with a title and an English name. The precondition and the notes
may be left out. A row is put together from cells in any order: no column may come twice, and every
other column must come once.
-/

namespace CaseSheet

/-- A column of a case sheet. -/
inductive Column where
  | id
  | category
  | name
  | precondition
  | steps
  | expected
  | notes
deriving DecidableEq, Repr

namespace Column

/-- All columns, in the order of a sheet. -/
def all : List Column := [.id, .category, .name, .precondition, .steps, .expected, .notes]

/-- The title of a column. -/
def title : Column → String
  | .id => "TC_ID"
  | .category => "기능분류"
  | .name => "테스트명"
  | .precondition => "사전조건"
  | .steps => "테스트단계"
  | .expected => "예상결과"
  | .notes => "비고"

/-- The English name of a column. -/
def englishName : Column → String
  | .id => "id"
  | .category => "category"
  | .name => "name"
  | .precondition => "precondition"
  | .steps => "steps"
  | .expected => "expected"
  | .notes => "notes"

/-- Whether a column may be left out; its cells are empty then. -/
def isOptional : Column → Bool
  | .precondition | .notes => true
  | _ => false

/-- The column with a title or an English name. -/
def ofName? (s : String) : Option Column :=
  all.find? fun c => c.title == s || c.englishName == s

end Column

/-- A row as it is put together: the cells that have been filled. -/
abbrev Cells : Type := List (Column × String)

/-- What may be wrong with a row. -/
inductive RowProblem where
  | missing (column : Column)
  | duplicate (column : Column)
deriving DecidableEq, Repr

/-- The wording of a problem; columns go by their titles. -/
def RowProblem.message : RowProblem → String
  | .missing c => "missing field `" ++ c.title ++ "`"
  | .duplicate c => "duplicate field `" ++ c.title ++ "`"

namespace Cells

/-- Whether the cell of a column has been filled. -/
def has (cells : Cells) (c : Column) : Bool := (cells.lookup c).isSome

/-- The text of a cell; a column may be left out only if it is optional. -/
def cell (cells : Cells) (c : Column) : Except RowProblem String :=
  match cells.lookup c with
  | some s => .ok s
  | none => if c.isOptional then .ok "" else .error (.missing c)

/-- The row of filled cells. -/
def row (cells : Cells) : Except RowProblem TestCase := do
  let id ← cells.cell .id
  let category ← cells.cell .category
  let name ← cells.cell .name
  let precondition ← cells.cell .precondition
  let steps ← cells.cell .steps
  let expected ← cells.cell .expected
  let notes ← cells.cell .notes
  return { id, category, name, precondition, steps, expected, notes }

/-- Fills a cell, if its column is one of the seven; other columns are passed over. -/
def fill (cells : Cells) (column : String) (text : String) : Except RowProblem Cells :=
  match Column.ofName? column with
  | none => .ok cells
  | some c => if cells.has c then .error (.duplicate c) else .ok (cells ++ [(c, text)])

/-- The cells of columns given by name. -/
def fillAll : Cells → List (String × String) → Except RowProblem Cells
  | cells, [] => .ok cells
  | cells, (column, text) :: rest =>
    match fill cells column text with
    | .ok cells => fillAll cells rest
    | .error e => .error e

end Cells

namespace TestCase

/-- The text of a case under a column. -/
def cell (c : TestCase) : Column → String
  | .id => c.id
  | .category => c.category
  | .name => c.name
  | .precondition => c.precondition
  | .steps => c.steps
  | .expected => c.expected
  | .notes => c.notes

/-- The cells of a case, in the order of a sheet. -/
def cells (c : TestCase) : List String := Column.all.map c.cell

/-- The case that texts under column names make up. -/
def ofCells (pairs : List (String × String)) : Except RowProblem TestCase := do
  let cells ← Cells.fillAll [] pairs
  cells.row

end TestCase
end CaseSheet

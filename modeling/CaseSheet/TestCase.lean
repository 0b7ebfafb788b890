/-!
# Test cases
-/

namespace CaseSheet

/-- A row of a case sheet; all columns are texts as their author wrote them. -/
structure TestCase where
  id : String
  category : String
  name : String
  precondition : String
  steps : String
  expected : String
  notes : String
deriving DecidableEq, Repr, Inhabited

namespace TestCase

/-- The cases with one of the selected ids, in the order of the sheet; an absent or empty selection
takes all. -/
def select (cases : List TestCase) : Option (List String) → List TestCase
  | none | some [] => cases
  | some ids => cases.filter fun c => ids.contains c.id

end TestCase
end CaseSheet

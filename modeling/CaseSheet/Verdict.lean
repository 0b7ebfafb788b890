/-!
# Verdicts
-/

namespace CaseSheet

/-- The outcome of a case. -/
inductive Verdict where
  | pass
  | fail
deriving DecidableEq, Repr

namespace Verdict

def ofBool (b : Bool) : Verdict := if b then .pass else .fail

def isPass : Verdict → Bool
  | .pass => true
  | .fail => false

/-- The word that result sheets use. -/
def word : Verdict → String
  | .pass => "PASS"
  | .fail => "FAIL"

@[simp] theorem isPass_ofBool (b : Bool) : (ofBool b).isPass = b := by cases b <;> rfl

end Verdict
end CaseSheet

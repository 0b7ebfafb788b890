import CaseSheet.Expectation
import CaseSheet.Http.Exchange
import CaseSheet.Verdict
/-!
# Judging a response

A response is held against an expectation. A failure passes exactly when it was expected. An answer
passes when its status and the shape of its data are as asked; the shape is looked at for arrays
always, and for JSON as such only where the status is 200.
-/

namespace CaseSheet

namespace Expectation

/-- Whether the data of an answer have the shape that was asked for. -/
def fitsShape (e : Expectation) (status : Nat) (data : Json.Value) : Bool :=
  (!e.array || data.isArray) && (!e.json || status != 200 || data.isArray || data.isObject)

/-- Whether a response is as expected, the expected status of its step aside. -/
def fits (e : Expectation) : Http.Response → Bool
  | .failed _ _ => e.failure
  | .answered a => e.accepts a.status && e.fitsShape a.status a.data

/-- The verdict on a response alone. -/
def validate (e : Expectation) (r : Http.Response) : Verdict := .ofBool (e.fits r)

/-- The verdict on an execution: an answer must also have come with the expected status. -/
def judge (e : Expectation) (x : Http.Execution) : Verdict :=
  .ofBool (e.fits x.response && (x.response.isFailure || x.matched))

end Expectation
end CaseSheet

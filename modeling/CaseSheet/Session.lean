import CaseSheet.Http.Response
import CaseSheet.Text.Search
import CaseSheet.Verdict
/-!
# Sessions

What one case hands on to the next: the base URL that endpoints are resolved against, and the token
of the last login that passed. A case runs inside a scope, in which the base URL may be another
one; leaving the scope brings back the base URL and keeps the token.
-/

namespace CaseSheet

/-- The state that the cases of a run share. -/
structure Session where
  baseUrl : String
  token : Option String
deriving DecidableEq, Repr

/-- How a precondition says that the server is stopped, and where requests go then. -/
structure StopRule where
  marker : String
  unreachableUrl : String

/-- Whether a precondition stops the server. An empty marker never does. -/
def StopRule.applies (r : StopRule) (precondition : String) : Bool :=
  !r.marker.isEmpty && mentions precondition r.marker

/-- Which case logs in, and under which key its response carries the token. -/
structure LoginRule where
  caseId : String
  tokenField : String

/-- The token that the response of a case delivers: the case is the login, it passes, and the data
is an object with a text under the key. -/
def LoginRule.token? (r : LoginRule) (caseId : String) (verdict : Verdict)
    (response : Http.Response) : Option String :=
  if caseId = r.caseId ∧ verdict.isPass then do
    let data ← response.data?
    let value ← data.field? r.tokenField
    value.text?
  else none

/-- What a scope holds while it is open: the base URL that it has put away, if it has set another
one in its place. -/
structure Scope where
  saved : Option String
deriving DecidableEq, Repr

/-- Whether the base URL inside a scope is another one than that around it. -/
def Scope.isOverridden (scope : Scope) : Bool := scope.saved.isSome

namespace Session

/-- A session that has no token yet. -/
def start (baseUrl : String) : Session := { baseUrl, token := none }

/-- The scope that a precondition opens in a session: it puts the base URL away if the precondition
stops the server, and otherwise nothing. -/
def scope (s : Session) (rule : StopRule) (precondition : String) : Scope :=
  { saved := if rule.applies precondition then some s.baseUrl else none }

/-- The session inside the scope of a precondition. -/
def enter (s : Session) (rule : StopRule) (precondition : String) : Session :=
  if rule.applies precondition then { s with baseUrl := rule.unreachableUrl } else s

/-- The session behind a scope, given the one at its end: the base URL that was put away comes
back. -/
def leave (inside : Session) (scope : Scope) : Session :=
  match scope.saved with
  | some url => { inside with baseUrl := url }
  | none => inside

/-- Takes over the token that a response delivers; otherwise nothing changes. -/
def capture (s : Session) (rule : LoginRule) (caseId : String) (verdict : Verdict)
    (response : Http.Response) : Session :=
  match rule.token? caseId verdict response with
  | some t => { s with token := some t }
  | none => s

theorem baseUrl_leave (inside : Session) (scope : Scope) :
    (inside.leave scope).baseUrl = scope.saved.getD inside.baseUrl := by
  unfold leave; split <;> simp_all

@[simp] theorem token_leave (inside : Session) (scope : Scope) :
    (inside.leave scope).token = inside.token := by
  unfold leave; split <;> rfl

@[simp] theorem isOverridden_scope (s : Session) (rule : StopRule) (p : String) :
    (s.scope rule p).isOverridden = rule.applies p := by
  unfold scope Scope.isOverridden; split <;> simp_all

@[simp] theorem token_enter (s : Session) (rule : StopRule) (p : String) :
    (s.enter rule p).token = s.token := by
  unfold enter; split <;> rfl

theorem baseUrl_enter (s : Session) (rule : StopRule) (p : String) :
    (s.enter rule p).baseUrl = if rule.applies p then rule.unreachableUrl else s.baseUrl := by
  unfold enter; split <;> rfl

@[simp] theorem baseUrl_capture (s : Session) (rule : LoginRule) (c : String) (v : Verdict)
    (r : Http.Response) : (s.capture rule c v r).baseUrl = s.baseUrl := by
  unfold capture; split <;> rfl

theorem token_capture (s : Session) (rule : LoginRule) (c : String) (v : Verdict)
    (r : Http.Response) : (s.capture rule c v r).token = (rule.token? c v r).or s.token := by
  unfold capture; split <;> simp_all

/-- Leaving a scope right after entering it changes nothing. -/
@[simp] theorem leave_enter (s : Session) (rule : StopRule) (p : String) :
    (s.enter rule p).leave (s.scope rule p) = s := by
  unfold enter scope leave
  by_cases h : rule.applies p = true <;> simp [h]

end Session

/-! ## Programs of session operations -/

/-- An operation on a session; a scope encloses further ones. -/
inductive SessionOp where
  | capture (rule : LoginRule) (caseId : String) (verdict : Verdict) (response : Http.Response)
  | scope (rule : StopRule) (precondition : String) (body : List SessionOp)

namespace SessionOp

/-- What can be seen of a session after a step. -/
inductive Event where
  | captured (stored : Bool) (after : Session)
  | entered (overridden : Bool) (inside : Session)
  | left (after : Session)
deriving DecidableEq, Repr

mutual

/-- Carries out an operation: the session after it, and what was seen on the way. -/
def run : SessionOp → Session → Session × List Event
  | .capture rule caseId verdict response, s =>
    let after := s.capture rule caseId verdict response
    (after, [.captured (rule.token? caseId verdict response).isSome after])
  | .scope rule precondition body, s =>
    let scope := s.scope rule precondition
    let inside := s.enter rule precondition
    let (last, events) := runAll body inside
    let after := last.leave scope
    (after, .entered scope.isOverridden inside :: events ++ [.left after])

/-- Carries out operations one after the other. -/
def runAll : List SessionOp → Session → Session × List Event
  | [], s => (s, [])
  | op :: ops, s =>
    let (s, events) := run op s
    let (s, later) := runAll ops s
    (s, events ++ later)

end

end SessionOp
end CaseSheet

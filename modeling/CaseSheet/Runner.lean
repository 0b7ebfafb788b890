import CaseSheet.Judgement
import CaseSheet.Session
import CaseSheet.Step
import CaseSheet.TestCase
/-!
# Running cases

A runner executes cases strictly one after the other. Each case sends at most one request; its base
URL is that of the session, unless its precondition stops the server, and a login that passes
leaves its token to the cases behind it. What a run changes is its `Progress`: the session and the
requests sent so far.
-/

namespace CaseSheet

/-- The settings of a run. -/
structure RunSettings where
  baseUrl : String := "http://localhost:3000"
  timeout : Http.Span := Http.defaultTimeout
  /-- The pause between two cases. -/
  delay : Http.Span := .ofMillis 500
  loginCaseId : String := "TC009"
  tokenField : String := "token"
  serverDownMarker : String := "서버중지"
  unreachableBaseUrl : String := "http://invalid-server:9999"
  defaultEndpoint : String := Intent.defaultEndpoint
deriving DecidableEq, Repr

namespace RunSettings

def stopRule (s : RunSettings) : StopRule :=
  { marker := s.serverDownMarker, unreachableUrl := s.unreachableBaseUrl }

def loginRule (s : RunSettings) : LoginRule :=
  { caseId := s.loginCaseId, tokenField := s.tokenField }

/-- A session that points at the configured server. -/
def newSession (s : RunSettings) : Session := .start s.baseUrl

end RunSettings

/-- What came of a case. -/
structure CaseOutcome where
  testCase : TestCase
  /-- What came back, in a few words. -/
  actual : String
  verdict : Verdict
  response : Http.Response

/-- What the cases of a run change. -/
structure Progress where
  session : Session
  sent : List Http.Request

/-- Runs cases against the other end of a transport. -/
structure Runner where
  settings : RunSettings
  send : Http.Transport

namespace Runner

/-- The call that a case makes. -/
def callOf (s : RunSettings) (c : TestCase) : Http.Call :=
  let intent := Intent.ofStep s.defaultEndpoint c.steps
  { method := intent.method.name
    endpoint := intent.endpoint
    body := intent.body
    headers := []
    expectedStatus := (Expectation.classify c.expected).statusOr intent.expectedStatus }

variable [Url.Idna]

/-- Runs one case. -/
def runCase (r : Runner) (c : TestCase) (p : Progress) : CaseOutcome × Progress :=
  let scope := p.session.scope r.settings.stopRule c.precondition
  let inside := p.session.enter r.settings.stopRule c.precondition
  let (execution, sent) := (callOf r.settings c).execute r.send r.settings.timeout inside p.sent
  let session := inside.leave scope
  let verdict := (Expectation.classify c.expected).judge execution
  let outcome : CaseOutcome := {
    testCase := c
    actual := execution.response.describe
    verdict
    response := execution.response }
  (outcome, {
    session := session.capture r.settings.loginRule c.id verdict execution.response
    sent })

/-- Runs cases in order. After each, the observer is told its position, the number of cases and
what came of it. -/
def runFrom {σ : Type} (r : Runner) (observe : Nat → Nat → CaseOutcome → σ → σ) (total : Nat) :
    Nat → List TestCase → Progress × σ → List CaseOutcome × Progress × σ
  | _, [], state => ([], state)
  | done, c :: rest, (p, seen) =>
    let (outcome, p) := r.runCase c p
    let (later, state) := runFrom r observe total (done + 1) rest
      (p, observe (done + 1) total outcome seen)
    (outcome :: later, state)

/-- Runs the selected cases in a session that goes on. -/
def runInSession {σ : Type} (r : Runner) (observe : Nat → Nat → CaseOutcome → σ → σ)
    (cases : List TestCase) (selected : Option (List String)) (p : Progress) (seen : σ) :
    List CaseOutcome × Progress × σ :=
  let cases := TestCase.select cases selected
  r.runFrom observe cases.length 0 cases (p, seen)

/-- Runs the selected cases in a session of their own: what came of them, and the requests sent so
far. -/
def runAll (r : Runner) (cases : List TestCase) (selected : Option (List String))
    (sent : List Http.Request) : List CaseOutcome × List Http.Request :=
  let (outcomes, p, _) := r.runInSession (fun _ _ _ seen => seen) cases selected
    { session := r.settings.newSession, sent } ()
  (outcomes, p.sent)

end Runner
end CaseSheet

import CaseSheet.Proofs.Scope
import CaseSheet.Runner
import Mathlib.Data.List.Infix
/-!
# One case on the wire

What a single case does, said once for everything that follows. A case puts one question to the
other end, or none: its step names the request, its precondition and the session name the base URL
and the token, and the transport answers. The three ways in which that can go are an `Exchange`.

* `Runner.runCase_eq`: running a case is its exchange, a verdict on it, and the capture of a token.
* `Runner.session_runCase`, `Runner.sent_runCase`: what it changes.
* `Runner.verdict_runCase`: the verdict as one truth value for each way it can go.
-/

namespace CaseSheet

namespace Intent

/-- The status of a step whose expected result names none: 201 for signing up, otherwise 200. -/
def usualStatus (i : Intent) : Nat :=
  if i.method = .post ∧ "/signup".toList <:+: i.endpoint.toList then 201 else 200

theorem expectedStatus_ofGet (endpoint : String) :
    (ofGet endpoint).expectedStatus = (ofGet endpoint).usualStatus := by
  simp [ofGet, usualStatus]

theorem expectedStatus_ofPost (endpoint : String) (later : List (List Char)) :
    (ofPost endpoint later).expectedStatus = (ofPost endpoint later).usualStatus := by
  simp only [ofPost, usualStatus, true_and, Text.mentions_iff_isInfix]

/-- Every step has the usual status of its own request. -/
theorem expectedStatus_ofStep (fallback step : String) :
    (ofStep fallback step).expectedStatus = (ofStep fallback step).usualStatus := by
  unfold ofStep
  cases Text.filledLines step.toList with
  | nil => exact expectedStatus_ofGet fallback
  | cons first later =>
    simp only [ofLines]
    split
    · exact expectedStatus_ofGet _
    · split
      · exact expectedStatus_ofPost _ later
      · exact expectedStatus_ofGet fallback

end Intent

namespace Http.Headers

/-- The headers of a request that brings none of its own. -/
def ofToken : Option String → Headers
  | none => [("Content-Type", "application/json")]
  | some t => [("Content-Type", "application/json"), ("Authorization", "Bearer " ++ t)]

theorem build_nil (token : Option String) : build [] token = ofToken token := by
  have h : has base "authorization" = false := by decide
  cases token with
  | none => rfl
  | some t => simp only [build, List.foldl_nil, h, Bool.false_eq_true, if_false]; rfl

end Http.Headers

/-- The precondition of a case stops the server: the marker is not empty and stands in it. -/
def RunSettings.Stops (s : RunSettings) (c : TestCase) : Prop :=
  s.serverDownMarker ≠ "" ∧ s.serverDownMarker.toList <:+: c.precondition.toList

instance (s : RunSettings) (c : TestCase) : Decidable (s.Stops c) :=
  inferInstanceAs (Decidable (_ ∧ _))

theorem RunSettings.applies_stopRule_iff {s : RunSettings} {c : TestCase} :
    s.stopRule.applies c.precondition = true ↔ s.Stops c := StopRule.applies_iff

/-- How it went to ask the other end on behalf of a case. -/
inductive Exchange where
  /-- The endpoint stands for no URL; nothing was sent. -/
  | unresolved (error : Url.ParseError)
  /-- A request was sent, and no reply came. -/
  | unanswered (request : Http.Request) (error : Http.TransportError)
  | replied (request : Http.Request) (reply : Http.Reply)

namespace Exchange

/-- The request that was sent, if there was one. -/
def request? : Exchange → Option Http.Request
  | .unresolved _ => none
  | .unanswered q _ | .replied q _ => some q

/-- No response was obtained. -/
inductive Failed : Exchange → Prop
  | unresolved (e : Url.ParseError) : Failed (.unresolved e)
  | unanswered (q : Http.Request) (e : Http.TransportError) : Failed (.unanswered q e)

/-- The response that reports the exchange. -/
def response (endpoint : String) : Exchange → Http.Response
  | .unresolved e => .ofCause (.unresolved endpoint e)
  | .unanswered _ e => .ofCause e.cause
  | .replied q reply => .answered {
      status := reply.status
      data := reply.data
      headers := reply.headers
      url := q.url.text
      method := q.method.name }

end Exchange

namespace Runner

/-- The request that the step of a case asks for. -/
def intentOf (r : Runner) (c : TestCase) : Intent :=
  .ofStep r.settings.defaultEndpoint c.steps

/-- The base URL that the endpoint of a case is resolved against. -/
def baseFor (r : Runner) (c : TestCase) (baseUrl : String) : String :=
  if r.settings.Stops c then r.settings.unreachableBaseUrl else baseUrl

theorem baseUrl_enter_stopRule (r : Runner) (c : TestCase) (s : Session) :
    (s.enter r.settings.stopRule c.precondition).baseUrl = r.baseFor c s.baseUrl := by
  rw [Session.baseUrl_enter, baseFor]
  by_cases h : r.settings.Stops c
  · rw [if_pos h, if_pos (RunSettings.applies_stopRule_iff.2 h)]; rfl
  · rw [if_neg h, if_neg (fun h' => h (RunSettings.applies_stopRule_iff.1 h'))]

variable [Url.Idna]

/-- What the endpoint of a case stands for. -/
def urlOf (r : Runner) (c : TestCase) (baseUrl : String) : Except Url.ParseError Url :=
  Http.resolve (r.baseFor c baseUrl) (r.intentOf c).endpoint

/-- The request of a case to a URL. -/
def requestTo (r : Runner) (c : TestCase) (token : Option String) (url : Url) : Http.Request :=
  { method := (r.intentOf c).method
    url
    headers := .ofToken token
    body := (r.intentOf c).body
    timeout := r.settings.timeout }

/-- What a case asks the other end, and what that makes of it. -/
def exchange (r : Runner) (c : TestCase) (p : Progress) : Exchange :=
  match r.urlOf c p.session.baseUrl with
  | .error e => .unresolved e
  | .ok url =>
    match r.send p.sent (r.requestTo c p.session.token url) with
    | .error e => .unanswered (r.requestTo c p.session.token url) e
    | .ok reply => .replied (r.requestTo c p.session.token url) reply

theorem exchange_of_reply {r : Runner} {c : TestCase} {p : Progress} {url : Url}
    {reply : Http.Reply} (hurl : r.urlOf c p.session.baseUrl = .ok url)
    (hsend : r.send p.sent (r.requestTo c p.session.token url) = .ok reply) :
    r.exchange c p = .replied (r.requestTo c p.session.token url) reply := by
  rw [exchange, hurl]
  simp only [hsend]

/-- A case asks at most one question, and which one does not depend on any answer. -/
theorem request?_exchange (r : Runner) (c : TestCase) (p : Progress) :
    (r.exchange c p).request? =
      (r.urlOf c p.session.baseUrl).toOption.map (r.requestTo c p.session.token) := by
  rw [exchange]
  cases r.urlOf c p.session.baseUrl with
  | error e => rfl
  | ok url =>
    simp only [Except.toOption, Option.map_some]
    cases r.send p.sent (r.requestTo c p.session.token url) <;> rfl

/-- An answer counts when it came with the status that the call expected. -/
def matched (r : Runner) (c : TestCase) : Exchange → Bool
  | .unresolved _ | .unanswered _ _ => false
  | .replied _ reply => reply.status == (callOf r.settings c).expectedStatus

/-- The request of the call of a case, made inside its scope. -/
theorem request_callOf (r : Runner) (c : TestCase) (s : Session) :
    (callOf r.settings c).request r.settings.timeout
        (s.enter r.settings.stopRule c.precondition) =
      match r.urlOf c s.baseUrl with
      | .error e => .error (.unresolved (r.intentOf c).endpoint e)
      | .ok url => .ok (r.requestTo c s.token url) := by
  have hurl : Http.resolve (r.baseFor c s.baseUrl)
      (Intent.ofStep r.settings.defaultEndpoint c.steps).endpoint = r.urlOf c s.baseUrl := rfl
  simp only [Http.Call.request, callOf, Http.Method.ofText?_name, baseUrl_enter_stopRule, hurl]
  cases r.urlOf c s.baseUrl with
  | error e => rfl
  | ok url => simp only [Session.token_enter, Http.Headers.build_nil, requestTo, intentOf]

/-- The call of a case goes as its exchange does, and sends what the exchange sent. -/
theorem execute_callOf (r : Runner) (c : TestCase) (p : Progress) :
    (callOf r.settings c).execute r.send r.settings.timeout
        (p.session.enter r.settings.stopRule c.precondition) p.sent =
      ({ matched := r.matched c (r.exchange c p)
         response := (r.exchange c p).response (r.intentOf c).endpoint },
        p.sent ++ (r.exchange c p).request?.toList) := by
  rw [Http.Call.execute, request_callOf, exchange]
  cases r.urlOf c p.session.baseUrl with
  | error e => simp [matched, Exchange.response, Exchange.request?]
  | ok url =>
    simp only
    cases r.send p.sent (r.requestTo c p.session.token url) with
    | error e => simp [Http.Execution.ofReply, matched, Exchange.response, Exchange.request?]
    | ok reply => simp [Http.Execution.ofReply, matched, Exchange.response, Exchange.request?]

/-- **One case**: its exchange, the verdict on that, and the capture of a token. The scope of the
case leaves no trace in the session. -/
theorem runCase_eq (r : Runner) (c : TestCase) (p : Progress) :
    r.runCase c p =
      let response := (r.exchange c p).response (r.intentOf c).endpoint
      let verdict := (Expectation.classify c.expected).judge
        { matched := r.matched c (r.exchange c p), response }
      ({ testCase := c, actual := response.describe, verdict, response },
        { session := p.session.capture r.settings.loginRule c.id verdict response
          sent := p.sent ++ (r.exchange c p).request?.toList }) := by
  simp only [runCase, execute_callOf, Session.leave_enter]

@[simp] theorem testCase_runCase (r : Runner) (c : TestCase) (p : Progress) :
    (r.runCase c p).1.testCase = c := by
  rw [runCase_eq]

theorem sent_runCase (r : Runner) (c : TestCase) (p : Progress) :
    (r.runCase c p).2.sent = p.sent ++ (r.exchange c p).request?.toList := by
  rw [runCase_eq]

theorem session_runCase (r : Runner) (c : TestCase) (p : Progress) :
    (r.runCase c p).2.session =
      p.session.capture r.settings.loginRule c.id (r.runCase c p).1.verdict
        (r.runCase c p).1.response := by
  rw [runCase_eq]

@[simp] theorem baseUrl_runCase (r : Runner) (c : TestCase) (p : Progress) :
    (r.runCase c p).2.session.baseUrl = p.session.baseUrl := by
  rw [session_runCase, Session.baseUrl_capture]

/-- The verdict on a case, one truth value for each way in which its exchange can go. -/
theorem verdict_runCase (r : Runner) (c : TestCase) (p : Progress) :
    (r.runCase c p).1.verdict = .ofBool (match r.exchange c p with
      | .unresolved _ | .unanswered _ _ => (Expectation.classify c.expected).failure
      | .replied _ reply =>
        (Expectation.classify c.expected).accepts reply.status &&
          (Expectation.classify c.expected).fitsShape reply.status reply.data &&
          reply.status ==
            (Expectation.classify c.expected).statusOr (r.intentOf c).expectedStatus) := by
  rw [runCase_eq]
  simp only [Expectation.judge]
  cases r.exchange c p <;>
    simp [Exchange.response, matched, Expectation.fits, Http.Response.ofCause,
      Http.Response.isFailure, callOf, intentOf]

end Runner
end CaseSheet

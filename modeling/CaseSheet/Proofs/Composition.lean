import CaseSheet.Proofs.Token
/-!
# Runs put together and taken apart

What one case leaves to the next is its session and, for the transport, the requests sent so far.
So a run may be cut anywhere and continued later, and a case that changes no session may be left
out where the transport does not look back.

* `Runner.runInSession_append`: a run is its two halves one after the other, and its cases one by
  one; a run on its own is that in a new session.
* `Runner.steps_of_session_eq`: against a transport without memory, the session decides what a run
  comes to.
* `Runner.runInSession_without`: a case that delivers no token can be left out.
-/

namespace CaseSheet

namespace Runner

variable [Url.Idna]

/-! ## Cuts -/

/-- Single cases one after the other are the steps of a run. -/
theorem useAll_one {σ : Type} (r : Runner) (cs : List TestCase) (p : Progress) (seen : σ) :
    r.useAll (cs.map .one) p seen = ((r.steps cs p).map (·.outcome), r.final cs p, seen) := by
  induction cs generalizing p with
  | nil => rfl
  | cons c cs ih =>
    simp only [List.map_cons, useAll, use, ih, steps, final, List.cons_append, List.nil_append]

theorem runAll_eq (r : Runner) (cases : List TestCase) (selected : Option (List String))
    (sent : List Http.Request) :
    r.runAll cases selected sent =
      let chosen := cases.filter (TestCase.isSelected selected)
      let p : Progress := ⟨⟨r.settings.baseUrl, none⟩, sent⟩
      ((r.steps chosen p).map (·.outcome), (r.final chosen p).sent) := by
  simp only [runAll, runInSession_eq]
  rfl

/-- **A run may be split.** With the same selection, a run of two lists of cases has the outcomes of
a run of the first and then, in the same session, a run of the second, and leaves the same session
and the same requests; both are what the selected cases come to one by one; and a run in a session
of its own is that for a session at the configured base URL and without a token. -/
theorem runInSession_append {σ τ υ : Type} (r : Runner) (selected : Option (List String))
    (a b : List TestCase) (p : Progress)
    (observe : Nat → Nat → CaseOutcome → σ → σ) (seen : σ)
    (observeA : Nat → Nat → CaseOutcome → τ → τ) (seenA : τ)
    (observeB : Nat → Nat → CaseOutcome → υ → υ) (seenB : υ) :
    let whole := r.runInSession observe (a ++ b) selected p seen
    let first := r.runInSession observeA a selected p seenA
    let second := r.runInSession observeB b selected first.2.1 seenB
    let single := fun start => r.useAll
      (((a ++ b).filter (TestCase.isSelected selected)).map .one) start ()
    (whole.1 = first.1 ++ second.1 ∧ whole.2.1 = second.2.1) ∧
    (whole.1 = (single p).1 ∧ whole.2.1 = (single p).2.1) ∧
    ∀ sent, r.runAll (a ++ b) selected sent =
      ((single ⟨⟨r.settings.baseUrl, none⟩, sent⟩).1,
        (single ⟨⟨r.settings.baseUrl, none⟩, sent⟩).2.1.sent) := by
  intro whole first second single
  have hsingle : ∀ start, single start =
      ((r.steps ((a ++ b).filter (TestCase.isSelected selected)) start).map (·.outcome),
        r.final ((a ++ b).filter (TestCase.isSelected selected)) start, ()) :=
    fun start => r.useAll_one _ start ()
  refine ⟨?_, ?_, ?_⟩
  · simp only [whole, first, second, runInSession_eq, List.filter_append, steps_append,
      final_append, List.map_append, and_self]
  · simp only [whole, hsingle, runInSession_eq, and_self]
  · intro sent
    rw [runAll_eq, hsingle]

end Runner

/-! ## Transports without memory -/

/-- What a transport answers depends on the request alone. -/
def Http.IsStateless (send : Http.Transport) : Prop :=
  ∀ earlier earlier' request, send earlier request = send earlier' request

/-- A response carries a text under a field of its data. -/
def Http.Response.CarriesText (response : Http.Response) (field text : String) : Prop :=
  ∃ answer fields, response = .answered answer ∧ answer.data = .object fields ∧
    Fields.get? fields field = some (.string text)

namespace Runner

section

variable [Url.Idna] {r : Runner} {p p' : Progress}

theorem exchange_of_session_eq (hsend : Http.IsStateless r.send) (c : TestCase)
    (h : p.session = p'.session) : r.exchange c p = r.exchange c p' := by
  rw [exchange, exchange, h]
  cases r.urlOf c p'.session.baseUrl with
  | error e => rfl
  | ok url => simp only [hsend p.sent p'.sent]

/-- The session decides what one case comes to, and the session behind it. -/
theorem runCase_of_session_eq (hsend : Http.IsStateless r.send) (c : TestCase)
    (h : p.session = p'.session) :
    (r.runCase c p).1 = (r.runCase c p').1 ∧
      (r.runCase c p).2.session = (r.runCase c p').2.session := by
  rw [runCase_eq, runCase_eq, exchange_of_session_eq hsend c h, h]
  exact ⟨rfl, rfl⟩

/-- **The session decides what a run comes to**, and the session behind it. -/
theorem steps_of_session_eq (hsend : Http.IsStateless r.send) (cs : List TestCase)
    (h : p.session = p'.session) :
    (r.steps cs p).map (·.outcome) = (r.steps cs p').map (·.outcome) ∧
      (r.final cs p).session = (r.final cs p').session := by
  induction cs generalizing p p' with
  | nil => exact ⟨rfl, h⟩
  | cons c cs ih =>
    obtain ⟨houtcome, hsession⟩ := runCase_of_session_eq hsend c h
    obtain ⟨hlater, hfinal⟩ := ih hsession
    simp only [steps, final, List.map_cons, houtcome, hlater, hfinal, and_self]

/-- A case that is no login, does not pass, or carries no token leaves the session as it was. -/
theorem session_runCase_of_no_token {c : TestCase}
    (h : c.id ≠ r.settings.loginCaseId ∨ (r.runCase c p).1.verdict = .fail ∨
      ∀ t, ¬ (r.runCase c p).1.response.CarriesText r.settings.tokenField t) :
    (r.runCase c p).2.session = p.session := by
  rcases hrun : r.runCase c p with ⟨o, p'⟩
  rw [hrun] at h
  refine session_of_not_delivers hrun fun t ht => ?_
  obtain ⟨hid, hpass, hcarries⟩ := ht
  have hcase := r.testCase_runCase c p
  rw [hrun] at hcase
  rcases h with h | h | h
  · exact h (hcase ▸ hid)
  · rw [hpass] at h
    cases h
  · exact h t hcarries

/-- **A case that delivers no token can be left out.** Against a transport whose answers depend on
the request alone, the run without the case has the outcomes of the run with it, less the outcome
of the case itself, and both end in the same session. What was sent before does not matter. -/
theorem runInSession_without {σ τ : Type} (r : Runner) (hsend : Http.IsStateless r.send)
    (selected : Option (List String)) (a b : List TestCase) (c : TestCase) (s : Session)
    (sent sent' : List Http.Request)
    (observe : Nat → Nat → CaseOutcome → σ → σ) (seen : σ)
    (observe' : Nat → Nat → CaseOutcome → τ → τ) (seen' : τ)
    (h : let o := (r.runCase c (r.final (a.filter (TestCase.isSelected selected)) ⟨s, sent⟩)).1
      c.id ≠ r.settings.loginCaseId ∨ o.verdict = .fail ∨
        ∀ t, ¬ o.response.CarriesText r.settings.tokenField t) :
    ∃ before own after,
      (r.runInSession observe (a ++ [c] ++ b) selected ⟨s, sent⟩ seen).1 = before ++ own ++ after ∧
      (r.runInSession observe' (a ++ b) selected ⟨s, sent'⟩ seen').1 = before ++ after ∧
      before.map (·.testCase) = a.filter (TestCase.isSelected selected) ∧
      own.map (·.testCase) = [c].filter (TestCase.isSelected selected) ∧
      after.map (·.testCase) = b.filter (TestCase.isSelected selected) ∧
      (r.runInSession observe (a ++ [c] ++ b) selected ⟨s, sent⟩ seen).2.1.session =
        (r.runInSession observe' (a ++ b) selected ⟨s, sent'⟩ seen').2.1.session := by
  generalize hchosen : TestCase.isSelected selected = chosen at h
  -- The case leaves the session as it was, and the session decides what comes behind it.
  have hown : (r.final ([c].filter chosen) (r.final (a.filter chosen) ⟨s, sent⟩)).session =
      (r.final (a.filter chosen) ⟨s, sent⟩).session := by
    cases hc : chosen c with
    | false =>
      simp only [List.filter_cons, hc, Bool.false_eq_true, if_false, List.filter_nil, final]
    | true =>
      simp only [List.filter_cons, hc, if_true, List.filter_nil, final]
      exact session_runCase_of_no_token h
  have hstart : (Progress.mk s sent).session = (Progress.mk s sent').session := rfl
  obtain ⟨hbefore, hmiddle⟩ := steps_of_session_eq hsend (a.filter chosen) hstart
  obtain ⟨hafter, hfinal⟩ := steps_of_session_eq hsend (b.filter chosen) (hown.trans hmiddle)
  refine ⟨(r.steps (a.filter chosen) ⟨s, sent⟩).map (·.outcome),
    (r.steps ([c].filter chosen) (r.final (a.filter chosen) ⟨s, sent⟩)).map (·.outcome),
    (r.steps (b.filter chosen) (r.final ([c].filter chosen)
      (r.final (a.filter chosen) ⟨s, sent⟩))).map (·.outcome), ?_, ?_, ?_, ?_, ?_, ?_⟩
  · simp only [runInSession_eq, hchosen, List.filter_append, steps_append, final_append,
      List.map_append]
  · simp only [runInSession_eq, hchosen, List.filter_append, steps_append, List.map_append,
      hbefore, hafter]
  · rw [List.map_map]
    exact r.testCase_steps _ _
  · rw [List.map_map]
    exact r.testCase_steps _ _
  · rw [List.map_map]
    exact r.testCase_steps _ _
  · simp only [runInSession_eq, hchosen, List.filter_append, final_append, hfinal]

end

/-- A case that stops the server, between a login and a case behind it. -/
theorem runInSession_without_stopped :
    let r : Runner := { settings := {}, send := fun _ _ => .error (.timeout "slow") }
    let login : TestCase := ⟨"TC009", "auth", "login", "", "POST /login", "200", ""⟩
    let stopped : TestCase := ⟨"TC013", "fault", "down", "서버중지", "GET /x", "연결실패", ""⟩
    let later : TestCase := ⟨"TC001", "api", "trends", "", "GET /y", "200", ""⟩
    let s : Session := ⟨"http://localhost:3000", none⟩
    let quiet := fun (_ _ : Nat) (_ : CaseOutcome) (seen : Unit) => seen
    Http.IsStateless r.send ∧ stopped.id ≠ r.settings.loginCaseId ∧
    ∃ before own after,
      (r.runInSession quiet ([login] ++ [stopped] ++ [later]) none ⟨s, []⟩ ()).1 =
        before ++ own ++ after ∧
      (r.runInSession quiet ([login] ++ [later]) none ⟨s, []⟩ ()).1 = before ++ after ∧
      before.map (·.testCase) = [login] ∧ own.map (·.testCase) = [stopped] ∧
      after.map (·.testCase) = [later] ∧
      (r.runInSession quiet ([login] ++ [stopped] ++ [later]) none ⟨s, []⟩ ()).2.1.session =
        (r.runInSession quiet ([login] ++ [later]) none ⟨s, []⟩ ()).2.1.session := by
  intro r login stopped later s quiet
  have hsend : Http.IsStateless r.send := fun _ _ _ => rfl
  have hid : stopped.id ≠ r.settings.loginCaseId := by decide
  exact ⟨hsend, hid, r.runInSession_without hsend none [login] [later] stopped s [] [] quiet ()
    quiet () (Or.inl hid)⟩

end Runner
end CaseSheet

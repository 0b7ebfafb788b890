import CaseSheet.Proofs.Run
import Mathlib.Data.List.Induction
/-!
# The token of a session

A session has the token that the last login delivered, whatever runs and single cases it was used
for. The history that counts is the list of outcomes: `LoginRule.Delivers` says of an outcome alone
that it brings a token, and `LoginRule.Latest` which token a list of outcomes leaves.

* `Runner.carriesToken_of_runCase`: one case sends the token that is there and takes over the one
  that it delivers.
* `Runner.latest_final`: the token behind a list of cases is the latest one delivered.
* `Runner.useAll_token_history`: so it is at every case of every sequence of uses.
-/

namespace CaseSheet

/-! ## Deliveries -/

namespace LoginRule

/-- An outcome delivers a token: it is a login that passed, and the data of its answer are an object
with the token as a text under the field of the rule. -/
def Delivers (rule : LoginRule) (o : CaseOutcome) (t : String) : Prop :=
  o.testCase.id = rule.caseId ∧ o.verdict = .pass ∧
    ∃ answer fields, o.response = .answered answer ∧ answer.data = .object fields ∧
      Fields.get? fields rule.tokenField = some (.string t)

/-- The token that outcomes leave: that of the latest one which delivers any, or the initial one. -/
def Latest (rule : LoginRule) (initial : Option String) (outcomes : List CaseOutcome)
    (token : Option String) : Prop :=
  (∃ older o newer t, outcomes = older ++ o :: newer ∧ rule.Delivers o t ∧
      (∀ o' ∈ newer, ∀ t', ¬ rule.Delivers o' t') ∧ token = some t) ∨
    (∀ o ∈ outcomes, ∀ t, ¬ rule.Delivers o t) ∧ token = initial

variable {rule : LoginRule} {o : CaseOutcome} {t : String}

theorem text_field?_eq_some_iff {v : Json.Value} {k : String} :
    (v.field? k).bind Json.Value.text? = some t ↔
      ∃ fields, v = .object fields ∧ Fields.get? fields k = some (.string t) := by
  rw [Option.bind_eq_some_iff]
  constructor
  · rintro ⟨w, hw, ht⟩
    cases v <;> simp only [Json.Value.field?, reduceCtorEq] at hw
    cases w <;> simp only [Json.Value.text?, reduceCtorEq, Option.some.injEq] at ht
    exact ⟨_, rfl, by rw [hw, ht]⟩
  · rintro ⟨fields, rfl, hf⟩
    exact ⟨.string t, hf, rfl⟩

theorem data?_eq_some_iff {response : Http.Response} {v : Json.Value} :
    response.data? = some v ↔ ∃ answer, response = .answered answer ∧ answer.data = v := by
  cases response <;> simp [Http.Response.data?]

/-- What the session takes over is what the outcome delivers. -/
theorem token?_eq_some_iff :
    rule.token? o.testCase.id o.verdict o.response = some t ↔ rule.Delivers o t := by
  have hpass : o.verdict.isPass = true ↔ o.verdict = .pass := by
    cases o.verdict <;> simp [Verdict.isPass]
  rw [token?, Delivers, ← hpass, ← and_assoc]
  split
  · next h =>
    rw [and_iff_right h]
    constructor
    · intro ht
      obtain ⟨v, hv, hf⟩ := Option.bind_eq_some_iff.1 ht
      obtain ⟨answer, hresponse, rfl⟩ := data?_eq_some_iff.1 hv
      obtain ⟨fields, hdata, hget⟩ := text_field?_eq_some_iff.1 hf
      exact ⟨answer, fields, hresponse, hdata, hget⟩
    · rintro ⟨answer, fields, hresponse, hdata, hget⟩
      exact Option.bind_eq_some_iff.2 ⟨answer.data, data?_eq_some_iff.2 ⟨answer, hresponse, rfl⟩,
        text_field?_eq_some_iff.2 ⟨fields, hdata, hget⟩⟩
  · next h => simp only [reduceCtorEq, h, false_and]

theorem token?_eq_none_iff :
    rule.token? o.testCase.id o.verdict o.response = none ↔ ∀ t, ¬ rule.Delivers o t := by
  rw [Option.eq_none_iff_forall_ne_some]
  exact forall_congr' fun t => not_congr token?_eq_some_iff

/-! ## Histories -/

theorem latest_nil {initial : Option String} : rule.Latest initial [] initial :=
  Or.inr ⟨fun _ h => absurd h List.not_mem_nil, rfl⟩

theorem Latest.of_delivers {initial : Option String} {outcomes : List CaseOutcome}
    (h : rule.Delivers o t) : rule.Latest initial (outcomes ++ [o]) (some t) :=
  Or.inl ⟨outcomes, o, [], t, rfl, h, fun _ h => absurd h List.not_mem_nil, rfl⟩

theorem Latest.of_not_delivers {initial token : Option String} {outcomes : List CaseOutcome}
    (hlatest : rule.Latest initial outcomes token) (h : ∀ t, ¬ rule.Delivers o t) :
    rule.Latest initial (outcomes ++ [o]) token := by
  rcases hlatest with ⟨older, o₁, newer, t, rfl, ho₁, hnewer, rfl⟩ | ⟨hnone, rfl⟩
  · refine Or.inl ⟨older, o₁, newer ++ [o], t, by simp, ho₁, ?_, rfl⟩
    intro o' ho'
    rcases List.mem_append.1 ho' with ho' | ho'
    · exact hnewer o' ho'
    · rw [List.mem_singleton.1 ho']
      exact h
  · refine Or.inr ⟨?_, rfl⟩
    intro o' ho'
    rcases List.mem_append.1 ho' with ho' | ho'
    · exact hnone o' ho'
    · rw [List.mem_singleton.1 ho']
      exact h

end LoginRule

theorem Http.Headers.bearer_mem_ofToken_iff {token : Option String} {t : String} :
    ("Authorization", "Bearer " ++ t) ∈ ofToken token ↔ token = some t := by
  cases token with
  | none => simp [ofToken]
  | some t' => simp [ofToken, eq_comm]

namespace Runner

variable [Url.Idna]

/-! ## One case -/

/-- What a step does with the token: it runs its case; where the endpoint of the case stands for a
URL it sends one request, the one that the case asks for, with the token from before and no other,
and elsewhere none; a delivery replaces the token; without one the session stays as it is; and no
answer to the case, hence no token that it is about to deliver, has a part in what it sends. -/
structure CarriesToken (r : Runner) (s : CaseStep) : Prop where
  runs : (s.outcome, s.after) = r.runCase s.testCase s.before
  sends : r.resolves s.before.session.baseUrl s.testCase = true →
    ∃ q, s.after.sent = s.before.sent ++ [q] ∧ r.Asks s.before.session.baseUrl s.testCase q ∧
      q.headers = .ofToken s.before.session.token ∧
      ∀ t, ("Authorization", "Bearer " ++ t) ∈ q.headers → s.before.session.token = some t
  silent : r.resolves s.before.session.baseUrl s.testCase = false → s.after.sent = s.before.sent
  replaces : ∀ t, r.settings.loginRule.Delivers s.outcome t →
    s.after.session = { s.before.session with token := some t }
  keeps : (∀ t, ¬ r.settings.loginRule.Delivers s.outcome t) → s.after.session = s.before.session
  blind : ∀ send, (runCase { r with send } s.testCase s.before).2.sent = s.after.sent

variable {r : Runner} {c : TestCase} {p p' : Progress} {o : CaseOutcome}

theorem session_of_delivers {t : String} (hrun : r.runCase c p = (o, p'))
    (h : r.settings.loginRule.Delivers o t) :
    p'.session = { p.session with token := some t } := by
  have hsession := r.session_runCase c p
  have hcase := r.testCase_runCase c p
  rw [hrun] at hsession hcase
  rw [hsession, ← hcase, Session.capture, LoginRule.token?_eq_some_iff.2 h]

theorem session_of_not_delivers (hrun : r.runCase c p = (o, p'))
    (h : ∀ t, ¬ r.settings.loginRule.Delivers o t) : p'.session = p.session := by
  have hsession := r.session_runCase c p
  have hcase := r.testCase_runCase c p
  rw [hrun] at hsession hcase
  rw [hsession, ← hcase, Session.capture, LoginRule.token?_eq_none_iff.2 h]

/-- **One case** sends the token that is there and takes over the one that it delivers. -/
theorem carriesToken_of_runCase (hrun : r.runCase c p = (o, p')) :
    r.CarriesToken ⟨p, o, p'⟩ := by
  have hsent := r.sent_runCase c p
  have hcases := r.sent_runCase_cases c p
  have hcase := r.testCase_runCase c p
  rw [hrun] at hsent hcases hcase
  subst hcase
  refine ⟨hrun.symm, ?_, ?_, ?_, ?_, ?_⟩
  · intro hresolves
    rcases hcases with ⟨q, hasks, hheaders, -, hq⟩ | ⟨hno, -⟩
    · refine ⟨q, hq, hasks, hheaders, fun t ht => ?_⟩
      rw [hheaders] at ht
      exact Http.Headers.bearer_mem_ofToken_iff.1 ht
    · exact absurd (hno.symm.trans hresolves) Bool.false_ne_true
  · intro hno
    rcases hcases with ⟨-, -, -, hresolves, -⟩ | ⟨-, hquiet⟩
    · exact absurd (hno.symm.trans hresolves) Bool.false_ne_true
    · exact hquiet
  · intro t ht
    exact session_of_delivers hrun ht
  · intro h
    exact session_of_not_delivers hrun h
  · intro send
    rw [hsent, sent_runCase, request?_exchange, request?_exchange]
    rfl

/-- No step clears a token. -/
theorem CarriesToken.isSome_after {s : CaseStep} (hs : r.CarriesToken s)
    (h : s.before.session.token.isSome = true) : s.after.session.token.isSome = true := by
  by_cases hd : ∃ t, r.settings.loginRule.Delivers s.outcome t
  · obtain ⟨t, ht⟩ := hd
    rw [hs.replaces t ht]
    rfl
  · rw [hs.keeps (fun t ht => hd ⟨t, ht⟩)]
    exact h

/-! ## All cases -/

theorem carriesToken_of_mem_steps {cs : List TestCase} {s : CaseStep} (h : s ∈ r.steps cs p) :
    r.CarriesToken s := by
  induction cs generalizing p with
  | nil => cases h
  | cons c cs ih =>
    rcases hrun : r.runCase c p with ⟨o, p'⟩
    simp only [steps, hrun] at h
    rcases List.mem_cons.1 h with rfl | h
    · exact carriesToken_of_runCase hrun
    · exact ih h

/-- **The token behind a list of cases** is the latest one delivered. -/
theorem latest_final (r : Runner) (cs : List TestCase) (p : Progress) :
    r.settings.loginRule.Latest p.session.token ((r.steps cs p).map (·.outcome))
      (r.final cs p).session.token := by
  -- On the end of the list: the last case either delivers, and then nothing comes after it, or
  -- leaves the session as it was.
  induction cs using List.reverseRecOn with
  | nil => exact LoginRule.latest_nil
  | append_singleton cs c ih =>
    rw [steps_append, final_append, List.map_append]
    rcases hrun : r.runCase c (r.final cs p) with ⟨o, p'⟩
    simp only [steps, final, hrun, List.map_cons, List.map_nil]
    by_cases hd : ∃ t, r.settings.loginRule.Delivers o t
    · obtain ⟨t, ht⟩ := hd
      rw [session_of_delivers hrun ht]
      exact .of_delivers ht
    · have hno : ∀ t, ¬ r.settings.loginRule.Delivers o t := fun t ht => hd ⟨t, ht⟩
      rw [session_of_not_delivers hrun hno]
      exact ih.of_not_delivers hno

/-- A token that is there stays there. -/
theorem isSome_of_mem_steps {cs : List TestCase} {s : CaseStep}
    (hp : p.session.token.isSome = true) (h : s ∈ r.steps cs p) :
    s.after.session.token.isSome = true := by
  induction cs generalizing p with
  | nil => cases h
  | cons c cs ih =>
    rcases hrun : r.runCase c p with ⟨o, p'⟩
    have hafter := (carriesToken_of_runCase hrun).isSome_after hp
    simp only [steps, hrun] at h
    rcases List.mem_cons.1 h with rfl | h
    · exact hafter
    · exact ih hafter h

/-- **The token at every case** of every sequence of uses of a session. The outcomes are those of
the cases one after the other; each case runs in the state that the earlier ones left, with the
token that the latest delivery among them brought, or the one that the session had at first, and
sends its request, if its endpoint stands for a URL, with that token; and once there is a token there
is one from then on. -/
theorem useAll_token_history {σ : Type} (r : Runner) (uses : List (SessionUse σ)) (p : Progress)
    (seen : σ) :
    let steps := r.steps (uses.flatMap SessionUse.cases) p
    (∃ seen', r.useAll uses p seen =
      (steps.map (·.outcome), r.final (uses.flatMap SessionUse.cases) p, seen')) ∧
    ∀ earlier s later, steps = earlier ++ s :: later →
      s.before = r.final (earlier.map (·.testCase)) p ∧
      r.CarriesToken s ∧
      r.settings.loginRule.Latest p.session.token (earlier.map (·.outcome))
        s.before.session.token ∧
      (s.before.session.token.isSome = true →
        ∀ s' ∈ s :: later, s'.after.session.token.isSome = true) := by
  intro steps
  refine ⟨r.useAll_eq uses p seen, ?_⟩
  intro earlier s later h
  obtain ⟨hearlier, hlater⟩ := steps_cut h
  have hbefore : s.before = r.final (earlier.map (·.testCase)) p := by
    rw [List.map_cons, Runner.steps] at hlater
    rw [← (List.cons.inj hlater).1]
  have hmem : s ∈ steps := by
    rw [h]
    exact List.mem_append_right _ List.mem_cons_self
  refine ⟨hbefore, carriesToken_of_mem_steps hmem, ?_, ?_⟩
  · have hlatest := r.latest_final (earlier.map (·.testCase)) p
    rw [hearlier, ← hbefore] at hlatest
    exact hlatest
  · intro hsome s' hs'
    rw [hbefore] at hsome
    rw [← hlater] at hs'
    exact isSome_of_mem_steps hsome hs'

end Runner
end CaseSheet

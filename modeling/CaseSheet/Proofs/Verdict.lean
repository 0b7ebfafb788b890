import CaseSheet.Proofs.Exchange
/-!
# When a case passes

The verdict on a case, told from the expected text and from what came back on the wire.

* `Runner.verdict_of_failed`, `Runner.verdict_of_replied`: the two halves of the rule.
* `Runner.verdict_eq_pass_iff`: the whole rule; of several codes named only the least one passes.
* `Runner.json_body_of_pass_iff`: an expectation of JSON may be met by a body that is no JSON, since
  such a body reaches the verdict as an object that holds its text; `html_page_passes` is a page
  that does so. An expectation of an array is not met in this way.
-/

namespace CaseSheet

@[simp] theorem Verdict.ofBool_eq_pass_iff {b : Bool} : ofBool b = .pass ↔ b = true := by
  cases b <;> simp [ofBool]

namespace Json.Value

theorem isArray_iff {v : Value} : v.isArray = true ↔ ∃ items, v = .array items := by
  cases v <;> simp [isArray]

theorem isObject_iff {v : Value} : v.isObject = true ↔ ∃ fields, v = .object fields := by
  cases v <;> simp [isObject]

end Json.Value

namespace Expectation

/-- Data have the shape that a text asks for: an array where it has a marker of arrays; where it
has only that of JSON, an array or an object, and this for status 200 alone. -/
def IsDueShape (text : String) (status : Nat) (data : Json.Value) : Prop :=
  (HasMarker arrayMarkers text → ∃ items, data = .array items) ∧
  (HasMarker [jsonMarker] text → ¬ HasMarker arrayMarkers text → status = 200 →
    (∃ items, data = .array items) ∨ ∃ fields, data = .object fields)

theorem fitsShape_classify_iff {text : String} {status : Nat} {data : Json.Value} :
    (classify text).fitsShape status data = true ↔ IsDueShape text status data := by
  rw [IsDueShape, ← and_imp, ← json_classify_iff, ← array_classify_iff, ← Json.Value.isArray_iff,
    ← Json.Value.isObject_iff, fitsShape]
  by_cases hs : status = 200 <;> cases (classify text).array <;> cases (classify text).json <;>
    simp [hs]

end Expectation

namespace Runner

variable [Url.Idna] {r : Runner} {c : TestCase} {p : Progress}

/-- Without a response a case passes where its text expects a failure. -/
theorem verdict_of_failed (h : (r.exchange c p).Failed) :
    (r.runCase c p).1.verdict = .pass ↔
      Expectation.HasMarker Expectation.failureMarkers c.expected := by
  rw [verdict_runCase, ← Expectation.failure_classify_iff]
  cases hx : r.exchange c p with
  | unresolved e => simp
  | unanswered q e => simp
  | replied q reply => rw [hx] at h; cases h

/-- With a reply a case passes where status and shape are due. -/
theorem verdict_of_replied {q : Http.Request} {reply : Http.Reply}
    (h : r.exchange c p = .replied q reply) :
    (r.runCase c p).1.verdict = .pass ↔
      Expectation.IsDueStatus c.expected (r.intentOf c).usualStatus reply.status ∧
        Expectation.IsDueShape c.expected reply.status reply.data := by
  have hu : (r.intentOf c).expectedStatus = (r.intentOf c).usualStatus :=
    Intent.expectedStatus_ofStep _ _
  rw [verdict_runCase, h, hu, ← Expectation.statusOr_classify_eq_iff,
    ← Expectation.fitsShape_classify_iff]
  simp only [Verdict.ofBool_eq_pass_iff, Bool.and_eq_true, beq_iff_eq]
  constructor
  · rintro ⟨⟨-, hshape⟩, hstatus⟩; exact ⟨hstatus.symm, hshape⟩
  · rintro ⟨hstatus, hshape⟩
    have hdue := Expectation.statusOr_classify_eq_iff.1 hstatus
    exact ⟨⟨Expectation.accepts_of_isDueStatus hdue, hshape⟩, hstatus.symm⟩

/-- **The verdict on a case.** It passes without a response if the text expects a failure, and with
a reply if its status is the least code named, or the usual one where none is named, and its data
have the shape asked for. So a code that is named beside a lesser one never passes, although the
expectation accepts it. -/
theorem verdict_eq_pass_iff (r : Runner) (c : TestCase) (p : Progress) :
    ((r.runCase c p).1.verdict = .pass ↔
      (r.exchange c p).Failed ∧ Expectation.HasMarker Expectation.failureMarkers c.expected ∨
      ∃ q reply, r.exchange c p = .replied q reply ∧
        Expectation.IsDueStatus c.expected (r.intentOf c).usualStatus reply.status ∧
        Expectation.IsDueShape c.expected reply.status reply.data) ∧
    ∀ q reply least, r.exchange c p = .replied q reply →
      IsLeast {n | Expectation.NamesCode c.expected n} least →
      Expectation.NamesCode c.expected reply.status → reply.status ≠ least →
      (Expectation.classify c.expected).accepts reply.status = true ∧
        (r.runCase c p).1.verdict = .fail := by
  refine ⟨?_, ?_⟩
  · cases hx : r.exchange c p with
    | unresolved e =>
      have hf : (r.exchange c p).Failed := hx ▸ .unresolved e
      rw [verdict_of_failed hf]
      simp [Exchange.Failed.unresolved]
    | unanswered q e =>
      have hf : (r.exchange c p).Failed := hx ▸ .unanswered q e
      rw [verdict_of_failed hf]
      simp [Exchange.Failed.unanswered]
    | replied q reply =>
      rw [verdict_of_replied hx]
      constructor
      · rintro ⟨hstatus, hshape⟩; exact Or.inr ⟨q, reply, rfl, hstatus, hshape⟩
      · rintro (⟨hf, -⟩ | ⟨q', reply', he, hdue⟩)
        · cases hf
        · cases he; exact hdue
  · intro q reply least hx hleast hnamed hne
    refine ⟨Expectation.accepts_classify_iff.2 (Or.inr hnamed), ?_⟩
    cases hv : (r.runCase c p).1.verdict with
    | fail => rfl
    | pass =>
      rcases ((verdict_of_replied hx).1 hv).1 with hdue | ⟨hnone, -⟩
      · exact absurd (Nat.le_antisymm (hdue.2 hleast.1) (hleast.2 hdue.1)) hne
      · exact absurd hnamed (hnone _)

end Runner

/-! ## Bodies that are no JSON -/

namespace Http.Reply

theorem data_of_parse? {reply : Reply} {v : Json.Value}
    (h : Json.parse? reply.body.toList = some v) : reply.data = v := by
  rw [data, h]

/-- A body that is no JSON comes as an object that holds it. -/
theorem data_of_parse?_eq_none {reply : Reply} (h : Json.parse? reply.body.toList = none) :
    ∃ fields, reply.data = .object fields := by
  rw [data, h]
  exact ⟨_, rfl⟩

end Http.Reply

namespace Expectation

/-- A body is a JSON text of the shape that a text asks for: an array or, unless arrays are asked
for, an object. -/
def IsDueBody (text body : String) : Prop :=
  ∃ v, Json.parse? body.toList = some v ∧
    ((∃ items, v = .array items) ∨
      ¬ HasMarker arrayMarkers text ∧ ∃ fields, v = .object fields)

/-- With status 200, data of the shape asked for come from such a body or from one that is no JSON;
the latter makes an object, so it cannot pass for an array. -/
theorem isDueShape_data_iff {text : String} {reply : Http.Reply}
    (h : (classify text).json = true ∨ (classify text).array = true) :
    IsDueShape text 200 reply.data ↔
      IsDueBody text reply.body ∨
        (classify text).json = true ∧ Json.parse? reply.body.toList = none := by
  rw [IsDueShape, IsDueBody, json_classify_iff]
  rw [json_classify_iff, array_classify_iff] at h
  cases hp : Json.parse? reply.body.toList with
  | none =>
    obtain ⟨fields, hd⟩ := Http.Reply.data_of_parse?_eq_none hp
    rw [hd]
    by_cases ha : HasMarker arrayMarkers text <;> simp_all
  | some v =>
    rw [Http.Reply.data_of_parse? hp]
    by_cases ha : HasMarker arrayMarkers text <;> simp_all

end Expectation

namespace Runner

/-- **An expectation of JSON is met by a JSON body alone**, unless a body that is no JSON comes with
status 200 where that status is due and no array is asked for: that one passes. -/
theorem json_body_of_pass_iff [Url.Idna] (r : Runner) (c : TestCase) (p : Progress) :
    (∀ q reply, r.exchange c p = .replied q reply → reply.status = 200 →
      (Expectation.classify c.expected).json = true ∨
        (Expectation.classify c.expected).array = true →
      (r.runCase c p).1.verdict = .pass → Expectation.IsDueBody c.expected reply.body) ↔
    ¬ ∃ q reply, r.exchange c p = .replied q reply ∧ reply.status = 200 ∧
      Json.parse? reply.body.toList = none ∧
      (Expectation.classify c.expected).json = true ∧
      Expectation.IsDueStatus c.expected (r.intentOf c).usualStatus 200 := by
  constructor
  · rintro hall ⟨q, reply, hx, hs, hp, hjson, hdue⟩
    have hshape : Expectation.IsDueShape c.expected 200 reply.data :=
      (Expectation.isDueShape_data_iff (Or.inl hjson)).2 (Or.inr ⟨hjson, hp⟩)
    have hpass : (r.runCase c p).1.verdict = .pass := by
      rw [verdict_of_replied hx, hs]
      exact ⟨hdue, hshape⟩
    obtain ⟨v, hv, -⟩ := hall q reply hx hs (Or.inl hjson) hpass
    rw [hp] at hv
    cases hv
  · intro hno q reply hx hs hask hpass
    rw [verdict_of_replied hx, hs, Expectation.isDueShape_data_iff hask] at hpass
    obtain ⟨hdue, hbody | ⟨hjson, hp⟩⟩ := hpass
    · exact hbody
    · exact absurd ⟨q, reply, hx, hs, hp, hjson, hdue⟩ hno

/-- A page of markup behind every URL. -/
def htmlServer : Runner :=
  { settings := {}
    send := fun _ _ => .ok { status := 200, headers := [], body := "<html></html>" } }

/-- A case that asks for a JSON object. -/
def objectCase : TestCase :=
  { id := "TC001", category := "", name := "", precondition := "", steps := "GET /api/v1/trends"
    expected := "200 OK, JSON 객체", notes := "" }

/-- The page is no JSON text, and the case that asks for one passes. -/
theorem html_page_passes :
    ∃ q reply, htmlServer.exchange objectCase ⟨htmlServer.settings.newSession, []⟩ =
        .replied q reply ∧
      reply.status = 200 ∧ (Expectation.classify objectCase.expected).json = true ∧
      (htmlServer.runCase objectCase ⟨htmlServer.settings.newSession, []⟩).1.verdict = .pass ∧
      ¬ Expectation.IsDueBody objectCase.expected reply.body := by
  have hok : (htmlServer.urlOf objectCase htmlServer.settings.baseUrl).isOk = true := by
    decide +kernel
  have hnone : Json.parse? "<html></html>".toList = none := by decide +kernel
  cases hurl : htmlServer.urlOf objectCase htmlServer.settings.baseUrl with
  | error e => rw [hurl] at hok; cases hok
  | ok url =>
    refine ⟨_, _, exchange_of_reply hurl rfl, rfl, by decide +kernel, by decide +kernel, ?_⟩
    rintro ⟨v, hv, -⟩
    rw [hnone] at hv
    cases hv

end Runner
end CaseSheet

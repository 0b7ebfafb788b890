import CaseSheet.Proofs.Exchange
import Mathlib.Data.List.Forall2
/-!
# Runs of cases

A run is its cases one after the other: `Runner.steps` lists them with the states between them, and
`Runner.final` is the state behind the last. What a run does follows from what one step does, by
induction on the list of cases.

* `Runner.runFrom_eq`: the loop with its observer is those steps.
* `Runner.sent_final`: the transport receives the requests of the cases that resolve, in order.
* `Runner.runInSession_trace`: a run in a session, its results, its observer, its requests and the
  base URL that it leaves.
* `Runner.useAll_eq`: any sequence of runs and single cases in one session is one list of steps.
-/

namespace CaseSheet

/-! ## Selections -/

/-- A selection takes a case: it is absent or empty, or holds the id. -/
def TestCase.isSelected : Option (List String) → TestCase → Bool
  | none, _ => true
  | some ids, c => ids.isEmpty || ids.contains c.id

theorem TestCase.select_eq_filter (cases : List TestCase) (selected : Option (List String)) :
    select cases selected = cases.filter (isSelected selected) := by
  match selected with
  | none => exact (List.filter_eq_self.2 fun _ _ => rfl).symm
  | some [] => exact (List.filter_eq_self.2 fun _ _ => rfl).symm
  | some (i :: is) => rfl

/-! ## Steps -/

/-- One case of a run: the state before it, what came of it, and the state behind it. -/
structure CaseStep where
  before : Progress
  outcome : CaseOutcome
  after : Progress

/-- The case that a step ran. -/
def CaseStep.testCase (s : CaseStep) : TestCase := s.outcome.testCase

namespace Runner

variable [Url.Idna]

/-- The cases of a run, one after the other. -/
def steps (r : Runner) : List TestCase → Progress → List CaseStep
  | [], _ => []
  | c :: cs, p => ⟨p, (r.runCase c p).1, (r.runCase c p).2⟩ :: steps r cs (r.runCase c p).2

/-- The state behind the last case. -/
def final (r : Runner) : List TestCase → Progress → Progress
  | [], p => p
  | c :: cs, p => final r cs (r.runCase c p).2

theorem final_append (r : Runner) (a b : List TestCase) (p : Progress) :
    r.final (a ++ b) p = r.final b (r.final a p) := by
  induction a generalizing p with
  | nil => rfl
  | cons c cs ih => simp only [List.cons_append, final, ih]

theorem steps_append (r : Runner) (a b : List TestCase) (p : Progress) :
    r.steps (a ++ b) p = r.steps a p ++ r.steps b (r.final a p) := by
  induction a generalizing p with
  | nil => rfl
  | cons c cs ih => simp only [List.cons_append, steps, ih, final]

/-- Every case has one step, in the order of the list. -/
theorem testCase_steps (r : Runner) (cs : List TestCase) (p : Progress) :
    (r.steps cs p).map (·.testCase) = cs := by
  induction cs generalizing p with
  | nil => rfl
  | cons c cs ih =>
    rw [steps, List.map_cons, ih, CaseStep.testCase, testCase_runCase]

/-- Wherever the steps of a run are cut in two, both parts are the steps of their own cases, the
second from the state behind the first. -/
theorem steps_cut {r : Runner} {cs : List TestCase} {p : Progress} {a b : List CaseStep}
    (h : r.steps cs p = a ++ b) :
    r.steps (a.map (·.testCase)) p = a ∧
      r.steps (b.map (·.testCase)) (r.final (a.map (·.testCase)) p) = b := by
  have hcs : cs = a.map (·.testCase) ++ b.map (·.testCase) := by
    rw [← List.map_append, ← h, testCase_steps]
  rw [hcs, steps_append] at h
  refine List.append_inj h ?_
  simpa using congrArg List.length (r.testCase_steps (a.map (·.testCase)) p)

/-- What an observer has seen when it was told of outcomes one by one, the first of them at position
`done + 1`. -/
def observed {σ : Type} (observe : Nat → Nat → CaseOutcome → σ → σ) (total done : Nat)
    (outcomes : List CaseOutcome) (seen : σ) : σ :=
  (outcomes.zipIdx (done + 1)).foldl (fun seen o => observe o.2 total o.1 seen) seen

/-- **The loop of a run** takes its steps and tells the observer of each. -/
theorem runFrom_eq {σ : Type} (r : Runner) (observe : Nat → Nat → CaseOutcome → σ → σ)
    (total done : Nat) (cs : List TestCase) (p : Progress) (seen : σ) :
    r.runFrom observe total done cs (p, seen) =
      ((r.steps cs p).map (·.outcome), r.final cs p,
        observed observe total done ((r.steps cs p).map (·.outcome)) seen) := by
  induction cs generalizing done p seen with
  | nil => rfl
  | cons c cs ih =>
    simp only [runFrom, ih, steps, final, List.map_cons, observed, List.zipIdx_cons,
      List.foldl_cons]

theorem runInSession_eq {σ : Type} (r : Runner) (observe : Nat → Nat → CaseOutcome → σ → σ)
    (cases : List TestCase) (selected : Option (List String)) (p : Progress) (seen : σ) :
    r.runInSession observe cases selected p seen =
      let chosen := cases.filter (TestCase.isSelected selected)
      ((r.steps chosen p).map (·.outcome), r.final chosen p,
        observed observe chosen.length 0 ((r.steps chosen p).map (·.outcome)) seen) := by
  rw [runInSession, TestCase.select_eq_filter, runFrom_eq]

/-! ## What a run keeps and what it sends -/

/-- No case leaves another base URL behind. -/
@[simp] theorem baseUrl_final (r : Runner) (cs : List TestCase) (p : Progress) :
    (r.final cs p).session.baseUrl = p.session.baseUrl := by
  induction cs generalizing p with
  | nil => rfl
  | cons c cs ih => rw [final, ih, baseUrl_runCase]

/-- The endpoint of a case stands for a URL where the session has a base URL. -/
def resolves (r : Runner) (baseUrl : String) (c : TestCase) : Bool := (r.urlOf c baseUrl).isOk

/-- A request is the one that a case makes where the session has a base URL. -/
structure Asks (r : Runner) (baseUrl : String) (c : TestCase) (q : Http.Request) : Prop where
  method : q.method = (r.intentOf c).method
  body : q.body = (r.intentOf c).body
  timeout : q.timeout = r.settings.timeout
  url : Http.resolve (r.baseFor c baseUrl) (r.intentOf c).endpoint = .ok q.url

/-- A case sends its one request if its URL resolves, and nothing if it does not. -/
theorem sent_runCase_cases (r : Runner) (c : TestCase) (p : Progress) :
    (∃ q, r.Asks p.session.baseUrl c q ∧ q.headers = .ofToken p.session.token ∧
        r.resolves p.session.baseUrl c = true ∧ (r.runCase c p).2.sent = p.sent ++ [q]) ∨
      r.resolves p.session.baseUrl c = false ∧ (r.runCase c p).2.sent = p.sent := by
  rw [sent_runCase, request?_exchange, resolves]
  cases hurl : r.urlOf c p.session.baseUrl with
  | error e => exact Or.inr ⟨rfl, List.append_nil _⟩
  | ok url =>
    exact Or.inl ⟨r.requestTo c p.session.token url, ⟨rfl, rfl, rfl, hurl⟩, rfl, rfl, rfl⟩

/-- **The requests of a run**: one for each case whose URL resolves, in the order of the cases. -/
theorem sent_final (r : Runner) (cs : List TestCase) (p : Progress) :
    ∃ requests, (r.final cs p).sent = p.sent ++ requests ∧
      List.Forall₂ (r.Asks p.session.baseUrl)
        (cs.filter (r.resolves p.session.baseUrl)) requests := by
  induction cs generalizing p with
  | nil => exact ⟨[], by simp [final], .nil⟩
  | cons c cs ih =>
    obtain ⟨requests, hsent, hrest⟩ := ih (r.runCase c p).2
    rw [baseUrl_runCase] at hrest
    rw [final, hsent]
    rcases r.sent_runCase_cases c p with ⟨q, hq, -, hok, hc⟩ | ⟨hno, hc⟩
    · refine ⟨q :: requests, by rw [hc]; simp, ?_⟩
      rw [List.filter_cons_of_pos hok]
      exact .cons hq hrest
    · refine ⟨requests, by rw [hc], ?_⟩
      rw [List.filter_cons_of_neg (by simp [hno])]
      exact hrest

/-- **A run in a session.** It has one outcome for each selected case, in the order of the sheet and
with the case as it is there; the observer is told of them at the positions 1, 2 and so on; the
transport receives one request for each selected case whose URL resolves, in the same order, at the
base URL that the session had before the run or, for a case that stops the server, the unreachable
one; and the session has its base URL again. -/
theorem runInSession_trace {σ : Type} (r : Runner) (observe : Nat → Nat → CaseOutcome → σ → σ)
    (cases : List TestCase) (selected : Option (List String)) (p : Progress) (seen : σ) :
    let chosen := cases.filter (TestCase.isSelected selected)
    ∃ outcomes last requests,
      r.runInSession observe cases selected p seen =
        (outcomes, last,
          (outcomes.zipIdx 1).foldl (fun seen o => observe o.2 chosen.length o.1 seen) seen) ∧
      outcomes.map (·.testCase) = chosen ∧
      last.sent = p.sent ++ requests ∧
      List.Forall₂ (r.Asks p.session.baseUrl)
        (chosen.filter (r.resolves p.session.baseUrl)) requests ∧
      last.session.baseUrl = p.session.baseUrl := by
  intro chosen
  obtain ⟨requests, hsent, hasks⟩ := r.sent_final chosen p
  refine ⟨(r.steps chosen p).map (·.outcome), r.final chosen p, requests, ?_, ?_, hsent, hasks,
    r.baseUrl_final chosen p⟩
  · exact r.runInSession_eq observe cases selected p seen
  · rw [List.map_map]
    exact r.testCase_steps chosen p

end Runner

/-! ## Sessions that go on -/

/-- A use of a session: a case by itself, or a run of selected cases with an observer. -/
inductive SessionUse (σ : Type) where
  | one (c : TestCase)
  | run (cases : List TestCase) (selected : Option (List String))
      (observe : Nat → Nat → CaseOutcome → σ → σ)

/-- The cases that a use executes. -/
def SessionUse.cases {σ : Type} : SessionUse σ → List TestCase
  | .one c => [c]
  | .run cases selected _ => cases.filter (TestCase.isSelected selected)

namespace Runner

variable [Url.Idna] {σ : Type}

def use (r : Runner) : SessionUse σ → Progress → σ → List CaseOutcome × Progress × σ
  | .one c, p, seen => ([(r.runCase c p).1], (r.runCase c p).2, seen)
  | .run cases selected observe, p, seen => r.runInSession observe cases selected p seen

/-- Uses of one session, one after the other. -/
def useAll (r : Runner) : List (SessionUse σ) → Progress → σ → List CaseOutcome × Progress × σ
  | [], p, seen => ([], p, seen)
  | u :: us, p, seen =>
    let (outcomes, p, seen) := r.use u p seen
    let (later, rest) := useAll r us p seen
    (outcomes ++ later, rest)

theorem use_eq (r : Runner) (u : SessionUse σ) (p : Progress) (seen : σ) :
    ∃ seen', r.use u p seen =
      ((r.steps u.cases p).map (·.outcome), r.final u.cases p, seen') := by
  cases u with
  | one c => exact ⟨seen, by simp only [use, SessionUse.cases, steps, final, List.map]⟩
  | run cases selected observe =>
    exact ⟨_, r.runInSession_eq observe cases selected p seen⟩

/-- **Uses of a session** take the steps of all their cases, however these are shared out. -/
theorem useAll_eq (r : Runner) (uses : List (SessionUse σ)) (p : Progress) (seen : σ) :
    ∃ seen', r.useAll uses p seen =
      ((r.steps (uses.flatMap SessionUse.cases) p).map (·.outcome),
        r.final (uses.flatMap SessionUse.cases) p, seen') := by
  induction uses generalizing p seen with
  | nil => exact ⟨seen, rfl⟩
  | cons u us ih =>
    obtain ⟨seen₁, hu⟩ := r.use_eq u p seen
    obtain ⟨seen₂, hus⟩ := ih (r.final u.cases p) seen₁
    refine ⟨seen₂, ?_⟩
    simp only [useAll, hu, hus, List.flatMap_cons, steps_append, final_append, List.map_append]

end Runner
end CaseSheet

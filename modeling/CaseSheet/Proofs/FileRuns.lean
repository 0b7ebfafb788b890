import CaseSheet.Command.Perform
import CaseSheet.Proofs.Composition
import CaseSheet.Proofs.Saved
/-!
# Runs of several files

A run of several files takes one step for each of them, whatever the earlier ones came to. What a
file hands on to the next is what it wrote, what it sent, and how often the clocks were read;
a session is not among it.

* `Command.runFiles_eq`: a run is its steps, one after the other.
* `Command.ended_runFile_iff`: when a file passes.
* `Runner.headers_of_sent`: every request of a run carries the token that the run itself had by then.
* `Command.runFiles_passed_iff`: all files are run, success is success of each, and no token goes
  from one file to another.
-/

namespace CaseSheet

/-! ## Passing -/

theorem RunSummary.allPassed_ofOutcomes_iff {os : List CaseOutcome} :
    (ofOutcomes os).allPassed = true ↔ ∀ o ∈ os, o.verdict = .pass := by
  have hpass : ∀ o : CaseOutcome, o.passed = true ↔ o.verdict = .pass := by
    intro o
    rw [CaseOutcome.passed]
    cases o.verdict <;> simp [Verdict.isPass]
  have hle := List.length_filter_le CaseOutcome.passed os
  rw [allPassed, ofOutcomes, beq_iff_eq]
  simp only [← hpass]
  rw [← List.length_filter_eq_length_iff]
  omega

/-- A token that was not there at first has been delivered. -/
theorem LoginRule.Latest.exists_delivers {rule : LoginRule} {outcomes : List CaseOutcome}
    {token : Option String} {t : String} (h : rule.Latest none outcomes token) (ht : t ∈ token) :
    ∃ o ∈ outcomes, rule.Delivers o t := by
  rcases h with ⟨older, o, newer, t', rfl, ho, -, rfl⟩ | ⟨-, rfl⟩
  · obtain rfl : t' = t := by simpa using ht
    exact ⟨o, by simp, ho⟩
  · cases ht

namespace Runner

variable [Url.Idna]

/-- **The tokens of a run**: every request that it sends carries the token that the latest delivery
in the run has brought by then, or the one that the session had before. -/
theorem headers_of_sent (r : Runner) (cs : List TestCase) (p : Progress) :
    ∃ requests, (r.final cs p).sent = p.sent ++ requests ∧
      ∀ q ∈ requests, ∃ c ∈ cs, r.Asks p.session.baseUrl c q ∧
        ∃ earlier, earlier <+: (r.steps cs p).map (·.outcome) ∧
          ∃ token, r.settings.loginRule.Latest p.session.token earlier token ∧
            q.headers = .ofToken token := by
  -- On the end of the list: the last case sends its request in the state behind all the others.
  induction cs using List.reverseRecOn with
  | nil => exact ⟨[], (List.append_nil _).symm, List.forall_mem_nil _⟩
  | append_singleton cs c ih =>
    obtain ⟨requests, hsent, hrequests⟩ := ih
    have hsteps : (r.steps cs p).map (·.outcome) <+: (r.steps (cs ++ [c]) p).map (·.outcome) := by
      rw [steps_append, List.map_append]
      exact List.prefix_append _ _
    have hearlier : ∀ q ∈ requests, ∃ c' ∈ cs ++ [c], r.Asks p.session.baseUrl c' q ∧
        ∃ earlier, earlier <+: (r.steps (cs ++ [c]) p).map (·.outcome) ∧
          ∃ token, r.settings.loginRule.Latest p.session.token earlier token ∧
            q.headers = .ofToken token := by
      intro q hq
      obtain ⟨c', hc', hasks, earlier, hprefix, htoken⟩ := hrequests q hq
      exact ⟨c', List.mem_append_left _ hc', hasks, earlier, hprefix.trans hsteps, htoken⟩
    simp only [final_append, final]
    rcases r.sent_runCase_cases c (r.final cs p) with ⟨q, hasks, hheaders, -, hlast⟩ | ⟨-, hlast⟩
    · rw [baseUrl_final] at hasks
      refine ⟨requests ++ [q], by rw [hlast, hsent, List.append_assoc], fun q' hq' => ?_⟩
      rcases List.mem_append.1 hq' with hq' | hq'
      · exact hearlier q' hq'
      · obtain rfl := List.mem_singleton.1 hq'
        exact ⟨c, by simp, hasks, _, hsteps, _, r.latest_final cs p, hheaders⟩
    · exact ⟨requests, by rw [hlast, hsent], hearlier⟩

end Runner

namespace Command

/-! ## One file -/

/-- The runner of a run. -/
def runner (w : World) (plan : RunPlan) : Runner :=
  { settings := plan.config.runSettings, send := w.send }

/-- The selected cases of a file. -/
def chosen (plan : RunPlan) (cases : List TestCase) : List TestCase :=
  cases.filter (TestCase.isSelected (selection plan.options.testIds))

/-- Where the cases of a file start: in a session at the configured base URL, without a token. -/
def fresh (plan : RunPlan) (st : RunState) : Progress :=
  { session := { baseUrl := plan.config.runSettings.baseUrl, token := none }, sent := st.sent }

variable {w : World} {plan : RunPlan} {file : String} {cases : List TestCase} {st st' : RunState}
  {results : List CaseResult}

theorem map_outcome_resultsFrom (clock : Clock) (next : Nat) (os : List CaseOutcome) :
    (resultsFrom clock next os).map (·.outcome) = os := by
  induction os generalizing next with
  | nil => rfl
  | cons o os ih => rw [resultsFrom, List.map_cons, ih]

theorem isEmpty_resultsFrom (clock : Clock) (next : Nat) (os : List CaseOutcome) :
    (resultsFrom clock next os).isEmpty = os.isEmpty := by cases os <;> rfl

/-- The results of a file are written, if they are to be written: saving them is carried through,
and the exports and reports stand in the files behind it. -/
def Writes (w : World) (plan : RunPlan) (file : String) (results : List CaseResult)
    (st st' : RunState) : Prop :=
  plan.options.save = true →
    let dir := plan.config.resultsDirFor file plan.configDir
    let now := w.clock.savedAt st.saves
    ∃ saved, Report.save results dir plan.options.format now st.files = (.ok saved, st'.files) ∧
      Report.Stand results dir plan.options.format now saved st'.files

/-- Behind the results of a file is what their save leaves. -/
theorem state_saveResults (w : World) (plan : RunPlan) (file : String) (results : List CaseResult)
    (st : RunState) : (saveResults w plan file results st).2 =
      if plan.options.save then
        { st with
          files := (Report.save results (plan.config.resultsDirFor file plan.configDir)
            plan.options.format (w.clock.savedAt st.saves) st.files).2
          saves := st.saves + 1 }
      else st := by
  rw [saveResults]
  split
  · cases hdone : (Report.save results (plan.config.resultsDirFor file plan.configDir)
      plan.options.format (w.clock.savedAt st.saves) st.files).1 <;> simp [hdone]
  · rfl

theorem sent_saveResults (w : World) (plan : RunPlan) (file : String) (results : List CaseResult)
    (st : RunState) : (saveResults w plan file results st).2.sent = st.sent := by
  rw [state_saveResults]
  split <;> rfl

theorem isSound_saveResults (hs : st.files.IsSound) :
    (saveResults w plan file results st).2.files.IsSound := by
  rw [state_saveResults]
  split
  · exact (Report.save_written hs rfl).1
  · exact hs

theorem ended_saveResults (w : World) (plan : RunPlan) (file : String) (results : List CaseResult)
    (hs : st.files.IsSound) :
    (saveResults w plan file results st).1.ended = .ok () ↔
      Writes w plan file results st (saveResults w plan file results st).2 := by
  have hstate := state_saveResults w plan file results st
  rw [Writes]
  by_cases hsave : plan.options.save = true
  · rw [if_pos hsave] at hstate
    rw [hstate]
    simp only [saveResults, hsave, if_true, forall_const]
    cases hdone : Report.save results (plan.config.resultsDirFor file plan.configDir)
      plan.options.format (w.clock.savedAt st.saves) st.files with
    | mk done files' =>
      cases done with
      | error problem => simp [Said.fail]
      | ok saved =>
        refine iff_of_true rfl ⟨saved, rfl, Report.stand_of_save hs hdone⟩
  · refine iff_of_true ?_ fun h => absurd h hsave
    rw [saveResults, if_neg hsave]
    rfl

theorem map_const_eq_ok_iff {ended : Except Failure Unit} {b : Bool} :
    (ended.map fun _ => b) = .ok true ↔ b = true ∧ ended = .ok () := by
  cases ended <;> simp [Except.map]

section Idna

variable [Url.Idna]

/-- What comes of the selected cases of a file. -/
def outcomesOf (w : World) (plan : RunPlan) (cases : List TestCase) (st : RunState) :
    List CaseOutcome :=
  ((runner w plan).steps (chosen plan cases) (fresh plan st)).map (·.outcome)

/-- The results of a file: what came of its selected cases, with the readings of the clocks. -/
def resultsOf (w : World) (plan : RunPlan) (cases : List TestCase) (st : RunState) :
    List CaseResult :=
  resultsFrom w.clock st.cases (outcomesOf w plan cases st)

theorem isEmpty_outcomesOf (w : World) (plan : RunPlan) (cases : List TestCase) (st : RunState) :
    (outcomesOf w plan cases st).isEmpty = (chosen plan cases).isEmpty := by
  rw [outcomesOf]
  cases chosen plan cases with
  | nil => rfl
  | cons c cs => simp only [Runner.steps, List.map_cons, List.isEmpty_cons]

theorem runAll_runner (w : World) (plan : RunPlan) (cases : List TestCase) (st : RunState) :
    (runner w plan).runAll cases (selection plan.options.testIds) st.sent =
      (outcomesOf w plan cases st,
        ((runner w plan).final (chosen plan cases) (fresh plan st)).sent) := by
  rw [Runner.runAll_eq]
  rfl

/-- The cases of a file are run: each selected one passes, and if there is any the results are
written. -/
def CasesPass (w : World) (plan : RunPlan) (file : String) (cases : List TestCase)
    (st st' : RunState) : Prop :=
  (∀ o ∈ outcomesOf w plan cases st, o.verdict = .pass) ∧
    (chosen plan cases ≠ [] → Writes w plan file (resultsOf w plan cases st) st st')

/-- The summary of a file says whether all its cases passed. -/
theorem allPassed_results_iff : (RunSummary.ofResults (resultsOf w plan cases st)).allPassed = true ↔
    ∀ o ∈ outcomesOf w plan cases st, o.verdict = .pass := by
  rw [RunSummary.ofResults, resultsOf, map_outcome_resultsFrom,
    RunSummary.allPassed_ofOutcomes_iff]

/-- The state in which the results of a file are saved. -/
def ran (w : World) (plan : RunPlan) (cases : List TestCase) (st : RunState) : RunState :=
  { st with
    sent := ((runner w plan).final (chosen plan cases) (fresh plan st)).sent
    cases := st.cases + (resultsOf w plan cases st).length }

/-- Behind its cases a file has the state in which they were run, or that of their save. -/
theorem state_runCases (w : World) (plan : RunPlan) (file : String) (cases : List TestCase)
    (st : RunState) : (runCases w plan file cases st).2 =
      if (chosen plan cases).isEmpty then ran w plan cases st
      else (saveResults w plan file (resultsOf w plan cases st) (ran w plan cases st)).2 := by
  have hrun := runAll_runner w plan cases st
  have hempty := isEmpty_outcomesOf w plan cases st
  rw [runner] at hrun
  simp only [runCases, hrun, isEmpty_resultsFrom, hempty]
  split <;> rfl

theorem sent_runCases (w : World) (plan : RunPlan) (file : String) (cases : List TestCase)
    (st : RunState) : (runCases w plan file cases st).2.sent =
      ((runner w plan).final (chosen plan cases) (fresh plan st)).sent := by
  rw [state_runCases]
  split
  · rfl
  · exact sent_saveResults _ _ _ _ _

theorem isSound_runCases (hs : st.files.IsSound) :
    (runCases w plan file cases st).2.files.IsSound := by
  rw [state_runCases]
  split
  · exact hs
  · have hran : (ran w plan cases st).files.IsSound := hs
    exact isSound_saveResults hran

/-- The cases of a file make it pass if each of them passes and the results are written. -/
theorem ended_runCases_iff (hs : st.files.IsSound) :
    (runCases w plan file cases st).1.ended = .ok true ↔
      CasesPass w plan file cases st (runCases w plan file cases st).2 := by
  have hrun := runAll_runner w plan cases st
  have hempty := isEmpty_outcomesOf w plan cases st
  rw [CasesPass, state_runCases]
  rw [runner] at hrun
  simp only [runCases, hrun, isEmpty_resultsFrom, hempty]
  split
  · next hnone =>
    rw [List.isEmpty_iff] at hnone
    have hno : outcomesOf w plan cases st = [] := by simpa [hnone] using hempty
    simp [Said.after, Said.done, hno, hnone]
  · next hsome =>
    have hne : chosen plan cases ≠ [] := by simpa using hsome
    have hran : (ran w plan cases st).files.IsSound := hs
    have hsaved := ended_saveResults w plan file (resultsOf w plan cases st) hran
    rw [← allPassed_results_iff]
    simp only [hne, ne_eq, not_false_eq_true, forall_const, Said.after]
    rw [map_const_eq_ok_iff]
    exact and_congr_right' hsaved

/-- A file passes: it loads, every selected case passes, and if there is any the results are
written. -/
def Passes (w : World) (plan : RunPlan) (file : String) (st st' : RunState) : Prop :=
  ∃ cases, Sheet.load st.files file = .ok cases ∧ CasesPass w plan file cases st st'

/-- **When a file passes**, and only then its run says so. -/
theorem ended_runFile_iff (hs : st.files.IsSound) :
    (runFile w plan file st).1.ended = .ok true ↔
      Passes w plan file st (runFile w plan file st).2 := by
  rw [runFile, Passes]
  cases hload : Sheet.load st.files file with
  | error p => simp [Said.fail]
  | ok cases => simp only [ended_runCases_iff hs, Except.ok.injEq, exists_eq_left']

theorem isSound_runFile (hs : st.files.IsSound) :
    (runFile w plan file st).2.files.IsSound := by
  rw [runFile]
  cases Sheet.load st.files file with
  | error p => exact hs
  | ok cases => exact isSound_runCases hs

theorem sent_runFile (w : World) (plan : RunPlan) (file : String) (st : RunState) :
    (runFile w plan file st).2.sent = match Sheet.load st.files file with
      | .error _ => st.sent
      | .ok cases => ((runner w plan).final (chosen plan cases) (fresh plan st)).sent := by
  rw [runFile]
  cases Sheet.load st.files file with
  | error p => rfl
  | ok cases => exact sent_runCases w plan file cases st

/-! ## All files -/

/-- One file of a run: the state before it, what was said of it, and the state behind it. -/
structure FileStep where
  file : String
  before : RunState
  said : Said Bool
  after : RunState

/-- The files of a run, one after the other. -/
def fileSteps (w : World) (plan : RunPlan) : List String → RunState → List FileStep
  | [], _ => []
  | file :: rest, st =>
    ⟨file, st, (runFile w plan file st).1, (runFile w plan file st).2⟩ ::
      fileSteps w plan rest (runFile w plan file st).2

/-- A step runs its file, in the state before it. -/
def FileStep.Runs (w : World) (plan : RunPlan) (s : FileStep) : Prop :=
  (s.said, s.after) = runFile w plan s.file s.before

/-- The file of a step passes. -/
def FileStep.Passes (w : World) (plan : RunPlan) (s : FileStep) : Prop :=
  Command.Passes w plan s.file s.before s.after

theorem runs_of_mem_fileSteps {files : List String} {s : FileStep}
    (h : s ∈ fileSteps w plan files st) : s.Runs w plan := by
  induction files generalizing st with
  | nil => cases h
  | cons file files ih =>
    rcases List.mem_cons.1 h with rfl | h
    · rfl
    · exact ih h

theorem map_file_fileSteps (w : World) (plan : RunPlan) (files : List String) (st : RunState) :
    (fileSteps w plan files st).map (·.file) = files := by
  induction files generalizing st with
  | nil => rfl
  | cons file files ih => rw [fileSteps, List.map_cons, ih]

/-- Every file starts where the one before it ended. -/
theorem map_before_fileSteps (w : World) (plan : RunPlan) (files : List String) (st : RunState) :
    (fileSteps w plan files st).map (·.before) ++ [(runFiles w plan files st).2.2] =
      st :: (fileSteps w plan files st).map (·.after) := by
  induction files generalizing st with
  | nil => rfl
  | cons file files ih =>
    rw [fileSteps, List.map_cons, List.map_cons, List.cons_append, ← ih]
    simp only [runFiles]

theorem runFiles_passed_cons (hs : st.files.IsSound) (files : List String) :
    (runFiles w plan (file :: files) st).2.1 = true ↔
      Passes w plan file st (runFile w plan file st).2 ∧
        (runFiles w plan files (runFile w plan file st).2).2.1 = true := by
  rw [← ended_runFile_iff hs]
  simp only [runFiles]
  cases (runFile w plan file st).1.ended with
  | error f => simp
  | ok passed => simp

/-- A run succeeds if each of its files passes. -/
theorem passed_iff_forall_steps (hs : st.files.IsSound) (files : List String) :
    (runFiles w plan files st).2.1 = true ↔
      ∀ s ∈ fileSteps w plan files st, s.Passes w plan := by
  induction files generalizing st with
  | nil => simp [runFiles, fileSteps]
  | cons file files ih =>
    rw [runFiles_passed_cons hs, ih (isSound_runFile hs), fileSteps, List.forall_mem_cons]
    rfl

/-- The exit code of a run tells whether each of its files passed. -/
theorem exitCode_performRun_eq_zero_iff {files : FileStore} {path : String} {given : Option String}
    {overrides : Config.Overrides} {options : RunOptions} {config : Config}
    {configDir : Option String} {err : String} {paths : List String} (hs : files.IsSound)
    (hconfig : chooseConfig files path given = (config, configDir, err))
    (hpaths : (caseFiles files path (config.withOverrides overrides)).ended = .ok paths) :
    (performRun w files path given overrides options false).exitCode = 0 ↔
      ∀ s ∈ fileSteps w ⟨config.withOverrides overrides, configDir, options⟩ paths ⟨files, [], 0, 0⟩,
        s.Passes w ⟨config.withOverrides overrides, configDir, options⟩ := by
  have hstart : (⟨files, [], 0, 0⟩ : RunState).files.IsSound := hs
  rw [← passed_iff_forall_steps hstart]
  simp only [performRun, hconfig, hpaths, Bool.false_eq_true, if_false]
  split <;> simp_all

/-- What a file sends: nothing if it does not load, and otherwise the requests of its selected cases
in a session that is new. -/
def FileStep.SendsAlone (w : World) (plan : RunPlan) (s : FileStep) : Prop :=
  match Sheet.load s.before.files s.file with
  | .error _ => s.after.sent = s.before.sent
  | .ok cases =>
    s.after.sent = ((runner w plan).final (chosen plan cases) (fresh plan s.before)).sent ∧
    ∃ requests, s.after.sent = s.before.sent ++ requests ∧ ∀ q ∈ requests,
      (∃ c ∈ chosen plan cases, (runner w plan).Asks plan.config.runSettings.baseUrl c q) ∧
      ∃ token, q.headers = .ofToken token ∧ ∀ t ∈ token,
        ∃ o ∈ outcomesOf w plan cases s.before, plan.config.runSettings.loginRule.Delivers o t

theorem FileStep.Runs.sendsAlone {s : FileStep} (h : s.Runs w plan) : s.SendsAlone w plan := by
  have hsent := sent_runFile w plan s.file s.before
  rw [← h] at hsent
  rw [SendsAlone]
  cases hload : Sheet.load s.before.files s.file with
  | error p => simpa [hload] using hsent
  | ok cases =>
    simp only [hload] at hsent
    obtain ⟨requests, hfinal, hrequests⟩ :=
      (runner w plan).headers_of_sent (chosen plan cases) (fresh plan s.before)
    refine ⟨hsent, requests, hsent.trans hfinal, fun q hq => ?_⟩
    obtain ⟨c, hc, hasks, earlier, hearlier, token, hlatest, hheaders⟩ := hrequests q hq
    refine ⟨⟨c, hc, hasks⟩, token, hheaders, fun t ht => ?_⟩
    obtain ⟨o, ho, hdelivers⟩ := hlatest.exists_delivers ht
    exact ⟨o, hearlier.mem ho, hdelivers⟩

/-- **Runs of several files.** Every file is run, in the order given, from where the one before it
ended, whatever that came to. On a sound disk the run succeeds exactly if every file passes: it
loads, its selected cases pass, and where there are any and they are to be saved, their results are
written and stand in the files behind it. The requests of a file are those of its selected cases in
a session at the configured base URL that has no token at first: a token that one of them carries
has been delivered by a case of the same file. -/
theorem runFiles_passed_iff (w : World) (plan : RunPlan) (files : List String) (st : RunState) :
    let steps := fileSteps w plan files st
    steps.map (·.file) = files ∧
    (∀ s ∈ steps, s.Runs w plan) ∧
    steps.map (·.before) ++ [(runFiles w plan files st).2.2] = st :: steps.map (·.after) ∧
    (st.files.IsSound →
      ((runFiles w plan files st).2.1 = true ↔ ∀ s ∈ steps, s.Passes w plan)) ∧
    ∀ s ∈ steps, s.SendsAlone w plan := by
  refine ⟨map_file_fileSteps w plan files st, fun s => runs_of_mem_fileSteps,
    map_before_fileSteps w plan files st, fun hs => passed_iff_forall_steps hs files, ?_⟩
  intro s hs
  exact (runs_of_mem_fileSteps hs).sendsAlone

end Idna

/-- A disk with a sheet of one case. -/
def oneSheet : FileStore where
  tree := .directory [("cases.csv", .file
    (some "id,category,name,steps,expected\nTC001,a,list,GET /api/items,200 OK\n"))]
  workingDir := []

theorem isSound_oneSheet : oneSheet.IsSound where
  wellFormed := by
    refine .directory (List.pairwise_singleton _ _) ?_ ?_ <;> rw [List.forall_mem_singleton]
    · decide +kernel
    · exact .file _
  workingDir := ⟨_, rfl⟩

/-- A server that answers every request with an empty list. -/
def listingWorld : World where
  send := fun _ _ => .ok ⟨200, [], "[]"⟩
  clock := ⟨fun _ => ⟨0, 5000000⟩, fun _ => ⟨0, 0⟩, fun _ => ⟨2025, 1, 1, 9, 0, 0⟩⟩
  colours := false

/-- The only case of a sheet passes, and its results are written. -/
theorem runFiles_passed_oneSheet :
    let plan : RunPlan := ⟨{}, none, ⟨[], .both, true, false⟩⟩
    let steps := fileSteps listingWorld plan ["cases.csv"] ⟨oneSheet, [], 0, 0⟩
    oneSheet.IsSound ∧
      (runFiles listingWorld plan ["cases.csv"] ⟨oneSheet, [], 0, 0⟩).2.1 = true ∧
      ∀ s ∈ steps, s.Passes listingWorld plan := by
  intro plan steps
  have hpassed : (runFiles listingWorld plan ["cases.csv"] ⟨oneSheet, [], 0, 0⟩).2.1 = true := by
    decide +kernel
  obtain ⟨-, -, -, hpasses, -⟩ :=
    runFiles_passed_iff listingWorld plan ["cases.csv"] ⟨oneSheet, [], 0, 0⟩
  exact ⟨isSound_oneSheet, hpassed, (hpasses isSound_oneSheet).1 hpassed⟩

end Command
end CaseSheet

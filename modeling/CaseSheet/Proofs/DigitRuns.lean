import CaseSheet.Proofs.Digits
import CaseSheet.Proofs.Expectation
/-!
# Codes as runs of digits

Where a text is cut at all characters that are no ASCII digits, the pieces with something in them
are its maximal runs of digits. A code is named in an expected result exactly where it is such a
run: not within a longer number, and not as a part of two codes without anything between them.

* `Text.digitRuns_append_cons`: a character that is no digit parts the runs around it.
* `Text.mem_digitRuns_iff`: a run is a piece of digits between digit boundaries.
* `Expectation.codes_classify_iff_run`: codes, first status and expected status of a text.
-/

namespace CaseSheet

namespace Text

variable {cs run : List Char}

/-- The maximal runs of digits of a text, in the order in which they stand there. -/
def digitRuns (cs : List Char) : List (List Char) :=
  (cs.splitOnP fun c => !Digits.isDigit c).filter fun run => !run.isEmpty

/-- A character that is no digit parts the runs around it. -/
theorem digitRuns_append_cons {c : Char} (hc : Digits.isDigit c = false) (a b : List Char) :
    digitRuns (a ++ c :: b) = digitRuns a ++ digitRuns b := by
  unfold digitRuns
  rw [List.splitOnP_append_cons a b (by simpa using hc), List.filter_append]

/-- Digits alone are one run, unless there are none. -/
theorem mem_digitRuns_of_digits (h : ∀ c ∈ cs, Digits.isDigit c = true) :
    run ∈ digitRuns cs ↔ run ≠ [] ∧ run = cs := by
  unfold digitRuns
  rw [List.splitOnP_eq_singleton (by simpa using h), List.mem_filter, List.mem_singleton]
  simp [and_comm]

/-- A text is made of digits alone, or cut by the first character that is none. -/
theorem digits_or_cut (cs : List Char) :
    (∀ c ∈ cs, Digits.isDigit c = true) ∨
      ∃ ds c rest, cs = ds ++ c :: rest ∧ (∀ d ∈ ds, Digits.isDigit d = true) ∧
        Digits.isDigit c = false := by
  induction cs with
  | nil => exact Or.inl (by simp)
  | cons x cs ih =>
    by_cases hx : Digits.isDigit x = true
    · rcases ih with h | ⟨ds, c, rest, rfl, hds, hc⟩
      · exact Or.inl (by simpa [hx] using h)
      · exact Or.inr ⟨x :: ds, c, rest, rfl, by simpa [hx] using hds, hc⟩
    · exact Or.inr ⟨[], x, cs, rfl, by simp, by simpa using hx⟩

theorem AtDigitBoundaries.mem_digitRuns (h : AtDigitBoundaries run cs) (hne : run ≠ [])
    (hrun : ∀ c ∈ run, Digits.isDigit c = true) : run ∈ digitRuns cs := by
  obtain ⟨before, after, rfl, hbefore, hafter⟩ := h
  have hfront : run ∈ digitRuns (run ++ after) := by
    cases after with
    | nil => rw [List.append_nil, mem_digitRuns_of_digits hrun]; exact ⟨hne, rfl⟩
    | cons d after =>
      rw [digitRuns_append_cons (hafter d rfl)]
      exact List.mem_append_left _ ((mem_digitRuns_of_digits hrun).2 ⟨hne, rfl⟩)
  rcases List.eq_nil_or_concat before with rfl | ⟨before, c, rfl⟩
  · exact hfront
  · have hc : Digits.isDigit c = false := hbefore c (by simp)
    rw [List.concat_eq_append, List.append_assoc, List.append_assoc, List.singleton_append,
      digitRuns_append_cons hc]
    exact List.mem_append_right _ hfront

/-- **A maximal run** of digits is a piece of digits between digit boundaries. -/
theorem mem_digitRuns_iff :
    run ∈ digitRuns cs ↔
      run ≠ [] ∧ (∀ c ∈ run, Digits.isDigit c = true) ∧ AtDigitBoundaries run cs := by
  refine ⟨fun h => ?_, fun ⟨hne, hrun, h⟩ => h.mem_digitRuns hne hrun⟩
  -- The runs behind the first cut are those of a shorter text.
  induction hn : cs.length using Nat.strongRecOn generalizing cs with
  | _ n ih =>
    subst hn
    rcases digits_or_cut cs with hcs | ⟨ds, c, rest, rfl, hds, hc⟩
    · obtain ⟨hne, rfl⟩ := (mem_digitRuns_of_digits hcs).1 h
      exact ⟨hne, hcs, [], [], by simp, by simp, by simp⟩
    · rw [digitRuns_append_cons hc] at h
      rcases List.mem_append.1 h with h | h
      · obtain ⟨hne, rfl⟩ := (mem_digitRuns_of_digits hds).1 h
        exact ⟨hne, hds, [], c :: rest, by simp, by simp, by simpa using hc⟩
      · have hlt : rest.length < (ds ++ c :: rest).length := by simp; omega
        obtain ⟨hne, hrun, before, after, rfl, hbefore, hafter⟩ := ih _ hlt h rfl
        refine ⟨hne, hrun, ds ++ c :: before, after, by simp, ?_, hafter⟩
        intro d hd
        cases before with
        | nil =>
          obtain rfl : c = d := by simpa using hd
          exact hc
        | cons b before => exact hbefore d (by simpa using hd)

example :
    digitRuns "200201, HTTP/200 ２00".toList = ["200201".toList, "200".toList, "00".toList] := by
  decide +kernel

end Text

namespace Expectation

/-- A recognised code is one of the maximal runs of digits of a text. -/
def IsRun (text : String) (n : Nat) : Prop :=
  n ∈ recognisedCodes ∧ Digits.ofNat n ∈ Text.digitRuns text.toList

theorem namesCode_iff_isRun {text : String} {n : Nat} : NamesCode text n ↔ IsRun text n := by
  unfold NamesCode IsRun
  rw [Text.mem_digitRuns_iff]
  constructor
  · rintro ⟨hn, h⟩
    exact ⟨hn, Digits.ofNat_ne_nil n, fun c => Digits.isDigit_of_mem_ofNat, h⟩
  · rintro ⟨hn, -, -, h⟩; exact ⟨hn, h⟩

theorem mem_codes_classify_iff_mem_digitRuns {text : String} {t : StatusToken} :
    t ∈ (classify text).codes ↔ Digits.ofNat t.code ∈ Text.digitRuns text.toList := by
  rw [mem_codes_classify, namesCode_iff_isRun]
  exact and_iff_right (mem_recognisedCodes_iff.2 ⟨t, rfl⟩)

/-- **Codes are recognised at digit boundaries.** Those of a text are, in increasing order and each
once, the ones that are maximal runs of digits in it. The first is the least of them, and it is the
expected status; where there is none, the status of the step is. -/
theorem codes_classify_iff_run (text : String) :
    ((classify text).codes.Pairwise fun s t => s.code < t.code) ∧
    (∀ t, t ∈ (classify text).codes ↔ Digits.ofNat t.code ∈ Text.digitRuns text.toList) ∧
    ∀ ofStep,
      (∃ least, IsLeast {n | IsRun text n} least ∧ (classify text).primary? = some least ∧
        (classify text).statusOr ofStep = least) ∨
      (∀ n, ¬ IsRun text n) ∧ (classify text).primary? = none ∧
        (classify text).statusOr ofStep = ofStep := by
  refine ⟨codes_classify_sorted text, fun t => mem_codes_classify_iff_mem_digitRuns, ?_⟩
  intro ofStep
  have hruns : {n | IsRun text n} = {n | NamesCode text n} :=
    Set.ext fun n => namesCode_iff_isRun.symm
  cases hp : (classify text).primary? with
  | some least =>
    refine Or.inl ⟨least, ?_, rfl, ?_⟩
    · rw [hruns]; exact primary?_classify_eq_some_iff.1 hp
    · rw [statusOr, hp, Option.getD_some]
  | none =>
    refine Or.inr ⟨fun n hn => ?_, rfl, ?_⟩
    · have hcodes : (classify text).codes = [] := by simpa [primary?] using hp
      exact codes_classify_eq_nil_iff.1 hcodes n (namesCode_iff_isRun.2 hn)
    · rw [statusOr, hp, Option.getD_none]

end Expectation
end CaseSheet

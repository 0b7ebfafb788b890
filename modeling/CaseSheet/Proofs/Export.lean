import CaseSheet.Proofs.Csv
import CaseSheet.Proofs.Saved
/-!
# Saved sheets read back

A saved sheet has the columns of a case sheet in an order of its own, and four more. The reader of
records gives back every text in it; the reader of case sheets, which goes by the titles, gives back
the cases.

* `Report.filled_zip_record`: of the columns of a saved sheet, those of a case sheet are known.
* `Report.caseOfRecord_record`: a record of a result is its case.
* `Report.read_csv`: a saved sheet, as records and as cases.
-/
namespace CaseSheet

namespace Report

/-! ## Saved sheets -/

variable {results : List CaseResult} {format : ExportFormat} {now : DateTime} {saved : Saved}
  {dir : String} {files files' : FileStore}

theorem map_trimmed_titles_of_saved : titles.map trimmed = titles := by decide

/-- Of the columns of a saved sheet those of a case sheet are known, and they come in its order. -/
theorem filled_zip_record (r : CaseResult) :
    Cells.filled (titles.zip (record r)) = r.outcome.testCase.cellsOf Column.all := by
  have hactual : Column.ofName? actualTitle = none := by decide
  have hverdict : Column.ofName? verdictTitle = none := by decide
  have helapsed : Column.ofName? elapsedTitle = none := by decide
  have htimestamp : Column.ofName? timestampTitle = none := by decide
  simp [Cells.filled, titles, record, Column.all, hactual, hverdict, helapsed, htimestamp,
    Column.ofName?_title, TestCase.cellsOf, TestCase.cell]

/-- A record of a result is its case. -/
theorem caseOfRecord_record {r : Csv.Record} {result : CaseResult} (h : r.fields = record result)
    (number : Nat) : Sheet.caseOfRecord titles number r = .ok result.outcome.testCase := by
  have hcase : TestCase.ofCells (titles.zip (record result)) = .ok result.outcome.testCase :=
    TestCase.ofCells_of_filled (filled_zip_record result)
  rw [Sheet.caseOfRecord, h, hcase]
  rfl

theorem ne_nil_of_mem_records {fs : List String} (h : fs ∈ records results) : fs ≠ [] := by
  rw [records] at h
  split at h
  · cases h
  · rcases List.mem_cons.1 h with rfl | h
    · decide
    · obtain ⟨r, -, rfl⟩ := List.mem_map.1 h
      simp [record]

/-- The cases of a saved sheet are those of its results, if they have ids. -/
theorem readCsv_csv (results : List CaseResult) :
    Sheet.readCsv (csv results).toList =
      TestCase.withIds (results.map (·.outcome.testCase)) := by
  have hread := Csv.fields_read_write fun fs (hfs : fs ∈ records results) =>
    ne_nil_of_mem_records hfs
  rw [csv, String.toList_ofList]
  cases results with
  | nil => rfl
  | cons r rs =>
    generalize hresults : r :: rs = results at *
    have hrecords : records results = titles :: results.map record := by
      rw [records, ← hresults]
      rfl
    rw [hrecords] at hread ⊢
    -- The mark in front is dropped, and nothing behind it: the text starts with a title.
    have hdrop : (Sheet.byteOrderMark :: Csv.write (titles :: results.map record)).dropWhile
        (· == Sheet.byteOrderMark) = Csv.write (titles :: results.map record) := by
      rw [List.dropWhile_cons_of_pos (by decide)]
      rfl
    obtain ⟨header, rows, hsplit, hheader, hrows⟩ := List.map_eq_cons_iff.1 hread
    have hcases : Sheet.casesOfRecords titles 1 rows =
        .ok (results.map (·.outcome.testCase)) :=
      Sheet.casesOfRecords_ok (fun _ number _ h => caseOfRecord_record h number) hrows
    rw [Sheet.readCsv, hdrop, hsplit]
    simp only [hheader, map_trimmed_titles_of_saved, hcases]
    rfl

/-- **A saved sheet loses nothing.** -/
theorem read_csv (results : List CaseResult) :
    (∃ sheet, (csv results).toList = Sheet.byteOrderMark :: sheet ∧
      (Csv.read sheet).map (·.fields) =
        if results = [] then [] else
          ["TC_ID", "기능분류", "테스트명", "사전조건", "테스트단계", "예상결과", "실제결과", "Pass/Fail",
            "비고", "실행시간", "타임스탬프"] ::
          results.map fun r =>
            let c := r.outcome.testCase
            [c.id, c.category, c.name, c.precondition, c.steps, c.expected, r.outcome.actual,
              if r.outcome.verdict = .pass then "PASS" else "FAIL", c.notes, r.elapsed.text,
              r.finishedAt.textWith "+00:00"]) ∧
    (Sheet.readCsv (csv results).toList =
      match results.findIdx? fun r => r.id.toList.all Text.isBlank with
      | none => .ok (results.map (·.outcome.testCase))
      | some i => .error (.missingId (i + 1))) ∧
    ∀ dir format now files saved files', files.IsSound → format.hasCsv = true →
      save results dir format now files = (.ok saved, files') →
      ∃ path, saved.csv = some path ∧ files'.readText path = .ok (csv results) := by
  refine ⟨⟨Csv.write (records results), String.toList_ofList, ?_⟩, ?_, ?_⟩
  · rw [Csv.fields_read_write fun fs hfs => ne_nil_of_mem_records hfs, records]
    cases results with
    | nil => rfl
    | cons r rs =>
      simp only [List.isEmpty_cons, Bool.false_eq_true, if_false, reduceCtorEq]
      congr 1
      refine List.map_congr_left fun r _ => ?_
      rw [record]
      cases r.outcome.verdict <;> rfl
  · rw [readCsv_csv, TestCase.withIds_eq, List.findIdx?_map]
    rfl
  · intro dir format now files saved files' hs hcsv h
    refine ⟨Path.join dir (csvName now), ?_, readText_of_save hs h ?_⟩
    · rw [saved_of_save h, Report.saved, hcsv]
      rfl
    · simp [named, hcsv]

/-- A result with quotes and a line break in its texts. -/
def quotedResult : CaseResult where
  outcome :=
    { testCase :=
        { id := "TC001", category := "", name := "said \"no\"", precondition := ""
          steps := "GET /a\n{}", expected := "200 OK", notes := "a, b" }
      actual := "timeout: \"deadline\"", verdict := .fail, response := .failed .timeout "deadline" }
  elapsed := ⟨1, 0⟩
  finishedAt := ⟨0, 0⟩

/-- It is saved on an empty disk, and the sheet is read there. -/
theorem read_csv_quotedResult : ∃ saved files' path,
    save [quotedResult] "out" .both ⟨2025, 1, 1, 9, 0, 0⟩ ⟨.empty, []⟩ = (.ok saved, files') ∧
      saved.csv = some path ∧ files'.readText path = .ok (csv [quotedResult]) := by
  obtain ⟨saved, files', hsave⟩ : ∃ saved files',
      save [quotedResult] "out" .both ⟨2025, 1, 1, 9, 0, 0⟩ ⟨.empty, []⟩ = (.ok saved, files') :=
    exists_of_isOk_save (by decide +kernel)
  obtain ⟨path, hpath, hread⟩ :=
    (read_csv [quotedResult]).2.2 _ _ _ _ _ _ ⟨.empty, ⟨[], rfl⟩⟩ rfl hsave
  exact ⟨saved, files', path, hsave, hpath, hread⟩

end Report
end CaseSheet

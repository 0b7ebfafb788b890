import CaseSheet.Proofs.Csv
import CaseSheet.Proofs.Pieces
/-!
# Columns in any order

The fields of a record belong to the columns that the header names, wherever these stand and in
whichever of the two languages. Fields under other names belong to no column.

* `Sheet.ofCells_zip_eq_ok_iff`: which case a record makes up under a header, if any.
* `Sheet.readCsv_of_areRecords`: which cases come of a sheet, and when none can.
-/

namespace CaseSheet

/-! ## How a sheet starts -/

namespace Csv

variable {s : String} {fs : List String} {records : List (List String)} {cs : List Char} {x : Char}

theorem IsField.head?_cases (h : IsField s cs) (hx : cs.head? = some x) :
    x = '"' ∨ s.toList.head? = some x := by
  cases h with
  | bare h => exact .inr hx
  | quoted => exact .inl (Option.some.inj hx).symm

theorem AreFields.head?_cases (h : AreFields fs cs) (hx : cs.head? = some x) :
    x = '"' ∨ x = ',' ∨ ∃ s ∈ fs, s.toList.head? = some x := by
  cases h with
  | last h => exact (h.head?_cases hx).imp_right fun hs => .inr ⟨_, by simp, hs⟩
  | @cons s rest cs ds h hrest =>
    cases cs with
    | nil => exact .inr (.inl (Option.some.inj hx).symm)
    | cons d cs => exact (h.head?_cases hx).imp_right fun hs => .inr ⟨s, by simp, hs⟩

/-- The text of records starts as a field of the first one does, if not with a quote or a comma. -/
theorem AreRecords.head?_cases (h : AreRecords (fs :: records) cs) (hx : cs.head? = some x) :
    x = '"' ∨ x = ',' ∨ ∃ s ∈ fs, s.toList.head? = some x := by
  cases h with
  | last h => exact h.1.head?_cases hx
  | @cons _ _ cs _ _ h hend hrest =>
    cases cs with
    | nil => exact absurd rfl h.2
    | cons d cs => exact h.1.head?_cases hx

end Csv

/-! ## Names of columns -/

namespace Column

/-- A name in a header stands for a column: it is the title or the English name of the column, with
any blanks around it. -/
def Heads (k : Column) (name : String) : Prop :=
  trimmed name = k.title ∨ trimmed name = k.englishName

instance (k : Column) (name : String) : Decidable (k.Heads name) :=
  inferInstanceAs (Decidable (_ ∨ _))

theorem heads_iff {k : Column} {name : String} :
    k.Heads name ↔ ofName? (trimmed name) = some k :=
  ofName?_eq_some_iff.symm

theorem isOptional_iff {k : Column} : k.isOptional = true ↔ k = .precondition ∨ k = .notes := by
  cases k <;> simp [isOptional]

/-- No name that stands for a column starts with a byte order mark. -/
theorem Heads.head?_ne {k : Column} {name : String} (h : k.Heads name) :
    name.toList.head? ≠ some Sheet.byteOrderMark := by
  intro hmark
  have htrim := Text.head?_trim hmark (by decide)
  rw [← toList_trimmed] at htrim
  rcases h with h | h <;> rw [h] at htrim <;> cases k <;> exact absurd htrim (by decide)

end Column

/-! ## Headers and records -/

namespace Sheet

variable {header row : List String} {c : TestCase} {k : Column} {s : String}

/-- Two names of a header stand for the same column. -/
def NamesTwice (header : List String) (k : Column) : Prop :=
  ∃ a b, [a, b].Sublist header ∧ k.Heads a ∧ k.Heads b

/-- The fields of a record, as far as they belong to columns, are the texts of a case. -/
def Shows (header row : List String) (c : TestCase) : Prop :=
  List.Forall₂ (fun name text => ∀ k : Column, k.Heads name → text = c.cell k) header row

/-- Cases can be told from records: no column is named twice, only what is empty is left out, and
the records show the cases in their order. -/
structure Presents (header : List String) (rows : List (List String)) (cases : List TestCase) :
    Prop where
  once : ∀ k, ¬ NamesTwice header k
  complete : ∀ k : Column, (∃ name ∈ header, k.Heads name) ∨
    (k = .precondition ∨ k = .notes) ∧ ∀ c ∈ cases, c.cell k = ""
  shows : List.Forall₂ (Shows header) rows cases

/-- The columns that a header names. -/
def columnsOf (header : List String) : List Column :=
  header.filterMap fun name => Column.ofName? (trimmed name)

theorem mem_columnsOf : k ∈ columnsOf header ↔ ∃ name ∈ header, k.Heads name := by
  simp only [columnsOf, List.mem_filterMap, Column.heads_iff]

theorem nodup_columnsOf_iff : (columnsOf header).Nodup ↔ ∀ k, ¬ NamesTwice header k := by
  rw [columnsOf, List.Nodup, List.pairwise_filterMap, List.pairwise_iff_forall_sublist]
  constructor
  · rintro h k ⟨a, b, hab, ha, hb⟩
    exact h hab k (Column.heads_iff.1 ha) k (Column.heads_iff.1 hb) rfl
  · rintro h a b hab k ha l hb rfl
    exact h k ⟨a, b, hab, Column.heads_iff.2 ha, Column.heads_iff.2 hb⟩

theorem map_fst_filled (h : header.length ≤ row.length) :
    (Cells.filled ((header.map trimmed).zip row)).map Prod.fst = columnsOf header := by
  calc (Cells.filled ((header.map trimmed).zip row)).map Prod.fst
      = (((header.map trimmed).zip row).map Prod.fst).filterMap Column.ofName? := by
        rw [List.filterMap_map, Cells.filled, List.map_filterMap]
        congr 1
        funext p
        simp [Option.map_map, Function.comp_def]
    _ = (header.map trimmed).filterMap Column.ofName? := by
        rw [List.map_fst_zip (by rwa [List.length_map])]
    _ = columnsOf header := by
        rw [List.filterMap_map]
        rfl

theorem mem_filled_zip : (k, s) ∈ Cells.filled ((header.map trimmed).zip row) ↔
    ∃ name, (name, s) ∈ header.zip row ∧ k.Heads name := by
  rw [Cells.mem_filled, List.zip_map_left]
  simp only [List.mem_map, Prod.map_apply, Prod.mk.injEq, Prod.exists, id_eq, Column.heads_iff]
  constructor
  · rintro ⟨_, ⟨name, _, hmem, rfl, rfl⟩, hname⟩
    exact ⟨name, hmem, hname⟩
  · rintro ⟨name, hmem, hname⟩
    exact ⟨trimmed name, ⟨name, s, hmem, rfl, rfl⟩, hname⟩

/-- **A record under a header makes up a case** if no column is named twice, only what is empty is
left out, and the fields that belong to columns are the texts of the case. -/
theorem ofCells_zip_eq_ok_iff (h : row.length = header.length) :
    TestCase.ofCells ((header.map trimmed).zip row) = .ok c ↔
      (∀ k, ¬ NamesTwice header k) ∧
        (∀ k : Column, (∃ name ∈ header, k.Heads name) ∨ k.isOptional = true ∧ c.cell k = "") ∧
        Shows header row c := by
  have hkeys := map_fst_filled h.ge
  rw [TestCase.ofCells_eq_ok_iff, hkeys, ← nodup_columnsOf_iff]
  refine and_congr_right fun hnodup => ?_
  have hcell : ∀ k s, (Cells.filled ((header.map trimmed).zip row)).cell k = .ok s ↔ _ :=
    fun k s => Cells.cell_eq_ok_iff (hkeys ▸ hnodup)
  simp only [hkeys] at hcell
  constructor
  · intro hcase
    refine ⟨fun k => ?_, List.forall₂_iff_zip.2 ⟨h.symm, fun {name text} hmem k hname => ?_⟩⟩
    · rcases (hcell k _).1 (hcase k) with hmem | ⟨-, hk⟩
      · obtain ⟨name, hmem, hname⟩ := mem_filled_zip.1 hmem
        exact .inl ⟨name, (List.of_mem_zip hmem).1, hname⟩
      · exact .inr hk
    · have htext := (hcell k text).2 (.inl (mem_filled_zip.2 ⟨name, hmem, hname⟩))
      exact Except.ok.inj (htext.symm.trans (hcase k))
  · rintro ⟨hcomplete, hshows⟩ k
    obtain ⟨-, hshows⟩ := List.forall₂_iff_zip.1 hshows
    rw [hcell]
    by_cases hk : k ∈ columnsOf header
    · rw [← hkeys, List.mem_map] at hk
      obtain ⟨⟨_, text⟩, hmem, rfl⟩ := hk
      obtain ⟨name, hzip, hname⟩ := mem_filled_zip.1 hmem
      exact .inl (hshows hzip _ hname ▸ hmem)
    · rcases hcomplete k with hnamed | hleft
      · exact absurd (mem_columnsOf.2 hnamed) hk
      · exact .inr ⟨hk, hleft⟩

/-! ## Sheets -/

variable {rows : List (List String)} {cases : List TestCase} {cs : List Char} {number : Nat}
  {r : Csv.Record}

theorem caseOfRecord_eq_ok_iff : caseOfRecord header number r = .ok c ↔
    r.fields.length = header.length ∧ TestCase.ofCells (header.zip r.fields) = .ok c := by
  rw [caseOfRecord]
  split
  · next hlength =>
    rw [and_iff_right hlength]
    cases TestCase.ofCells (header.zip r.fields) <;> simp
  · next hlength => simp [hlength]

/-- A record that makes up no case is at fault. -/
theorem exists_caseOfRecord_eq_error (h : ∀ c, caseOfRecord header number r ≠ .ok c) :
    ∃ fault, caseOfRecord header number r = .error (.record fault) := by
  unfold caseOfRecord at h ⊢
  split
  · next hlength =>
    rw [if_pos hlength] at h
    cases hcells : TestCase.ofCells (header.zip r.fields) with
    | ok c => exact absurd (by rw [hcells]) (h c)
    | error e => exact ⟨_, rfl⟩
  · exact ⟨_, rfl⟩

theorem Presents.caseOfRecord (h : Presents header rows cases) {rs : List Csv.Record}
    (hrs : rs.map (·.fields) = rows) :
    List.Forall₂ (fun r c => ∀ number, caseOfRecord (header.map trimmed) number r = .ok c)
      rs cases := by
  subst hrs
  have hshows := List.forall₂_iff_zip.1 (List.forall₂_map_left_iff.1 h.shows)
  refine List.forall₂_iff_zip.2 ⟨hshows.1, fun {r c} hmem number => ?_⟩
  have hrow : Shows header r.fields c := hshows.2 hmem
  have hlength : r.fields.length = header.length := hrow.length_eq.symm
  rw [caseOfRecord_eq_ok_iff, List.length_map, ofCells_zip_eq_ok_iff hlength]
  refine ⟨hlength, h.once, fun k => ?_, hrow⟩
  exact (h.complete k).imp_right fun hk =>
    ⟨Column.isOptional_iff.2 hk.1, hk.2 c (List.of_mem_zip hmem).2⟩

/-- No case comes of a record under a header that names a column twice, or not at all where it may
not be left out. -/
theorem caseOfRecord_ne_ok (h : ∃ k, NamesTwice header k ∨
      (k ≠ .precondition ∧ k ≠ .notes) ∧ ∀ name ∈ header, ¬ k.Heads name) :
    caseOfRecord (header.map trimmed) number r ≠ .ok c := by
  intro hcase
  rw [caseOfRecord_eq_ok_iff, List.length_map] at hcase
  obtain ⟨hlength, hcells⟩ := hcase
  obtain ⟨honce, hcomplete, -⟩ := (ofCells_zip_eq_ok_iff hlength).1 hcells
  obtain ⟨k, htwice | ⟨⟨hprecondition, hnotes⟩, hmissing⟩⟩ := h
  · exact honce k htwice
  · rcases hcomplete k with ⟨name, hmem, hname⟩ | ⟨hk, -⟩
    · exact hmissing name hmem hname
    · exact (Column.isOptional_iff.1 hk).elim hprecondition hnotes

/-- Marks in front of a sheet are dropped, and nothing behind them. -/
theorem dropWhile_marks (h : Csv.AreRecords (header :: rows) cs)
    (hmark : ∀ name ∈ header, (∀ k : Column, ¬ k.Heads name) →
      name.toList.head? ≠ some byteOrderMark) (marks : Nat) :
    (List.replicate marks byteOrderMark ++ cs).dropWhile (· == byteOrderMark) = cs := by
  rw [List.dropWhile_append_of_pos fun d hd => by simp [List.eq_of_mem_replicate hd]]
  cases cs with
  | nil => rfl
  | cons d cs =>
    refine List.dropWhile_cons_of_neg fun hd => ?_
    obtain rfl := beq_iff_eq.1 hd
    rcases h.head?_cases rfl with hquote | hcomma | ⟨name, hmem, hname⟩
    · exact absurd hquote (by decide)
    · exact absurd hcomma (by decide)
    · by_cases hknown : ∃ k : Column, k.Heads name
      · obtain ⟨k, hk⟩ := hknown
        exact hk.head?_ne hname
      · exact hmark name hmem (not_exists.1 hknown) hname

/-- **Columns are told by name alone.** A sheet that presents cases with ids is read as these
cases, in whichever order and language its columns come, whatever further columns it has, however
its fields are written and whatever marks are in front of it. A sheet with records that names a
column twice, or not at all where it may not be left out, is at fault. -/
theorem readCsv_of_areRecords (h : Csv.AreRecords (header :: rows) cs)
    (hmark : ∀ name ∈ header, (∀ k : Column, ¬ k.Heads name) →
      name.toList.head? ≠ some byteOrderMark) (marks : Nat) :
    (∀ cases : List TestCase, (∀ c ∈ cases, c.id.toList.all Text.isBlank = false) →
      Presents header rows cases →
      readCsv (List.replicate marks byteOrderMark ++ cs) = .ok cases) ∧
    (rows ≠ [] →
      (∃ k, NamesTwice header k ∨
        (k ≠ .precondition ∧ k ≠ .notes) ∧ ∀ name ∈ header, ¬ k.Heads name) →
      ∃ fault, readCsv (List.replicate marks byteOrderMark ++ cs) = .error (.record fault)) := by
  obtain ⟨first, rs, hread, rfl, hrs⟩ := List.map_eq_cons_iff.1 (Csv.fields_read h)
  rw [readCsv, dropWhile_marks h hmark, hread]
  constructor
  · intro cases hid hcases
    have hok : casesOfRecords (first.fields.map trimmed) 1 rs = .ok cases :=
      casesOfRecords_of_forall₂ (hcases.caseOfRecord hrs)
    have hids : TestCase.withIds cases = .ok cases := by
      rw [TestCase.withIds_eq, List.findIdx?_eq_none_iff.2 hid]
    simp only [hok]
    exact hids
  · intro hne hfault
    cases rs with
    | nil => exact absurd hrs.symm hne
    | cons r rs =>
      obtain ⟨fault, hr⟩ : ∃ fault,
          caseOfRecord (first.fields.map trimmed) 1 r = .error (.record fault) :=
        exists_caseOfRecord_eq_error fun c => caseOfRecord_ne_ok hfault
      refine ⟨fault, ?_⟩
      simp only [casesOfRecords, hr]
      rfl

/-- A case without a precondition and without notes. -/
def mixedCase : TestCase where
  id := "TC1"
  category := ""
  name := "said \"no\""
  precondition := ""
  steps := "GET /a\n{}"
  expected := "200"
  notes := ""

/-- Names in both languages and in an order of their own, one of them of no column. -/
def mixedHeader : List String := [" steps ", "memo, id", "id", "name", "기능분류", "예상결과\t"]

/-- The fields of the case under these names. -/
def mixedRow : List String := ["GET /a\n{}", "TC2", "TC1", "said \"no\"", "", "200"]

/-- A line for the names and one for the fields, some of them between quotes. -/
def mixedText : List Char :=
  (" steps ,\"memo, id\",\"id\",name,기능분류,예상결과\t\r\n" ++
    "\"GET /a\n{}\",TC2,TC1,\"said \"\"no\"\"\",,200").toList

theorem areRecords_mixedText : Csv.AreRecords [mixedHeader, mixedRow] mixedText := by
  have hheader : Csv.IsRecord mixedHeader _ :=
    ⟨.cons (Csv.isField_bare (by decide)) (.cons .quoted (.cons .quoted
      (.cons (Csv.isField_bare (by decide)) (.cons (Csv.isField_bare (by decide))
        (.last (Csv.isField_bare (by decide))))))), by simp⟩
  have hrow : Csv.IsRecord mixedRow _ :=
    ⟨.cons .quoted (.cons (Csv.isField_bare (by decide)) (.cons (Csv.isField_bare (by decide))
      (.cons .quoted (.cons (Csv.isField_bare (by decide))
        (.last (Csv.isField_bare (by decide))))))), by simp⟩
  have htext : ∃ cs, Csv.AreRecords [mixedHeader, mixedRow] cs ∧ cs = mixedText :=
    ⟨_, .cons hheader .crlf (.last hrow), by decide +kernel⟩
  obtain ⟨cs, hcs, rfl⟩ := htext
  exact hcs

theorem presents_mixedCase : Presents mixedHeader [mixedRow] [mixedCase] := by
  have hlength : mixedRow.length = mixedHeader.length := rfl
  have hcells : TestCase.ofCells ((mixedHeader.map trimmed).zip mixedRow) = .ok mixedCase := by
    decide +kernel
  obtain ⟨honce, hcomplete, hshows⟩ := (ofCells_zip_eq_ok_iff hlength).1 hcells
  refine ⟨honce, fun k => (hcomplete k).imp_right fun hk => ?_, .cons hshows .nil⟩
  exact ⟨Column.isOptional_iff.1 hk.1, by simpa using hk.2⟩

/-- The case is read behind two marks; and a sheet with two columns for ids is at fault. -/
theorem readCsv_mixedText :
    readCsv (List.replicate 2 byteOrderMark ++ mixedText) = .ok [mixedCase] ∧
      ∃ fault, readCsv (Csv.write [["id", "TC_ID"], ["1", "2"]]) = .error (.record fault) := by
  constructor
  · have hmark : ∀ name ∈ mixedHeader, name.toList.head? ≠ some byteOrderMark := by decide
    exact (readCsv_of_areRecords areRecords_mixedText (fun name hname _ => hmark name hname) 2).1
      [mixedCase] (by decide) presents_mixedCase
  · have hrecords : Csv.AreRecords [["id", "TC_ID"], ["1", "2"]]
        (Csv.write [["id", "TC_ID"], ["1", "2"]]) := Csv.areRecords_write (by decide)
    have hmark : ∀ name ∈ ["id", "TC_ID"], name.toList.head? ≠ some byteOrderMark := by decide
    have hid : NamesTwice ["id", "TC_ID"] .id :=
      ⟨"id", "TC_ID", List.Sublist.refl _, by decide, by decide⟩
    exact (readCsv_of_areRecords hrecords (fun name hname _ => hmark name hname) 0).2
      (by decide) ⟨.id, .inl hid⟩

end Sheet
end CaseSheet

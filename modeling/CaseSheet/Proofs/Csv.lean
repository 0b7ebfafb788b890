import CaseSheet.Proofs.Row
import CaseSheet.Sheet.Csv
import Mathlib.Data.List.Forall2
/-!
# Comma-separated values read back

A text that records can be written as is read as these records, character by character, whatever
characters their fields hold. The state of a reader that counts is `Reader.Holds`; places are left
out of it, since they only serve to report faults.

* `Csv.fields_read`: every way to write records is read back.
* `Csv.areRecords_write`, `Csv.fields_read_write`: the writer takes one of them.
* `Sheet.readCsv_writeCsv`: so the cases of a sheet read back, if they have ids.
-/

namespace CaseSheet.Csv

/-! ## Written forms -/

/-- How a field can be written: as it is, if no character of it can only stand between quotes, or
between quotes with each quote of its own twice. -/
inductive IsField (s : String) : List Char → Prop where
  | bare (h : ∀ c ∈ s.toList, needsQuotes c = false) : IsField s s.toList
  | quoted : IsField s ('"' :: (doubleQuotes s.toList ++ ['"']))

/-- Fields with commas between them. -/
inductive AreFields : List String → List Char → Prop where
  | last {s : String} {cs : List Char} (h : IsField s cs) : AreFields [s] cs
  | cons {s : String} {rest : List String} {cs ds : List Char} (h : IsField s cs)
      (hrest : AreFields rest ds) : AreFields (s :: rest) (cs ++ ',' :: ds)

/-- The text of a record has a character. A record of one empty field has quotes, for that. -/
def IsRecord (fields : List String) (cs : List Char) : Prop := AreFields fields cs ∧ cs ≠ []

/-- What a record may end with. -/
inductive IsLineEnd : List Char → Prop where
  | lf : IsLineEnd ['\n']
  | crlf : IsLineEnd ['\r', '\n']

/-- Records with line ends behind them; the last one may go without. -/
inductive AreRecords : List (List String) → List Char → Prop where
  | nil : AreRecords [] []
  | last {fields : List String} {cs : List Char} (h : IsRecord fields cs) : AreRecords [fields] cs
  | cons {fields : List String} {rest : List (List String)} {cs lineEnd ds : List Char}
      (h : IsRecord fields cs) (hend : IsLineEnd lineEnd) (hrest : AreRecords rest ds) :
      AreRecords (fields :: rest) (cs ++ (lineEnd ++ ds))

theorem isField_bare {s : String} (h : s.toList.any needsQuotes = false) :
    IsField s s.toList := by
  rw [List.any_eq_false] at h
  exact .bare fun c hc => by simpa using h c hc

/-- The writer writes fields as they can be written. -/
theorem isField_writeField (s : String) : IsField s (writeField s) := by
  rw [writeField]
  split
  · exact .quoted
  · next hneeds => exact isField_bare (Bool.not_eq_true _ ▸ hneeds)

theorem areFields_writeFields {fs : List String} (hne : fs ≠ []) :
    AreFields fs (writeFields fs) := by
  induction fs with
  | nil => exact absurd rfl hne
  | cons s rest ih =>
    cases rest with
    | nil => exact .last (isField_writeField s)
    | cons s' rest => exact .cons (isField_writeField s) (ih (by simp))

/-- Fields that leave no character are one empty field. -/
theorem AreFields.eq_of_nil {fs : List String} {cs : List Char} (h : AreFields fs cs)
    (hcs : cs = []) : fs = [""] := by
  cases h with
  | last h =>
    cases h with
    | bare h => rw [String.toList_eq_nil_iff.1 hcs]
    | quoted => cases hcs
  | cons h hrest => exact absurd (List.append_eq_nil_iff.1 hcs).2 (by simp)

theorem exists_isRecord_writeRecord {fs : List String} (hne : fs ≠ []) :
    ∃ cs, IsRecord fs cs ∧ writeRecord fs = cs ++ ['\n'] := by
  rw [writeRecord]
  split
  · next hfs =>
    subst hfs
    exact ⟨['"', '"'], ⟨.last .quoted, by simp⟩, rfl⟩
  · next hfs =>
    have hfields := areFields_writeFields hne
    exact ⟨writeFields fs, ⟨hfields, fun hnil => hfs (hfields.eq_of_nil hnil)⟩, rfl⟩

/-- **The writer writes records as they can be written.** -/
theorem areRecords_write {records : List (List String)} (hne : ∀ fs ∈ records, fs ≠ []) :
    AreRecords records (write records) := by
  induction records with
  | nil => exact .nil
  | cons fs rest ih =>
    have htail : write (fs :: rest) = writeRecord fs ++ write rest := List.flatMap_cons
    obtain ⟨cs, hrecord, hcs⟩ := exists_isRecord_writeRecord (hne fs List.mem_cons_self)
    rw [htail, hcs, List.append_assoc]
    exact .cons hrecord .lf (ih fun gs hgs => hne gs (List.mem_cons_of_mem fs hgs))

/-! ## The state of a reader -/

/-- What a reader has taken in: the characters of the field and the fields of the record so far,
both in reverse, and the records that are done, the latest first. -/
structure Reader.Holds (r : Reader) (mode : Mode) (text : List Char) (fields : List String)
    (done : List (List String)) : Prop where
  mode_eq : r.mode = mode
  text_eq : r.text = text
  fields_eq : r.fields = fields
  done_eq : r.records.map (·.fields) = done

namespace Reader

theorem holds_start : start.Holds .record [] [] [] := ⟨rfl, rfl, rfl, rfl⟩

namespace Holds

variable {r : Reader} {mode : Mode} {text : List Char} {fields : List String}
  {done : List (List String)} {c : Char}

/-! ## One character -/

/-- A character that needs no quotes stands for itself outside quotes. -/
theorem step_bare (h : r.Holds mode text fields done) (hc : needsQuotes c = false)
    (hmode : mode = .record ∨ mode = .field ∨ mode = .bare) :
    (r.step c).Holds .bare (c :: text) fields done := by
  obtain ⟨rfl, rfl, rfl, rfl⟩ := h
  simp only [needsQuotes, Bool.or_eq_false_iff, beq_eq_false_iff_ne] at hc
  rcases hmode with hmode | hmode | hmode <;>
    constructor <;> simp [step, hmode, hc, isLineEnd, outside, take]

theorem step_openingQuote (h : r.Holds mode text fields done)
    (hmode : mode = .record ∨ mode = .field) : (r.step '"').Holds .quoted text fields done := by
  obtain ⟨rfl, rfl, rfl, rfl⟩ := h
  rcases hmode with hmode | hmode <;> constructor <;> simp [step, hmode, isLineEnd]

theorem step_quoted (h : r.Holds .quoted text fields done) (hc : c ≠ '"') :
    (r.step c).Holds .quoted (c :: text) fields done := by
  obtain ⟨hmode, rfl, rfl, rfl⟩ := h
  constructor <;> simp [step, hmode, hc, take]

theorem step_closingQuote (h : r.Holds .quoted text fields done) :
    (r.step '"').Holds .closing text fields done := by
  obtain ⟨hmode, rfl, rfl, rfl⟩ := h
  constructor <;> simp [step, hmode]

/-- The second of two quotes between quotes. -/
theorem step_secondQuote (h : r.Holds .closing text fields done) :
    (r.step '"').Holds .quoted ('"' :: text) fields done := by
  obtain ⟨hmode, rfl, rfl, rfl⟩ := h
  constructor <;> simp [step, hmode, take]

theorem step_comma (h : r.Holds mode text fields done) (hmode : mode ≠ .quoted) :
    (r.step ',').Holds .field [] (String.ofList text.reverse :: fields) done := by
  obtain ⟨rfl, rfl, rfl, rfl⟩ := h
  cases hm : r.mode with
  | quoted => exact absurd hm hmode
  | _ => constructor <;> simp [step, hm, isLineEnd, outside, endField]

/-- A line end behind the last field ends the record. -/
theorem step_lineEnd (h : r.Holds mode text fields done) (hc : isLineEnd c = true)
    (hquoted : mode ≠ .quoted) (hrecord : mode ≠ .record) :
    (r.step c).Holds .record [] []
      ((String.ofList text.reverse :: fields).reverse :: done) := by
  obtain ⟨rfl, rfl, rfl, rfl⟩ := h
  have hcomma : c ≠ ',' := by
    rintro rfl
    exact absurd hc (by decide)
  have hquote : c ≠ '"' := by
    rintro rfl
    exact absurd hc (by decide)
  cases hm : r.mode with
  | quoted => exact absurd hm hquoted
  | record => exact absurd hm hrecord
  | _ => constructor <;> simp [step, hm, hc, hcomma, hquote, outside, endRecord, endField]

/-- At the start of a record a line end is nothing. -/
theorem step_blankLine (h : r.Holds .record text fields done) (hc : isLineEnd c = true) :
    (r.step c).Holds .record text fields done := by
  obtain ⟨hmode, rfl, rfl, rfl⟩ := h
  constructor <;> simp [step, hmode, hc]

/-! ## Fields -/

theorem foldl_bare (h : r.Holds .bare text fields done) {cs : List Char}
    (hcs : ∀ c ∈ cs, needsQuotes c = false) :
    (cs.foldl step r).Holds .bare (cs.reverse ++ text) fields done := by
  induction cs generalizing r text with
  | nil => exact h
  | cons c cs ih =>
    rw [List.foldl_cons, List.reverse_cons, List.append_assoc]
    exact ih (h.step_bare (hcs c List.mem_cons_self) (.inr (.inr rfl)))
      fun d hd => hcs d (List.mem_cons_of_mem c hd)

theorem foldl_doubleQuotes (h : r.Holds .quoted text fields done) (cs : List Char) :
    ((doubleQuotes cs).foldl step r).Holds .quoted (cs.reverse ++ text) fields done := by
  induction cs generalizing r text with
  | nil => exact h
  | cons c cs ih =>
    have htail : doubleQuotes (c :: cs) =
        (if c = '"' then ['"', '"'] else [c]) ++ doubleQuotes cs := List.flatMap_cons
    rw [htail, List.foldl_append, List.reverse_cons, List.append_assoc]
    by_cases hc : c = '"'
    · subst hc
      exact ih h.step_closingQuote.step_secondQuote
    · rw [if_neg hc]
      exact ih (h.step_quoted hc)

/-- The text of a field puts the field into the reader. Where it is empty, the reader may stand
before a record as it did. -/
theorem foldl_field (h : r.Holds mode [] fields done) (hmode : mode = .record ∨ mode = .field)
    {s : String} {cs : List Char} (hs : IsField s cs) :
    ∃ mode', (cs.foldl step r).Holds mode' s.toList.reverse fields done ∧
      mode' ≠ .quoted ∧ (mode' = .record → mode = .record ∧ cs = []) := by
  cases hs with
  | bare hbare =>
    rcases hs : s.toList with _ | ⟨c, cs⟩
    · refine ⟨mode, h, ?_, fun hrecord => ⟨hrecord, rfl⟩⟩
      rcases hmode with rfl | rfl <;> decide
    · rw [hs] at hbare
      have hc := h.step_bare (hbare c List.mem_cons_self) (hmode.imp_right Or.inl)
      have hcs := hc.foldl_bare fun d hd => hbare d (List.mem_cons_of_mem c hd)
      rw [← List.reverse_cons] at hcs
      exact ⟨.bare, hcs, by decide, by rintro ⟨⟩⟩
  | quoted =>
    rw [List.foldl_cons, List.foldl_append]
    have hinside := (h.step_openingQuote hmode).foldl_doubleQuotes s.toList
    rw [List.append_nil] at hinside
    exact ⟨.closing, hinside.step_closingQuote, by decide, by rintro ⟨⟩⟩

end Holds

/-! ## Records -/

/-- A reader that stands behind the last field of a record. -/
def HoldsRecord (r : Reader) (record : List String) (done : List (List String)) : Prop :=
  ∃ mode text fields, r.Holds mode text fields done ∧ mode ≠ .quoted ∧ mode ≠ .record ∧
    (String.ofList text.reverse :: fields).reverse = record

variable {r : Reader} {record : List String} {done : List (List String)}

/-- The texts of fields put the fields into the reader. Before a record, they need a character for
that. -/
theorem Holds.foldl_fields {mode : Mode} {fields fs : List String} {cs : List Char}
    (h : r.Holds mode [] fields done) (hfs : AreFields fs cs)
    (hmode : mode = .field ∨ mode = .record ∧ cs ≠ []) :
    (cs.foldl step r).HoldsRecord (fields.reverse ++ fs) done := by
  induction hfs generalizing r mode fields with
  | last hs =>
    obtain ⟨mode', hs, hquoted, hrecord⟩ := h.foldl_field (hmode.symm.imp_left And.left) hs
    refine ⟨mode', _, _, hs, hquoted, ?_, ?_⟩
    · intro hm
      obtain ⟨rfl, rfl⟩ := hrecord hm
      rcases hmode with hmode | ⟨-, hmode⟩
      · cases hmode
      · exact hmode rfl
    · rw [List.reverse_reverse, String.ofList_toList, List.reverse_cons]
  | @cons s rest cs ds hs hrest ih =>
    obtain ⟨mode', hs, hquoted, -⟩ := h.foldl_field (hmode.symm.imp_left And.left) hs
    have hcomma := hs.step_comma hquoted
    rw [List.reverse_reverse, String.ofList_toList] at hcomma
    have hds := ih hcomma (.inl rfl)
    rw [List.reverse_cons, List.append_assoc] at hds
    rw [List.foldl_append, List.foldl_cons]
    exact hds

namespace HoldsRecord

/-- A line end behind a record puts the record into the reader. -/
theorem foldl_lineEnd (h : r.HoldsRecord record done) {cs : List Char} (hcs : IsLineEnd cs) :
    (cs.foldl step r).Holds .record [] [] (record :: done) := by
  obtain ⟨mode, text, fields, h, hquoted, hrecord, rfl⟩ := h
  cases hcs with
  | lf => exact h.step_lineEnd (by decide) hquoted hrecord
  | crlf =>
    -- The record ends with the carriage return, and the line feed is a blank line.
    exact (h.step_lineEnd (by decide) hquoted hrecord).step_blankLine (by decide)

/-- So does the end of the text. -/
theorem fields_finish (h : r.HoldsRecord record done) :
    r.finish.map (·.fields) = (record :: done).reverse := by
  obtain ⟨mode, text, fields, ⟨rfl, rfl, rfl, rfl⟩, -, hrecord, rfl⟩ := h
  rw [finish, if_neg hrecord, List.map_reverse]
  rfl

end HoldsRecord

/-- The text of records puts the records into the reader. -/
theorem Holds.fields_finish_foldl {records : List (List String)} {cs : List Char}
    (hrecords : AreRecords records cs) (h : r.Holds .record [] [] done) :
    (cs.foldl step r).finish.map (·.fields) = done.reverse ++ records := by
  induction hrecords generalizing r done with
  | nil =>
    rw [List.foldl_nil, finish, if_pos h.mode_eq, List.map_reverse, h.done_eq, List.append_nil]
  | last hrecord =>
    have hlast := h.foldl_fields hrecord.1 (.inr ⟨rfl, hrecord.2⟩)
    rw [hlast.fields_finish, List.reverse_cons]
    rfl
  | cons hrecord hend hrest ih =>
    have hline := (h.foldl_fields hrecord.1 (.inr ⟨rfl, hrecord.2⟩)).foldl_lineEnd hend
    rw [List.foldl_append, List.foldl_append, ih hline, List.reverse_cons, List.append_assoc]
    rfl

end Reader

/-- **Records are read**, whatever characters their fields hold and however they are written. -/
theorem fields_read {records : List (List String)} {cs : List Char}
    (h : AreRecords records cs) : (read cs).map (·.fields) = records :=
  Reader.holds_start.fields_finish_foldl h

/-- **Records read back**: reading what was written gives the same records. A record has at least
one field. -/
theorem fields_read_write {records : List (List String)} (hne : ∀ fs ∈ records, fs ≠ []) :
    (read (write records)).map (·.fields) = records :=
  fields_read (areRecords_write hne)

end CaseSheet.Csv

namespace CaseSheet.Sheet

/-! ## Sheets -/

/-- The titles of the columns have no blanks around them. -/
theorem map_trimmed_titles : (Column.all.map Column.title).map trimmed =
    Column.all.map Column.title := by
  decide

/-- **A record of the cells of a case** is the case. -/
theorem caseOfRecord_cells {number : Nat} {r : Csv.Record} {c : TestCase}
    (h : r.fields = c.cells) :
    caseOfRecord (Column.all.map Column.title) number r = .ok c := by
  have hpairs : (Column.all.map Column.title).zip c.cells =
      Column.all.map fun k => (k.title, c.cell k) := by
    rw [TestCase.cells, List.zip_map']
  have hcells : TestCase.ofCells ((Column.all.map Column.title).zip c.cells) = .ok c := by
    rw [hpairs]
    exact TestCase.ofCells_of_filled (c.filled_titles Column.all)
  simp only [caseOfRecord, h, hcells]
  simp [TestCase.cells]

/-- Records that are cases, whatever their numbers, are so one behind the other. -/
theorem casesOfRecords_of_forall₂ {header : List String} {number : Nat} {rs : List Csv.Record}
    {cases : List TestCase}
    (h : List.Forall₂ (fun r c => ∀ number, caseOfRecord header number r = .ok c) rs cases) :
    casesOfRecords header number rs = .ok cases := by
  induction h generalizing number with
  | nil => rfl
  | cons hcase _ ih =>
    rw [casesOfRecords, hcase, ih]
    rfl

theorem casesOfRecords_ok {α : Type} {header : List String} {fields : α → List String}
    {case : α → TestCase} {number : Nat} {rs : List Csv.Record} {xs : List α}
    (hcase : ∀ x number (r : Csv.Record), r.fields = fields x →
      caseOfRecord header number r = .ok (case x))
    (h : rs.map (·.fields) = xs.map fields) :
    casesOfRecords header number rs = .ok (xs.map case) := by
  rw [← List.forall₂_eq_eq_eq, List.forall₂_map_left_iff, List.forall₂_map_right_iff] at h
  refine casesOfRecords_of_forall₂ (List.forall₂_map_right_iff.2 (h.imp ?_))
  exact fun r x hfields number => hcase x number r hfields

theorem casesOfRecords_cells {number : Nat} {rs : List Csv.Record} {cases : List TestCase}
    (h : rs.map (·.fields) = cases.map TestCase.cells) :
    casesOfRecords (Column.all.map Column.title) number rs = .ok cases := by
  rw [casesOfRecords_ok (fun _ _ _ => caseOfRecord_cells) h, List.map_id']

/-- **A sheet reads back**: the text written for cases is read as these cases, whatever their
texts hold, if each id has a character that is not blank; otherwise the first case without such an
id is reported by its number, counted from one. -/
theorem readCsv_writeCsv (cases : List TestCase) :
    readCsv (writeCsv cases) =
      match cases.findIdx? fun c => c.id.toList.all Text.isBlank with
      | none => .ok cases
      | some i => .error (.missingId (i + 1)) := by
  refine Eq.trans ?_ (TestCase.withIds_eq cases)
  rw [writeCsv, records]
  cases cases with
  | nil => rfl
  | cons c cs =>
    simp only [List.isEmpty_cons, Bool.false_eq_true, if_false]
    generalize hcases : c :: cs = cases
    -- The mark in front is dropped, and nothing behind it: the text starts with a title.
    have hdrop : (byteOrderMark :: Csv.write (Column.all.map Column.title ::
          cases.map TestCase.cells)).dropWhile (· == byteOrderMark) =
        Csv.write (Column.all.map Column.title :: cases.map TestCase.cells) := by
      rw [List.dropWhile_cons_of_pos (by decide)]
      rfl
    have hne : ∀ fs ∈ Column.all.map Column.title :: cases.map TestCase.cells, fs ≠ [] := by
      intro fs hfs
      rcases List.mem_cons.1 hfs with rfl | hfs
      · decide
      · obtain ⟨c, -, rfl⟩ := List.mem_map.1 hfs
        simp [TestCase.cells, Column.all]
    have hread := Csv.fields_read_write hne
    obtain ⟨header, rows, hrecords, hheader, hrows⟩ := List.map_eq_cons_iff.1 hread
    rw [readCsv, hdrop, hrecords]
    simp only [hheader, map_trimmed_titles, casesOfRecords_cells hrows]
    rfl

end CaseSheet.Sheet

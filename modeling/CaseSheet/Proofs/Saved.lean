import CaseSheet.Proofs.Calendar
import CaseSheet.Proofs.Files.Store
import CaseSheet.Report.Export
import Mathlib.Data.List.Nodup
/-!
# Files of saved results

What saving leaves behind: the files that were there, and over them the exports and the reports,
each under its name in the directory for results. The names are different from each other whatever
the time.

* `Report.nodup_names`: no export is written over another one of the same save.
* `Report.save_written`: the files behind a save, and that their paths lead to them; `Report.save_ok`
  for one that is carried through.
* `Report.stand_of_save`: what is read of them then.
-/
namespace CaseSheet

/-! ## Names with the time in them -/

theorem Path.IsName.of_head? {name : String} {c : Char} (h : name.toList.head? = some c)
    (hc : c ≠ '.') (hslash : '/' ∉ name.toList) : Path.IsName name := by
  obtain ⟨cs, hcs⟩ := List.head?_eq_some_iff.1 h
  refine ⟨?_, ?_, hslash⟩ <;> simp [Path.isIdle, hcs, hc]

namespace Report

/-- The files that are written for results, each with its name and its text. -/
def named (results : List CaseResult) (format : ExportFormat) (now : DateTime) :
    List (String × String) :=
  (if format.hasJson then
    [(jsonName now, json results), (latestJsonName, json results)] else []) ++
  (if format.hasCsv then [(csvName now, csv results)] else []) ++
  [(reportName now, markdown results now), (latestReportName, markdown results now)]

variable {results : List CaseResult} {format : ExportFormat} {now : DateTime}
  {dir name text : String} {files files' : FileStore}

theorem outputs_eq (results : List CaseResult) (dir : String) (format : ExportFormat)
    (now : DateTime) : outputs results dir format now =
      (named results format now).map fun f => ⟨Path.join dir f.1, f.2⟩ := by
  cases format <;> rfl

theorem csv_mem_named (h : format.hasCsv = true) :
    (csvName now, csv results) ∈ named results format now := by simp [named, h]

theorem json_mem_named (h : format.hasJson = true) :
    (jsonName now, json results) ∈ named results format now ∧
      (latestJsonName, json results) ∈ named results format now := by simp [named, h]

/-- The names of the files that are written for results. -/
def names (format : ExportFormat) (now : DateTime) : List String :=
  (if format.hasJson then [jsonName now, latestJsonName] else []) ++
  (if format.hasCsv then [csvName now] else []) ++ [reportName now, latestReportName]

theorem map_fst_named (results : List CaseResult) (format : ExportFormat) (now : DateTime) :
    (named results format now).map Prod.fst = names format now := by
  cases format <;> rfl

theorem mem_names_cases (h : name ∈ names format now) :
    name = jsonName now ∨ name = latestJsonName ∨ name = csvName now ∨ name = reportName now ∨
      name = latestReportName := by
  cases format <;> simp [names, ExportFormat.hasJson, ExportFormat.hasCsv] at h <;> tauto

/-- The first and the last letter of a name. -/
def ends (name : String) : Option Char × Option Char := (name.toList.head?, name.toList.getLast?)

/-- What stands between a start and an end does not matter. -/
theorem ends_around {before behind : String} {c d : Char} (hbefore : before.toList.head? = some c)
    (hbehind : behind.toList.getLast? = some d) (inside : String) :
    ends (before ++ inside ++ behind) = (some c, some d) := by
  rw [ends, String.toList_append, String.toList_append, List.getLast?_append, hbehind,
    List.append_assoc, List.head?_append, hbefore]
  rfl

theorem ends_jsonName (now : DateTime) : ends (jsonName now) = (some 't', some 'n') :=
  ends_around (by decide) (by decide) now.stamp

theorem ends_csvName (now : DateTime) : ends (csvName now) = (some 't', some 'v') :=
  ends_around (by decide) (by decide) now.stamp

theorem ends_reportName (now : DateTime) : ends (reportName now) = (some 't', some 'd') :=
  ends_around (by decide) (by decide) now.stamp

theorem ends_latestJsonName : ends latestJsonName = (some 'l', some 'n') := by decide

theorem ends_latestReportName : ends latestReportName = (some 'l', some 'd') := by decide

theorem isName_of_ends {c d : Char} (h : ends name = (some c, some d)) (hc : c ≠ '.')
    (hslash : '/' ∉ name.toList) : Path.IsName name :=
  .of_head? (congrArg Prod.fst h) hc hslash

theorem isName_of_mem_names (h : name ∈ names format now) : Path.IsName name := by
  have hstamp := now.slash_not_mem_stamp
  rcases mem_names_cases h with rfl | rfl | rfl | rfl | rfl
  · refine isName_of_ends (ends_jsonName now) (by decide) ?_
    simp [jsonName, String.toList_append, hstamp]
  · exact .of_head? rfl (by decide) (by decide)
  · refine isName_of_ends (ends_csvName now) (by decide) ?_
    simp [csvName, String.toList_append, hstamp]
  · refine isName_of_ends (ends_reportName now) (by decide) ?_
    simp [reportName, String.toList_append, hstamp]
  · exact .of_head? rfl (by decide) (by decide)

/-- The names are told apart by their ends. -/
theorem nodup_names (format : ExportFormat) (now : DateTime) : (names format now).Nodup := by
  refine List.Nodup.of_map ends ?_
  cases format <;>
    simp [names, ExportFormat.hasJson, ExportFormat.hasCsv, ends_jsonName, ends_csvName,
      ends_reportName, ends_latestJsonName, ends_latestReportName]

end Report

/-! ## Files over files -/

namespace FileTree

variable {files : List String → Option (Option String)} {dir loc : List String}
  {named : List (String × String)} {name text : String}

/-- Files with others over them, each of these under its name in a directory. -/
def overlay (dir : List String) (named : List (String × String))
    (files : List String → Option (Option String)) : List String → Option (Option String) :=
  named.foldl (fun files f => Function.update files (dir ++ [f.1]) (some (some f.2))) files

theorem overlay_cons (f : String × String) : overlay dir (f :: named) files =
    overlay dir named (Function.update files (dir ++ [f.1]) (some (some f.2))) := rfl

/-- Other files stay. -/
theorem overlay_of_not_mem (h : ∀ name ∈ named.map Prod.fst, loc ≠ dir ++ [name]) :
    overlay dir named files loc = files loc := by
  induction named generalizing files with
  | nil => rfl
  | cons f named ih =>
    rw [List.map_cons, List.forall_mem_cons] at h
    rw [overlay_cons, ih h.2, Function.update_of_ne h.1]

theorem overlay_of_mem (hnodup : (named.map Prod.fst).Nodup) (h : (name, text) ∈ named) :
    overlay dir named files (dir ++ [name]) = some (some text) := by
  induction named generalizing files with
  | nil => cases h
  | cons f named ih =>
    obtain ⟨hf, hnodup⟩ := List.nodup_cons.1 hnodup
    rw [overlay_cons]
    rcases List.mem_cons.1 h with rfl | h
    · rw [overlay_of_not_mem, Function.update_self]
      rintro n hn heq
      obtain rfl : name = n := by simpa using heq
      exact hf hn
    · exact ih hnodup h

theorem isSome_overlay_iff : (overlay dir named files loc).isSome ↔
    (files loc).isSome ∨ ∃ name ∈ named.map Prod.fst, loc = dir ++ [name] := by
  induction named generalizing files with
  | nil => simp [overlay]
  | cons f named ih =>
    rw [overlay_cons, ih]
    by_cases h : loc = dir ++ [f.1]
    · simp [h]
    · simp [h]

end FileTree

namespace Report

open FileTree (overlay)

variable {results : List CaseResult} {format : ExportFormat} {now : DateTime} {saved : Saved}
  {dir : String} {files files' : FileStore}

/-- How many files are written one after the other, up to the first that cannot be. -/
def countWritten : List Output → FileStore → Nat
  | [], _ => 0
  | o :: rest, files =>
    match files.writeText o.path o.text with
    | .ok files => countWritten rest files + 1
    | .error _ => 0

/-- The files that a save writes, whether it is carried through or not. -/
def written (results : List CaseResult) (dir : String) (format : ExportFormat) (now : DateTime)
    (files : FileStore) : List (String × String) :=
  match files.createDirs dir with
  | .ok files =>
    (named results format now).take (countWritten (outputs results dir format now) files)
  | .error _ => []

theorem written_isPrefix (results : List CaseResult) (dir : String) (format : ExportFormat)
    (now : DateTime) (files : FileStore) :
    written results dir format now files <+: named results format now := by
  rw [written]
  split
  · exact List.take_prefix _ _
  · exact List.nil_prefix

/-- Files that are written stand over those that were there, and their paths lead to them. -/
theorem writeAll_written {texts : List (String × String)} {os : List Output} (hs : files.IsSound)
    (hos : os = texts.map fun f => ⟨Path.join dir f.1, f.2⟩)
    (hnames : ∀ name ∈ texts.map Prod.fst, Path.IsName name) (h : (writeAll os files).2 = files') :
    files'.IsSound ∧ files.Grows files' ∧
      files'.tree.fileAt? =
        overlay (files.place dir) (texts.take (countWritten os files)) files.tree.fileAt? ∧
      ∀ name ∈ (texts.take (countWritten os files)).map Prod.fst,
        files'.resolve (Path.join dir name) = .ok (files.place dir ++ [name]) := by
  induction texts generalizing os files with
  | nil =>
    cases hos
    cases h
    exact ⟨hs, .refl _, rfl, List.forall_mem_nil _⟩
  | cons f texts ih =>
    rw [List.map_cons, List.forall_mem_cons] at hnames
    obtain ⟨hname, hnames⟩ := hnames
    rw [List.map_cons] at hos
    subst hos
    rw [writeAll] at h
    rw [countWritten]
    cases hw : files.writeText (Path.join dir f.1) f.2 with
    | ok between =>
      simp only [hw] at h
      obtain ⟨hs', hgrows, hfiles, -, hresolve⟩ := FileStore.writeText_ok hs hw
      rw [files.place_join dir hname] at hfiles hresolve
      obtain ⟨hs'', hgrows', hfiles', hresolve'⟩ := ih hs' rfl hnames h
      rw [hgrows.place_eq] at hfiles' hresolve'
      simp only [List.take_succ_cons]
      refine ⟨hs'', hgrows.trans hgrows', ?_, ?_⟩
      · rw [hfiles', hfiles, FileTree.overlay_cons]
      · rw [List.map_cons, List.forall_mem_cons]
        exact ⟨hgrows'.resolve hresolve, hresolve'⟩
    | error e =>
      simp only [hw] at h
      cases h
      exact ⟨hs, .refl _, rfl, List.forall_mem_nil _⟩

theorem isName_of_mem_named : ∀ name ∈ (named results format now).map Prod.fst,
    Path.IsName name := by
  rw [map_fst_named]
  exact fun name => isName_of_mem_names

/-- **What a save leaves**, whether it is carried through or not: the files that it has written stand
over those that were there, in the directory for results, and their paths lead to them. -/
theorem save_written (hs : files.IsSound) (h : (save results dir format now files).2 = files') :
    files'.IsSound ∧ files.Grows files' ∧
      files'.tree.fileAt? =
        overlay (files.place dir) (written results dir format now files) files.tree.fileAt? ∧
      ∀ name ∈ (written results dir format now files).map Prod.fst,
        files'.resolve (Path.join dir name) = .ok (files.place dir ++ [name]) := by
  rw [save] at h
  rw [written]
  split at h
  · next e made hmade =>
    cases h
    obtain ⟨hs', hgrows, hfiles, -⟩ := FileStore.makesDirs_createDirs hs (.inr ⟨e, hmade⟩)
    simp only [hmade]
    exact ⟨hs', hgrows, hfiles, List.forall_mem_nil _⟩
  · next made hmade =>
    obtain ⟨hs', hgrows, hfiles, -⟩ := FileStore.makesDirs_createDirs hs (.inl hmade)
    obtain ⟨hs'', hgrows', hfiles', hresolve⟩ :=
      writeAll_written hs' (outputs_eq _ _ _ _) isName_of_mem_named h
    rw [hgrows.place_eq] at hfiles' hresolve
    rw [hfiles] at hfiles'
    simp only [hmade]
    exact ⟨hs'', hgrows.trans hgrows', hfiles', hresolve⟩

theorem countWritten_of_ok {os : List Output} (h : writeAll os files = (.ok (), files')) :
    countWritten os files = os.length := by
  induction os generalizing files with
  | nil => rfl
  | cons o os ih =>
    rw [writeAll] at h
    rw [countWritten]
    cases hw : files.writeText o.path o.text with
    | ok between =>
      simp only [hw] at h
      simp only [ih h, List.length_cons]
    | error e =>
      simp only [hw] at h
      cases h

/-- A save that is carried through has written all its files. -/
theorem written_of_ok (h : save results dir format now files = (.ok saved, files')) :
    written results dir format now files = named results format now := by
  rw [save] at h
  rw [written]
  split at h
  · cases h
  · next made hmade =>
    rcases hw : writeAll (outputs results dir format now) made with ⟨done, behind⟩
    rw [hw] at h
    obtain ⟨hdone, rfl⟩ := Prod.mk.inj h
    cases done with
    | error e => cases hdone
    | ok u =>
      simp only [hmade, countWritten_of_ok hw]
      rw [outputs_eq, List.length_map, List.take_length]

/-- **Saved results**: the exports and reports stand over the files that were there, in the
directory for results, and their paths lead to them. -/
theorem save_ok (hs : files.IsSound)
    (h : save results dir format now files = (.ok saved, files')) :
    files'.IsSound ∧ files.Grows files' ∧
      files'.tree.fileAt? =
        overlay (files.place dir) (named results format now) files.tree.fileAt? ∧
      ∀ name ∈ names format now,
        files'.resolve (Path.join dir name) = .ok (files.place dir ++ [name]) := by
  rw [← map_fst_named results, ← written_of_ok h]
  exact save_written hs (congrArg Prod.snd h)

/-- A saved file is read as the text that was written. -/
theorem readText_of_save {name text : String} (hs : files.IsSound)
    (h : save results dir format now files = (.ok saved, files'))
    (hmem : (name, text) ∈ named results format now) :
    files'.readText (Path.join dir name) = .ok text := by
  obtain ⟨-, -, hfiles, hresolve⟩ := save_ok hs h
  have hname : name ∈ names format now := by
    rw [← map_fst_named results]
    exact List.mem_map_of_mem hmem
  rw [FileStore.readText_eq_ok_iff (hresolve name hname), hfiles, FileTree.overlay_of_mem _ hmem]
  rw [map_fst_named]
  exact nodup_names format now

theorem exists_of_isOk_save (h : (save results dir format now files).1.isOk = true) :
    ∃ saved files', save results dir format now files = (.ok saved, files') := by
  cases hsave : save results dir format now files with
  | mk done files' =>
    rw [hsave] at h
    cases done with
    | error e => cases h
    | ok saved => exact ⟨saved, files', rfl⟩

/-- The place of the sheet is reported where one is written. -/
theorem saved_of_save (h : save results dir format now files = (.ok saved, files')) :
    saved = Report.saved dir format now := by
  rw [save] at h
  split at h
  · cases h
  · next made hmade =>
    obtain ⟨hdone, -⟩ := Prod.mk.inj h
    cases hw : (writeAll (outputs results dir format now) made).1 with
    | error e => rw [hw] at hdone; cases hdone
    | ok u => rw [hw] at hdone; exact (Except.ok.inj hdone).symm

/-- The exports and reports of results stand where a save says that they are: those of the format,
each with its text. -/
structure Stand (results : List CaseResult) (dir : String) (format : ExportFormat) (now : DateTime)
    (saved : Saved) (files : FileStore) : Prop where
  hasJson : saved.json.isSome = format.hasJson
  hasCsv : saved.csv.isSome = format.hasCsv
  json : ∀ path ∈ saved.json, files.readText path = .ok (json results) ∧
    files.readText (Path.join dir latestJsonName) = .ok (json results)
  csv : ∀ path ∈ saved.csv, files.readText path = .ok (csv results)
  report : files.readText saved.report = .ok (markdown results now)
  latestReport : files.readText saved.latestReport = .ok (markdown results now)

/-- **A save that is carried through** leaves its exports and reports behind. -/
theorem stand_of_save (hs : files.IsSound)
    (h : save results dir format now files = (.ok saved, files')) :
    Stand results dir format now saved files' := by
  have hread {name text : String} (hmem : (name, text) ∈ named results format now) :
      files'.readText (Path.join dir name) = .ok text := readText_of_save hs h hmem
  rw [saved_of_save h]
  refine ⟨?_, ?_, ?_, ?_, hread (by simp [named]), hread (by simp [named])⟩
  · cases hjson : format.hasJson <;> simp [Report.saved, hjson]
  · cases hcsv : format.hasCsv <;> simp [Report.saved, hcsv]
  · intro path hpath
    cases hjson : format.hasJson with
    | false => simp [Report.saved, hjson] at hpath
    | true =>
      obtain rfl : Path.join dir (jsonName now) = path := by simpa [Report.saved, hjson] using hpath
      exact ⟨hread (json_mem_named hjson).1, hread (json_mem_named hjson).2⟩
  · intro path hpath
    cases hcsv : format.hasCsv with
    | false => simp [Report.saved, hcsv] at hpath
    | true =>
      obtain rfl : Path.join dir (csvName now) = path := by simpa [Report.saved, hcsv] using hpath
      exact hread (csv_mem_named hcsv)

end Report
end CaseSheet

import CaseSheet.Proofs.Files.Parent
import CaseSheet.Proofs.Yaml.Sheet
import CaseSheet.Sheet.File
/-!
# The sample sheet

The sample is written whole or not at all. Where it is not wanted, or where the extension of the
path tells no format, the files stay what they are. Elsewhere it is written if there is room for
it; the sheet at the path is then read as the sample, and besides it only the directories around the
path can be new.

* `Sheet.Format.ofPath?_eq_none_iff`: the extensions that tell no format.
* `Sheet.createParent_ok`: the directories around a path.
* `Sheet.hasRoom_iff`: where a file can be written.
* `Sheet.writeSample_all_or_nothing`: all ways in which it ends.
-/
namespace CaseSheet.Sheet

variable {files files' : FileStore} {path : String} {replace : Bool} {format : Format}

/-! ## Formats -/

/-- The extensions that tell a format. -/
def extensions : List (List Char) := ["csv".toList, "yaml".toList, "yml".toList]

/-- An extension in small letters tells a format if it is one of these. -/
theorem Format.ofPath?_eq_none_iff :
    ofPath? path = none ↔ ∀ e, Path.extension? path = some e → Text.lower e ∉ extensions := by
  unfold ofPath?
  cases Path.extension? path with
  | none => simp
  | some e =>
    have hmem : Text.lower e ∈ extensions ↔ String.ofList (Text.lower e) = "csv" ∨
        String.ofList (Text.lower e) = "yaml" ∨ String.ofList (Text.lower e) = "yml" := by
      simp [extensions, ← String.toList_inj]
    simp only [Option.map_some, Option.some.injEq, forall_eq', hmem]
    split <;> simp_all

theorem readYaml_of_withIds {cases : List TestCase} (hids : TestCase.withIds cases = .ok cases) :
    readYaml (writeYaml cases) = .ok cases := by
  obtain ⟨d, hread, hsheet⟩ := readDocument?_writeYaml cases
  have hcases := casesOfDocument_of_isSheet hsheet
  simp only [readYaml, hread, hcases, hids]

/-- What is written of the sample is read as the sample. -/
theorem read_write_sample (format : Format) : format.read (format.write sample) = .ok sample := by
  cases format with
  | csv => decide +kernel
  | yaml =>
    have hread : readYaml (writeYaml sample) = .ok sample :=
      readYaml_of_withIds (by decide +kernel)
    exact hread

/-! ## The directories around a path -/

/-- The steps that lead to the directory of a path. -/
def around (path : String) : List (List Char) := (Path.steps path.toList).dropLast

theorem around_eq {ps : List (List Char)} {q : List Char}
    (hpieces : Path.pieces path.toList = ps ++ [q]) (hq : Path.isIdle q = false) :
    around path = ps.filter (!Path.isIdle ·) := by
  rw [around, Path.steps, hpieces, List.filter_append, List.filter_cons_of_pos (by simp [hq]),
    List.filter_nil, List.dropLast_concat]

/-- **The directories around a path** that ends in a name are there once they have been made. -/
theorem createParent_ok {ps : List (List Char)} {q : List Char} (hs : files.IsSound)
    (hpieces : Path.pieces path.toList = ps ++ [q]) (hq : Path.isIdle q = false)
    (h : createParent files path = .ok files') :
    files'.IsSound ∧ files.Grows files' ∧ files'.tree.fileAt? = files.tree.fileAt? ∧
      ∀ l, files'.tree.IsDirAt l ↔
        files.tree.IsDirAt l ∨ Path.OnTheWay (files.origin path) (around path) l := by
  obtain ⟨dir, hparent, hsteps, habsolute, -⟩ := Path.steps_parent? hpieces hq
  rw [← around_eq hpieces hq] at hsteps
  simp only [createParent, hparent] at h
  split at h
  · next hempty =>
    cases h
    obtain rfl : dir = "" := by simpa using hempty
    refine ⟨hs, .refl _, rfl, fun l => ?_⟩
    have hnone : around path = [] := hsteps.symm
    rw [hnone, Path.onTheWay_nil]
    exact (or_iff_left_of_imp fun hl => hl ▸ hs.isDirAt_origin path).symm
  · have horigin : files.origin dir = files.origin path := by
      rw [FileStore.origin, FileStore.origin, habsolute]
    obtain ⟨hs', hgrows, hfiles, hdirs⟩ := FileStore.makesDirs_createDirs hs (.inl h)
    have hmade : ∀ l, Path.OnTheWay (files.origin dir) (Path.steps dir.toList) l →
        files'.tree.IsDirAt l := fun l => FileStore.isDirAt_of_createDirs hs h
    rw [horigin, hsteps] at hdirs hmade
    refine ⟨hs', hgrows, hfiles, fun l => ⟨hdirs l, ?_⟩⟩
    rintro (hl | hl)
    · exact hgrows.keeps.dirs l hl
    · exact hmade l hl

/-- No file changes where directories are made, whether all of them are or not. -/
theorem fileAt?_createParent (hs : files.IsSound)
    (h : createParent files path = .ok files' ∨ ∃ e, createParent files path = .error (e, files')) :
    files'.IsSound ∧ files.Grows files' ∧ files'.tree.fileAt? = files.tree.fileAt? := by
  unfold createParent at h
  split at h
  · split at h
    · obtain h | ⟨e, h⟩ := h <;> cases h
      exact ⟨hs, .refl _, rfl⟩
    · obtain ⟨hs', hgrows, hfiles, -⟩ := FileStore.makesDirs_createDirs hs h
      exact ⟨hs', hgrows, hfiles⟩
  · obtain h | ⟨e, h⟩ := h <;> cases h
    exact ⟨hs, .refl _, rfl⟩

/-! ## Room for a file -/

/-- Nothing is in the way of a file at a path: the path ends in a name, no file stands where there
must be a directory around it, and no directory stands at its own place or is to be made there. -/
structure HasRoom (files : FileStore) (path : String) : Prop where
  endsInName : ∃ ps q, Path.pieces path.toList = ps ++ [q] ∧ Path.isIdle q = false ∧ q ≠ ['.', '.']
  no_file : ∀ l, Path.OnTheWay (files.origin path) (around path) l → files.tree.fileAt? l = none
  no_dir : ¬ files.tree.IsDirAt (files.place path)
  not_around : ¬ Path.OnTheWay (files.origin path) (around path) (files.place path)

/-- The directories around a path are made where there is room. -/
theorem HasRoom.exists_createParent (hs : files.IsSound) (h : HasRoom files path) :
    ∃ between, createParent files path = .ok between := by
  obtain ⟨ps, q, hpieces, hq, -⟩ := h.endsInName
  obtain ⟨dir, hparent, hsteps, habsolute, -⟩ := Path.steps_parent? hpieces hq
  have horigin : files.origin dir = files.origin path := by
    rw [FileStore.origin, FileStore.origin, habsolute]
  simp only [createParent, hparent]
  split
  · exact ⟨files, rfl⟩
  · refine FileStore.exists_createDirs hs (Path.endsTidy_parent? hparent) ?_
    rw [horigin, hsteps, ← around_eq hpieces hq]
    exact h.no_file

/-- **A file can be written** behind the directories around it if and only if there is room. -/
theorem hasRoom_iff (hs : files.IsSound) (text : String) :
    HasRoom files path ↔ ∃ between files', createParent files path = .ok between ∧
      between.writeText path text = .ok files' := by
  constructor
  · intro h
    obtain ⟨between, hmade⟩ := h.exists_createParent hs
    obtain ⟨ps, q, hpieces, hq, hup⟩ := h.endsInName
    obtain ⟨-, hgrows, -, hdirs⟩ := createParent_ok hs hpieces hq hmade
    have hway : ∀ l, Path.OnTheWay (between.origin path) ps l → between.tree.IsDirAt l := by
      intro l hl
      rw [hgrows.origin_eq, ← Path.onTheWay_filter, ← around_eq hpieces hq] at hl
      exact (hdirs l).2 (.inr hl)
    have hfree : ¬ between.tree.IsDirAt (between.place path) := by
      rw [hgrows.place_eq, hdirs]
      rintro (hdir | haround)
      · exact h.no_dir hdir
      · exact h.not_around haround
    rw [FileStore.place_concat hpieces hq hup] at hfree
    have htarget := FileStore.target_eq_ok_iff.2 ⟨ps, q, hpieces, hq, hup,
      FileTree.walk_of_onTheWay hway, hway _ ⟨ps, List.prefix_rfl, rfl⟩, rfl, hfree⟩
    exact ⟨between, _, hmade, FileStore.writeText_eq_ok_iff.2 ⟨_, htarget, rfl⟩⟩
  · rintro ⟨between, files', hmade, hwrite⟩
    obtain ⟨loc, htarget, -⟩ := FileStore.writeText_eq_ok_iff.1 hwrite
    obtain ⟨ps, q, hpieces, hq, hup, -, -, rfl, hfree⟩ := FileStore.target_eq_ok_iff.1 htarget
    obtain ⟨-, hgrows, hfiles, hdirs⟩ := createParent_ok hs hpieces hq hmade
    rw [← FileStore.place_concat hpieces hq hup, hgrows.place_eq, hdirs, not_or] at hfree
    refine ⟨⟨ps, q, hpieces, hq, hup⟩, fun l hl => ?_, hfree.1, hfree.2⟩
    obtain ⟨entries, hat⟩ := (hdirs l).2 (.inr hl)
    rw [← hfiles, FileTree.fileAt?, hat]

/-! ## Writing the sample -/

/-- The second files are the first with the sample sheet at a path: one file may have changed, the
directories around it may be new, and the sheet is read as the sample. -/
structure HoldsSample (files files' : FileStore) (path : String) : Prop where
  workingDir_eq : files'.workingDir = files.workingDir
  fileAt?_eq : ∃ text, files'.tree.fileAt? =
    Function.update files.tree.fileAt? (files.place path) (some (some text))
  isDirAt_iff : ∀ l, files'.tree.IsDirAt l ↔
    files.tree.IsDirAt l ∨ Path.OnTheWay (files.origin path) (around path) l
  load_eq : load files' path = .ok sample

/-- A sheet that is written behind the directories around it. -/
theorem holdsSample_of_writeText {between : FileStore} (hs : files.IsSound)
    (hformat : Format.ofPath? path = some format) (hmade : createParent files path = .ok between)
    (h : between.writeText path (String.ofList (format.write sample)) = .ok files') :
    HoldsSample files files' path := by
  obtain ⟨hs', -, -⟩ := fileAt?_createParent hs (.inl hmade)
  obtain ⟨-, hgrows', hfiles', hdirs', hresolve⟩ := FileStore.writeText_ok hs' h
  obtain ⟨loc, htarget, -⟩ := FileStore.writeText_eq_ok_iff.1 h
  obtain ⟨ps, q, hpieces, hq, -⟩ := FileStore.target_eq_ok_iff.1 htarget
  obtain ⟨-, hgrows, hfiles, hdirs⟩ := createParent_ok hs hpieces hq hmade
  refine ⟨(hgrows.trans hgrows').workingDir_eq, ?_, fun l => ?_, ?_⟩
  · rw [hfiles, hgrows.place_eq] at hfiles'
    exact ⟨_, hfiles'⟩
  · rw [hdirs', hdirs]
  · have hread : files'.readText path = .ok (String.ofList (format.write sample)) := by
      rw [FileStore.readText_eq_ok_iff hresolve, hfiles', Function.update_self]
    simp only [load, hformat, hread, String.toList_ofList, read_write_sample]

/-- Where the sample is wanted and the path tells a format, it is written behind the directories
around it, or something is wrong with the files. -/
theorem writeSample_cases (hwanted : ¬ (files.holds path = true ∧ replace = false))
    (hformat : Format.ofPath? path = some format) :
    (∃ between files', createParent files path = .ok between ∧
      between.writeText path (String.ofList (format.write sample)) = .ok files' ∧
      writeSample files path replace = .ok (true, files')) ∨
    (¬ ∃ between files', createParent files path = .ok between ∧
      between.writeText path (String.ofList (format.write sample)) = .ok files') ∧
    ∃ problem left, writeSample files path replace = .error ⟨.file path problem, left⟩ ∧
      (createParent files path = .ok left ∨ ∃ e, createParent files path = .error (e, left)) := by
  have hskip : (files.holds path && !replace) = false := by
    simpa using hwanted
  simp only [writeSample, hskip, hformat, Bool.false_eq_true, if_false]
  cases hmade : createParent files path with
  | error failure =>
    refine .inr ⟨?_, failure.1, failure.2, rfl, .inr ⟨failure.1, rfl⟩⟩
    rintro ⟨between, files', h, -⟩
    cases h
  | ok between =>
    dsimp only
    cases hwrite : between.writeText path (String.ofList (format.write sample)) with
    | error e =>
      refine .inr ⟨?_, e, between, rfl, .inl rfl⟩
      rintro ⟨_, files', h, h'⟩
      cases h
      cases hwrite.symm.trans h'
    | ok files' => exact .inl ⟨between, files', rfl, hwrite, rfl⟩

theorem writeSample_refused (hwanted : ¬ (files.holds path = true ∧ replace = false))
    (hformat : Format.ofPath? path = none) :
    writeSample files path replace = .error ⟨.unsupported path, files⟩ := by
  have hskip : (files.holds path && !replace) = false := by
    simpa using hwanted
  simp only [writeSample, hskip, hformat, Bool.false_eq_true, if_false]

/-- What is there is left alone unless it is to be replaced. -/
theorem writeSample_kept (h : files.holds path = true ∧ replace = false) :
    writeSample files path replace = .ok (false, files) := by
  simp [writeSample, h]

/-- **The sample is written whole or not at all.** What is there is left alone unless it is to be
replaced; a path whose extension tells no format is refused, and nothing is made for it; for any
other path the sample is written if there is room for it, and otherwise no file has changed. Where
it is written, it is read as the sample, and nothing is new but the file and the directories around
it. -/
theorem writeSample_all_or_nothing (hs : files.IsSound) (path : String) (replace : Bool) :
    (files.holds path = true ∧ replace = false →
      writeSample files path replace = .ok (false, files)) ∧
    (¬ (files.holds path = true ∧ replace = false) →
      ((∀ e, Path.extension? path = some e → Text.lower e ∉ extensions) →
        writeSample files path replace = .error ⟨.unsupported path, files⟩) ∧
      ∀ e, Path.extension? path = some e → Text.lower e ∈ extensions →
        (HasRoom files path → ∃ files', writeSample files path replace = .ok (true, files')) ∧
        (¬ HasRoom files path → ∃ problem left,
          writeSample files path replace = .error ⟨.file path problem, left⟩ ∧
            files.Grows left ∧ left.tree.fileAt? = files.tree.fileAt?)) ∧
    ∀ files', writeSample files path replace = .ok (true, files') →
      HoldsSample files files' path := by
  refine ⟨writeSample_kept, fun hwanted => ⟨fun hext => ?_, fun e he hext => ?_⟩,
    fun files' h => ?_⟩
  · exact writeSample_refused hwanted (Format.ofPath?_eq_none_iff.2 hext)
  · cases hformat : Format.ofPath? path with
    | none => exact absurd hext (Format.ofPath?_eq_none_iff.1 hformat e he)
    | some format =>
      rw [hasRoom_iff hs (String.ofList (format.write sample))]
      rcases writeSample_cases hwanted hformat with
        ⟨between, files', hmade, hwrite, hwritten⟩ | ⟨hno, problem, left, hfailed, hmade⟩
      · exact ⟨fun _ => ⟨files', hwritten⟩, fun hno => absurd ⟨between, files', hmade, hwrite⟩ hno⟩
      · obtain ⟨-, hgrows, hfiles⟩ := fileAt?_createParent hs hmade
        exact ⟨fun hroom => absurd hroom hno, fun _ => ⟨problem, left, hfailed, hgrows, hfiles⟩⟩
  · have hwanted : ¬ (files.holds path = true ∧ replace = false) := by
      intro hkept
      rw [writeSample_kept hkept] at h
      cases h
    cases hformat : Format.ofPath? path with
    | none =>
      rw [writeSample_refused hwanted hformat] at h
      cases h
    | some format =>
      rcases writeSample_cases hwanted hformat with
        ⟨between, files'', hmade, hwrite, hwritten⟩ | ⟨-, problem, left, hfailed, -⟩
      · cases hwritten.symm.trans h
        exact holdsSample_of_writeText hs hformat hmade hwrite
      · cases hfailed.symm.trans h

/-- A disk on which there is nothing yet. -/
def newDisk : FileStore := ⟨.empty, []⟩

/-- Two directories are made around the sheet. -/
theorem writeSample_newDisk :
    newDisk.IsSound ∧
      ∃ files', writeSample newDisk "qa/./deep/cases.YML" false = .ok (true, files') ∧
        HoldsSample newDisk files' "qa/./deep/cases.YML" ∧ files'.tree.IsDirAt ["qa", "deep"] := by
  have hs : newDisk.IsSound := ⟨.empty, [], rfl⟩
  have hfree : ¬ (newDisk.holds "qa/./deep/cases.YML" = true ∧ false = false) := by decide +kernel
  have hext : Path.extension? "qa/./deep/cases.YML" = some "YML".toList := by decide +kernel
  have hsome : (writeSample newDisk "qa/./deep/cases.YML" false).toOption.isSome = true := by
    decide +kernel
  obtain ⟨-, hwanted, hwritten⟩ := writeSample_all_or_nothing hs "qa/./deep/cases.YML" false
  obtain ⟨files', h⟩ : ∃ files', writeSample newDisk "qa/./deep/cases.YML" false =
      .ok (true, files') := by
    by_cases hroom : HasRoom newDisk "qa/./deep/cases.YML"
    · exact ((hwanted hfree).2 _ hext (by decide +kernel)).1 hroom
    · obtain ⟨problem, left, h, -⟩ := ((hwanted hfree).2 _ hext (by decide +kernel)).2 hroom
      rw [h] at hsome
      cases hsome
  refine ⟨hs, files', h, hwritten files' h, ?_⟩
  rw [(hwritten files' h).isDirAt_iff]
  exact .inr ⟨["qa".toList, "deep".toList], by decide +kernel, by decide +kernel⟩

end CaseSheet.Sheet

import CaseSheet.Proofs.Saved
/-!
# Results that are saved again

A later save into the same directory writes over the newest copies, and over nothing else that an
earlier one has left, as long as its names are different. They are when the clock shows another
second; in the same second both saves write under the same names, and what the later one writes
stands.

* `Report.readText_save_iff`: a text is still read after a save unless that writes another one under
  its name.
* `Report.readsStamped_save_iff`: the files of an earlier save after a later one.
-/
namespace CaseSheet

theorem FileTree.overlay_eq_iff {files : List String → Option (Option String)}
    {dir : List String} {named : List (String × String)} {name text : String}
    (hnodup : (named.map Prod.fst).Nodup) (h : files (dir ++ [name]) = some (some text)) :
    overlay dir named files (dir ++ [name]) = some (some text) ↔
      ∀ g ∈ named, g.1 = name → g.2 = text := by
  by_cases hname : name ∈ named.map Prod.fst
  · obtain ⟨⟨name, text'⟩, hg, rfl⟩ := List.mem_map.1 hname
    rw [overlay_of_mem hnodup hg, Option.some.injEq, Option.some.injEq]
    refine ⟨fun heq g hg' hsame => ?_, fun hall => hall _ hg rfl⟩
    rw [List.inj_on_of_nodup_map hnodup hg' hg hsame, heq]
  · rw [overlay_of_not_mem, h]
    · exact iff_of_true rfl fun g hg heq => absurd (heq ▸ List.mem_map_of_mem hg) hname
    · rintro n hn heq
      obtain rfl : name = n := by simpa using heq
      exact hname hn

namespace Report

variable {results results' : List CaseResult} {format format' : ExportFormat}
  {now now' : DateTime} {dir dir' name text path : String} {files between files' : FileStore}

/-! ## Names with the time in them -/

/-- The names that carry the time. -/
def stampedNames (now : DateTime) : List String := [jsonName now, csvName now, reportName now]

theorem around_inj {before behind inside inside' : String} :
    before ++ inside ++ behind = before ++ inside' ++ behind ↔ inside = inside' := by
  simp [← String.toList_inj, String.toList_append]

/-- A name that carries the time is written again only with the same time. -/
theorem stamp_eq_of_mem (h : name ∈ stampedNames now) (h' : name ∈ names format now') :
    now.stamp = now'.stamp := by
  simp only [stampedNames, List.mem_cons, List.not_mem_nil, or_false] at h
  rcases mem_names_cases h' with rfl | rfl | rfl | rfl | rfl <;> rcases h with h | h | h
  case inl.inl => exact (around_inj.1 h).symm
  case inr.inr.inl.inr.inl => exact (around_inj.1 h).symm
  case inr.inr.inr.inl.inr.inr => exact (around_inj.1 h).symm
  -- Names of two kinds have different ends.
  all_goals
    have hends := congrArg ends h
    simp [ends_jsonName, ends_csvName, ends_reportName, ends_latestJsonName,
      ends_latestReportName] at hends

/-! ## Saving twice -/

/-- The files that carry the time are read as the texts that were written. -/
def ReadsStamped (files : FileStore) (dir : String) (now : DateTime)
    (texts : List (String × String)) : Prop :=
  ∀ f ∈ texts, f.1 ∈ stampedNames now → files.readText (Path.join dir f.1) = .ok f.2

theorem mem_names_of_mem_written {f : String × String}
    (h : f ∈ written results dir format now files) : f.1 ∈ names format now := by
  rw [← map_fst_named results]
  exact List.mem_map_of_mem ((written_isPrefix _ _ _ _ _).subset h)

theorem nodup_written :
    ((written results dir format now files).map Prod.fst).Nodup := by
  have hnodup := nodup_names format now
  rw [← map_fst_named results] at hnodup
  exact hnodup.sublist ((written_isPrefix _ _ _ _ _).sublist.map _)

/-- A save leaves every file that is not under one of its names. -/
theorem exists_name_of_changed {loc : List String} (hs : files.IsSound)
    (h : (save results dir format now files).2 = files')
    (hchanged : files'.tree.fileAt? loc ≠ files.tree.fileAt? loc) :
    ∃ name ∈ names format now, loc = files.place dir ++ [name] := by
  obtain ⟨-, -, hfiles, -⟩ := save_written hs h
  by_contra hnone
  push Not at hnone
  refine hchanged ?_
  rw [hfiles, FileTree.overlay_of_not_mem]
  intro name hname
  obtain ⟨f, hf, rfl⟩ := List.mem_map.1 hname
  exact hnone f.1 (mem_names_of_mem_written hf)

/-- **A text in the directory for results** is still read after a save unless that writes another one
under its name. -/
theorem readText_save_iff (hs : files.IsSound)
    (h : (save results dir format now files).2 = files')
    (hpath : files.resolve path = .ok (files.place dir ++ [name]))
    (hread : files.readText path = .ok text) :
    files'.readText path = .ok text ↔
      ∀ g ∈ written results dir format now files, g.1 = name → g.2 = text := by
  obtain ⟨-, hgrows, hfiles, -⟩ := save_written hs h
  rw [FileStore.readText_eq_ok_iff hpath] at hread
  rw [FileStore.readText_eq_ok_iff (hgrows.resolve hpath), hfiles,
    FileTree.overlay_eq_iff nodup_written hread]

/-- The files of an earlier save are read after a later one unless this writes other texts under
their names. -/
theorem readsStamped_iff (hs : files.IsSound) (hdir : files.place dir' = files.place dir)
    (hfirst : (save results dir format now files).2 = between)
    (hsecond : (save results' dir' format' now' between).2 = files') :
    ReadsStamped files' dir now (written results dir format now files) ↔
      ∀ f ∈ written results dir format now files, f.1 ∈ stampedNames now →
        ∀ g ∈ written results' dir' format' now' between, g.1 = f.1 → g.2 = f.2 := by
  obtain ⟨hs', hgrows, hfiles, hresolve⟩ := save_written hs hfirst
  refine forall₂_congr fun f hf => imp_congr_right fun _ => ?_
  have hpath := hresolve f.1 (List.mem_map_of_mem hf)
  refine readText_save_iff hs' hsecond ?_ ?_
  · rw [hpath, hgrows.place_eq, hdir]
  · rw [FileStore.readText_eq_ok_iff hpath, hfiles]
    exact FileTree.overlay_of_mem nodup_written hf

/-- **A later save** into the same directory leaves the files of an earlier one that carry the time
as they were written, unless both fall into the same second and the later one writes another text
under the name of one of them; whatever it changes stands under its own names. -/
theorem readsStamped_save_iff {t t' : Instant} (hs : files.IsSound)
    (hdir : files.place dir' = files.place dir)
    (hfirst : (save results dir format (.ofInstant t) files).2 = between)
    (hsecond : (save results' dir' format' (.ofInstant t') between).2 = files') :
    (ReadsStamped files' dir (.ofInstant t) (written results dir format (.ofInstant t) files) ↔
      (t.secs = t'.secs →
        ∀ f ∈ written results dir format (.ofInstant t) files, f.1 ∈ stampedNames (.ofInstant t) →
          ∀ g ∈ written results' dir' format' (.ofInstant t') between,
            g.1 = f.1 → g.2 = f.2)) ∧
    ∀ loc, files'.tree.fileAt? loc ≠ between.tree.fileAt? loc →
      ∃ name ∈ names format' (.ofInstant t'), loc = files.place dir ++ [name] := by
  obtain ⟨hs', hgrows, -, -⟩ := save_written hs hfirst
  refine ⟨?_, fun loc hchanged => ?_⟩
  · rw [readsStamped_iff hs hdir hfirst hsecond]
    refine ⟨fun h _ => h, fun h f hf hstamped g hg hsame => h ?_ f hf hstamped g hg hsame⟩
    -- One name in both saves tells one stamp, and that one second.
    have hstamp := stamp_eq_of_mem hstamped (hsame ▸ mem_names_of_mem_written hg)
    rwa [DateTime.stamp_inj (DateTime.isReading_ofInstant t) (DateTime.isReading_ofInstant t'),
      DateTime.ofInstant_inj] at hstamp
  · rw [← hdir, ← hgrows.place_eq]
    exact exists_name_of_changed hs' hsecond hchanged

/-- A case that could not be carried out. -/
def refused (id : String) : CaseResult where
  outcome :=
    { testCase := { id, category := "", name := "", precondition := "", steps := "GET /a"
                    expected := "200 OK", notes := "" }
      actual := "connection error: refused", verdict := .fail
      response := .failed .connection "refused" }
  elapsed := ⟨1, 0⟩
  finishedAt := ⟨0, 0⟩

/-- A second later everything of the first save stands, also where the directory has another path. -/
theorem readsStamped_second_later :
    ReadsStamped
      (save [refused "TC002"] "./out" .both (.ofInstant ⟨1, 0⟩)
        (save [refused "TC001"] "out" .both (.ofInstant ⟨0, 0⟩) ⟨.empty, []⟩).2).2 "out"
      (.ofInstant ⟨0, 0⟩) (written [refused "TC001"] "out" .both (.ofInstant ⟨0, 0⟩) ⟨.empty, []⟩) :=
  (readsStamped_save_iff ⟨.empty, ⟨[], rfl⟩⟩ (by decide +kernel) rfl rfl).1.2
    fun h => absurd h (by decide)

/-- In the second half of the same second the sheet of the first save is lost. -/
theorem save_same_second : ∃ saved between saved' files' path,
    save [refused "TC001"] "out" .csv (.ofInstant ⟨0, 0⟩) ⟨.empty, []⟩ = (.ok saved, between) ∧
    save [refused "TC002"] "out" .csv (.ofInstant ⟨0, 500000000⟩) between = (.ok saved', files') ∧
      saved.csv = some path ∧ between.readText path = .ok (csv [refused "TC001"]) ∧
        files'.readText path ≠ .ok (csv [refused "TC001"]) := by
  obtain ⟨saved, between, hfirst⟩ : ∃ saved between,
      save [refused "TC001"] "out" .csv (.ofInstant ⟨0, 0⟩) ⟨.empty, []⟩ = (.ok saved, between) :=
    exists_of_isOk_save (by decide +kernel)
  obtain ⟨saved', files', hsecond⟩ : ∃ saved' files',
      save [refused "TC002"] "out" .csv (.ofInstant ⟨0, 500000000⟩) between =
        (.ok saved', files') := by
    obtain rfl : (save [refused "TC001"] "out" .csv (.ofInstant ⟨0, 0⟩) ⟨.empty, []⟩).2 = between :=
      congrArg Prod.snd hfirst
    exact exists_of_isOk_save (by decide +kernel)
  have hsound : (⟨.empty, []⟩ : FileStore).IsSound := ⟨.empty, ⟨[], rfl⟩⟩
  have hread := readText_of_save hsound hfirst (csv_mem_named rfl)
  have hread' := readText_of_save (save_ok hsound hfirst).1 hsecond (csv_mem_named rfl)
  have hsame : DateTime.ofInstant ⟨0, 500000000⟩ = DateTime.ofInstant ⟨0, 0⟩ := rfl
  rw [hsame] at hread'
  refine ⟨saved, between, saved', files', _, hfirst, hsecond, ?_, hread, ?_⟩
  · rw [saved_of_save hfirst]
    rfl
  · rw [hread']
    intro h
    exact absurd (String.ofList_injective (Except.ok.inj h)) (by decide +kernel)

end Report
end CaseSheet

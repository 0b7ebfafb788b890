import CaseSheet.Discovery
import CaseSheet.Proofs.Files.Parent
import CaseSheet.Proofs.Saved
import Mathlib.Data.List.Sort
/-!
# What a search finds

The case files below a directory are told by the files that stand there: those whose names the
configuration takes. So a search after a save finds what the search before it has found, unless one
of the names of the exports, in the directory for results, is taken too.

* `FileTree.mem_caseFiles_iff`: which files are found.
* `FileTree.caseFiles_eq_iff`: trees in which the same files are found.
* `discoverCases_save_eq_iff`: a search after a save.
-/
namespace CaseSheet

namespace Config

variable {c : Config} {name dir : String} {names : List String}

/-- A file is taken as a case file, by its names from the start of the search down. -/
structure Takes (c : Config) (names : List String) : Prop where
  fits : ∃ name, names.getLast? = some name ∧ c.isCaseFile name = true
  kept : ∀ n ∈ names, c.excludes n = false
  depth : c.recursive = true ∨ names.length = 1

theorem not_takes_nil (c : Config) : ¬ c.Takes [] := by
  rintro ⟨⟨name, hlast, -⟩, -, -⟩
  cases hlast

/-- A file in the directory itself, or one further down. -/
theorem takes_cons_iff : c.Takes (name :: names) ↔ c.excludes name = false ∧
    (names = [] ∧ c.isCaseFile name = true ∨ c.recursive = true ∧ c.Takes names) := by
  cases names with
  | nil =>
    constructor
    · rintro ⟨⟨n, hlast, hfits⟩, hkept, -⟩
      cases hlast
      exact ⟨hkept name (by simp), .inl ⟨rfl, hfits⟩⟩
    · rintro ⟨hkept, ⟨-, hfits⟩ | ⟨-, htakes⟩⟩
      · exact ⟨⟨name, rfl, hfits⟩, by simpa using hkept, .inr rfl⟩
      · exact absurd htakes (not_takes_nil c)
  | cons n ns =>
    have hlast : (name :: n :: ns).getLast? = (n :: ns).getLast? := List.getLast?_cons_cons
    constructor
    · rintro ⟨hfits, hkept, hdepth⟩
      rw [hlast] at hfits
      have hrec : c.recursive = true := hdepth.resolve_right (by simp)
      obtain ⟨hname, hkept⟩ := List.forall_mem_cons.1 hkept
      exact ⟨hname, .inr ⟨hrec, hfits, hkept, .inl hrec⟩⟩
    · rintro ⟨hname, ⟨hnil, -⟩ | ⟨hrec, hfits, hkept, -⟩⟩
      · cases hnil
      · exact ⟨hlast ▸ hfits, List.forall_mem_cons.2 ⟨hname, hkept⟩, .inl hrec⟩

/-! ## The directory for results -/

theorem excludes_of_name? {name : List Char} (hdir : c.resultsDir = some dir)
    (hname : Path.name? dir = some name) : c.excludes (String.ofList name) = true := by
  simp [excludes, excludedNames, hdir, hname]

/-- A configured directory for results ends in its own steps, whatever it is seen from. -/
theorem steps_resultsDirFor (hdir : c.resultsDir = some dir) (f : String)
    (configDir : Option String) :
    ∃ ps, Path.steps (c.resultsDirFor f configDir).toList = ps ++ Path.steps dir.toList := by
  cases configDir with
  | none =>
    simp only [resultsDirFor, hdir]
    exact ⟨[], rfl⟩
  | some base =>
    simp only [resultsDirFor, hdir]
    exact Path.steps_join base dir

/-- The directory for results is passed over by its name: a configured one if it ends in a name, the
usual one if that is excluded. -/
def PassesResults (c : Config) : Prop :=
  match c.resultsDir with
  | some dir => ∃ name, Path.name? dir = some name
  | none => c.excludes "test_results" = true

theorem PassesResults.excludes (h : c.PassesResults) (files : FileStore) (f : String)
    (configDir : Option String) :
    ∃ loc name, files.place (c.resultsDirFor f configDir) = loc ++ [name] ∧
      c.excludes name = true := by
  rw [PassesResults] at h
  split at h
  · next dir hdir =>
    obtain ⟨name, hname⟩ := h
    obtain ⟨⟨ps, hps⟩, hidle, hup⟩ := Path.steps_of_name? hname
    obtain ⟨qs, hqs⟩ := steps_resultsDirFor hdir f configDir
    have hplace : files.place (c.resultsDirFor f configDir) =
        Path.follow (files.origin (c.resultsDirFor f configDir)) (qs ++ ps) ++
          [String.ofList name] := by
      rw [FileStore.place_eq_follow_steps, hqs, hps, ← List.append_assoc, Path.follow_append,
        Path.follow_cons, Path.follow_nil, Path.followPiece_of_name hidle hup]
    exact ⟨_, _, hplace, excludes_of_name? hdir hname⟩
  · next hdir =>
    have hname : Path.IsName "test_results" := by decide +kernel
    have hresults : c.resultsDirFor f configDir =
        Path.join ((Path.parent? f).getD ".") "test_results" := by
      simp only [resultsDirFor, hdir]
    exact ⟨_, _, hresults ▸ files.place_join _ hname, h⟩

end Config

namespace FileTree

variable {c : Config} {t t' : FileTree} {above names : List String}

/-- What is found at an entry of a directory and below it. -/
def caseFilesAt (c : Config) (above : List String) (e : String × FileTree) : List (List String) :=
  if c.excludes e.1 then []
  else
    (if e.2.isFile && c.isCaseFile e.1 then [above ++ [e.1]] else []) ++
      (if c.recursive then caseFiles c (above ++ [e.1]) e.2 else [])

theorem caseFiles_directory (c : Config) (above : List String)
    (entries : List (String × FileTree)) :
    (directory entries).caseFiles c above = entries.flatMap (caseFilesAt c above) := by
  rw [caseFiles]
  induction entries with
  | nil => rw [caseFilesAmong]; rfl
  | cons e entries ih => rw [caseFilesAmong, ih, List.flatMap_cons]; rfl

theorem isSome_fileAt?_nil : (t.fileAt? []).isSome = t.isFile := by cases t <;> rfl

/-- A file in an entry is found at it, and what stands inside of it is found below. -/
theorem mem_caseFilesAt_iff {e : String × FileTree}
    (hbelow : ∀ {above names}, names ∈ e.2.caseFiles c above ↔
      ∃ below, names = above ++ below ∧ (e.2.fileAt? below).isSome ∧ c.Takes below) :
    names ∈ caseFilesAt c above e ↔ ∃ below, names = above ++ e.1 :: below ∧
      (e.2.fileAt? below).isSome ∧ c.Takes (e.1 :: below) := by
  simp only [Config.takes_cons_iff]
  rw [caseFilesAt]
  split
  · next hex => simp [hex]
  · next hex =>
    simp only [List.mem_append, List.mem_ite_nil_right, List.mem_singleton, hbelow,
      Bool.and_eq_true, Bool.not_eq_true _ ▸ hex, true_and]
    constructor
    · rintro (⟨⟨hfile, hfits⟩, rfl⟩ | ⟨hrec, below, rfl, hfile, htakes⟩)
      · exact ⟨[], rfl, isSome_fileAt?_nil ▸ hfile, .inl ⟨rfl, hfits⟩⟩
      · exact ⟨below, (List.append_cons _ _ _).symm, hfile, .inr ⟨hrec, htakes⟩⟩
    · rintro ⟨below, rfl, hfile, ⟨rfl, hfits⟩ | ⟨hrec, htakes⟩⟩
      · exact .inl ⟨⟨isSome_fileAt?_nil ▸ hfile, hfits⟩, rfl⟩
      · exact .inr ⟨hrec, below, List.append_cons _ _ _, hfile, htakes⟩

/-- **The case files of a tree** are the files in it that the configuration takes. -/
theorem mem_caseFiles_iff (ht : t.WellFormed) : names ∈ t.caseFiles c above ↔
    ∃ below, names = above ++ below ∧ (t.fileAt? below).isSome ∧ c.Takes below := by
  induction ht generalizing above names with
  | file text =>
    refine iff_of_false (by rw [caseFiles]; exact List.not_mem_nil) ?_
    rintro ⟨below, -, hfile, htakes⟩
    cases below with
    | nil => exact c.not_takes_nil htakes
    | cons n ns => cases hfile
  | @directory entries order names' each ih =>
    rw [caseFiles_directory, List.mem_flatMap]
    constructor
    · rintro ⟨e, he, h⟩
      obtain ⟨below, hnames, hfile, htakes⟩ := (mem_caseFilesAt_iff fun {_ _} => ih e he).1 h
      refine ⟨e.1 :: below, hnames, ?_, htakes⟩
      have hchild : (directory entries).child? e.1 = some e.2 :=
        (Fields.get?_eq_some_iff order).2 he
      rwa [fileAt?_cons, hchild]
    · rintro ⟨below, hnames, hfile, htakes⟩
      cases below with
      | nil => exact absurd htakes c.not_takes_nil
      | cons n ns =>
        rw [fileAt?_cons] at hfile
        cases hchild : (directory entries).child? n with
        | none => rw [hchild] at hfile; cases hfile
        | some u =>
          rw [hchild] at hfile
          have he : (n, u) ∈ entries := Fields.mem_of_get?_eq_some hchild
          exact ⟨(n, u), he, (mem_caseFilesAt_iff fun {_ _} => ih _ he).2
            ⟨ns, hnames, hfile, htakes⟩⟩

/-- They are found in the order of their names, none of them twice. -/
theorem pairwise_caseFiles (ht : t.WellFormed) : (t.caseFiles c above).Pairwise (· < ·) := by
  induction ht generalizing above with
  | file text => rw [caseFiles]; exact .nil
  | @directory entries order names' each ih =>
    rw [caseFiles_directory, List.pairwise_flatMap]
    constructor
    · intro e he
      rw [caseFilesAt]
      split
      · exact .nil
      · cases hfile : e.2 with
        | file text =>
          rw [caseFiles, ite_self, List.append_nil]
          split
          exacts [List.pairwise_singleton _ _, .nil]
        | directory inner =>
          rw [isFile, Bool.false_and, if_neg Bool.false_ne_true, List.nil_append]
          split
          exacts [hfile ▸ ih e he, .nil]
    · refine order.imp_of_mem fun {e e'} he he' hlt x hx y hy => ?_
      obtain ⟨p, rfl, -⟩ := (mem_caseFilesAt_iff (mem_caseFiles_iff (each e he))).1 hx
      obtain ⟨q, rfl, -⟩ := (mem_caseFilesAt_iff (mem_caseFiles_iff (each e' he'))).1 hy
      exact List.append_left_lt (List.cons_lt_cons_iff.2 (.inl hlt))

/-- The same case files are found where the same files are taken. -/
theorem caseFiles_eq (ht : t.WellFormed) (ht' : t'.WellFormed)
    (h : ∀ p, c.Takes p → ((t'.fileAt? p).isSome ↔ (t.fileAt? p).isSome)) :
    t'.caseFiles c above = t.caseFiles c above := by
  refine (pairwise_caseFiles ht').eq_of_mem_iff (pairwise_caseFiles ht) fun names => ?_
  rw [mem_caseFiles_iff ht', mem_caseFiles_iff ht]
  refine exists_congr fun p => and_congr_right fun _ => ?_
  constructor
  · rintro ⟨hfile, htakes⟩; exact ⟨(h p htakes).1 hfile, htakes⟩
  · rintro ⟨hfile, htakes⟩; exact ⟨(h p htakes).2 hfile, htakes⟩

/-- Where no more case files are found, a file that is taken has been there. -/
theorem isSome_fileAt?_of_length (ht : t.WellFormed) (ht' : t'.WellFormed)
    (hkeeps : ∀ p, (t.fileAt? p).isSome → (t'.fileAt? p).isSome)
    (hlength : (t'.caseFiles c []).length ≤ (t.caseFiles c []).length) {p : List String}
    (htakes : c.Takes p) (hfile : (t'.fileAt? p).isSome) : (t.fileAt? p).isSome := by
  have hsub : t.caseFiles c [] ⊆ t'.caseFiles c [] := by
    intro names hnames
    obtain ⟨q, hq, hfile, htakes⟩ := (mem_caseFiles_iff ht).1 hnames
    exact (mem_caseFiles_iff ht').2 ⟨q, hq, hkeeps q hfile, htakes⟩
  have hnodup : (t.caseFiles c []).Nodup := (pairwise_caseFiles ht).nodup
  have hperm := (List.subperm_of_subset hnodup hsub).perm_of_length_le hlength
  have hmem := hperm.mem_iff.2 ((mem_caseFiles_iff ht').2 ⟨p, rfl, hfile, htakes⟩)
  obtain ⟨q, hq, hfile, -⟩ := (mem_caseFiles_iff ht).1 hmem
  rw [List.nil_append] at hq
  rwa [hq]

end FileTree

/-! ## Searches -/

section

variable {c : Config} {files files' : FileStore} {root dir f : String} {configDir : Option String}
  {entries : List (String × FileTree)} {results : List CaseResult} {format : Report.ExportFormat}
  {now : DateTime} {saved : Report.Saved}

theorem discoverCases_of_find (h : files.find root = .ok (.directory entries)) :
    discoverCases files root c =
      .ok (Path.sort (((FileTree.directory entries).caseFiles c []).map fun names =>
        names.foldl Path.join root)) := by
  rw [discoverCases, h]

/-- **Searches with the same result**, where files have been added: none of these is taken. -/
theorem discoverCases_eq_iff (hs : files.IsSound) (hs' : files'.IsSound)
    (hgrows : files.Grows files') (hroot : files.find root = .ok (.directory entries)) :
    discoverCases files' root c = discoverCases files root c ↔
      ∀ p, c.Takes p → (files'.tree.fileAt? (files.place root ++ p)).isSome →
        (files.tree.fileAt? (files.place root ++ p)).isSome := by
  obtain ⟨hresolve, hat⟩ := FileStore.find_eq_ok_iff.1 hroot
  obtain ⟨entries', hat'⟩ := hgrows.keeps.dirs _ ⟨entries, hat⟩
  have hroot' : files'.find root = .ok (.directory entries') := by
    rw [FileStore.find_eq_ok_iff, hgrows.place_eq]
    exact ⟨hgrows.resolve hresolve, hat'⟩
  have ht := (hs.wellFormed.at? hat).2
  have ht' := (hs'.wellFormed.at? hat').2
  rw [discoverCases_of_find hroot, discoverCases_of_find hroot']
  simp only [← FileTree.fileAt?_of_at? hat, ← FileTree.fileAt?_of_at? hat']
  have hkeeps : ∀ p, ((FileTree.directory entries).fileAt? p).isSome →
      ((FileTree.directory entries').fileAt? p).isSome := fun p => by
    rw [FileTree.fileAt?_of_at? hat, FileTree.fileAt?_of_at? hat']
    exact hgrows.keeps.files _
  constructor
  · intro heq p htakes
    have hlength := congrArg List.length (Except.ok.inj heq)
    simp only [Path.sort, List.length_mergeSort, List.length_map] at hlength
    exact FileTree.isSome_fileAt?_of_length ht ht' hkeeps hlength.le htakes
  · intro h
    rw [FileTree.caseFiles_eq ht ht' fun p htakes => ⟨h p htakes, hkeeps p⟩]

/-- A search after a save finds what the one before it has found, unless a new export stands where
one is taken. -/
theorem discoverCases_save (hs : files.IsSound)
    (hroot : files.find root = .ok (.directory entries))
    (hsave : Report.save results dir format now files = (.ok saved, files')) :
    discoverCases files' root c = discoverCases files root c ↔
      ∀ name ∈ Report.names format now, ∀ p, files.place dir ++ [name] = files.place root ++ p →
        c.Takes p → (files.tree.fileAt? (files.place dir ++ [name])).isSome := by
  obtain ⟨hs', hgrows, hfiles, -⟩ := Report.save_ok hs hsave
  rw [discoverCases_eq_iff hs hs' hgrows hroot]
  simp only [hfiles, FileTree.isSome_overlay_iff, Report.map_fst_named]
  constructor
  · intro h name hname p hp htakes
    rw [hp]
    exact h p htakes (.inr ⟨name, hname, hp.symm⟩)
  · rintro h p htakes (hfile | ⟨name, hname, hp⟩)
    · exact hfile
    · rw [hp]
      exact h name hname p hp.symm htakes

/-- **Exports do not become cases**, for a search that starts neither in the directory for results
nor below it, if the name of that directory is passed over; and if it is not, as long as no new
export stands where a case file is taken. -/
theorem discoverCases_save_eq_iff (hs : files.IsSound)
    (hroot : files.find root = .ok (.directory entries))
    (hout : ¬ files.place (c.resultsDirFor f configDir) <+: files.place root)
    (hsave : Report.save results (c.resultsDirFor f configDir) format now files =
      (.ok saved, files')) :
    discoverCases files' root c = discoverCases files root c ↔
      c.PassesResults ∨ ∀ name ∈ Report.names format now, ∀ p,
        files.place (c.resultsDirFor f configDir) ++ [name] = files.place root ++ p →
          c.Takes p →
            (files.tree.fileAt? (files.place (c.resultsDirFor f configDir) ++ [name])).isSome := by
  rw [discoverCases_save hs hroot hsave, iff_or_self]
  intro hpasses name hname p hp htakes
  obtain ⟨loc, last, hplace, hexcludes⟩ := hpasses.excludes files f configDir
  -- The name of the directory for results stands on the way from the start of the search.
  have hlast : last ∈ p := by
    rcases List.append_eq_append_iff.1 hp with ⟨q, hq, -⟩ | ⟨q, hq, rfl⟩
    · exact absurd ⟨q, hq.symm⟩ hout
    · rcases List.eq_nil_or_concat' q with rfl | ⟨q, l, rfl⟩
      · rw [List.append_nil] at hq
        exact absurd (hq ▸ List.prefix_refl _) hout
      · rw [hplace, ← List.append_assoc] at hq
        obtain rfl : last = l := by simpa using (List.append_inj' hq rfl).2
        simp
  rw [htakes.kept last hlast] at hexcludes
  cases hexcludes

/-- The result of a case whose request was answered. -/
def answeredResult : CaseResult where
  outcome :=
    { testCase := { id := "TC001", category := "", name := "list", precondition := ""
                    steps := "GET /api/items", expected := "200 OK", notes := "" }
      actual := "200 OK", verdict := .pass
      response := .answered
        { status := 200, data := .array [], headers := [], url := "http://localhost:3000/api/items"
          method := "GET" } }
  elapsed := ⟨0, 5000000⟩
  finishedAt := ⟨0, 0⟩

/-- A sheet at the root. -/
def sheetFolder : FileStore := ⟨.directory [("cases.csv", .file (some ""))], []⟩

theorem isSound_sheetFolder : sheetFolder.IsSound where
  wellFormed := by
    refine .directory (List.pairwise_singleton _ _) ?_ ?_ <;> rw [List.forall_mem_singleton]
    · decide +kernel
    · exact .file _
  workingDir := ⟨_, rfl⟩

theorem resultsDirFor_sheetFolder (h : c.resultsDir = none) :
    c.resultsDirFor "./cases.csv" none = "./test_results" := by
  have hparent : Path.parent? "./cases.csv" = some "." := by decide +kernel
  simp only [Config.resultsDirFor, h, hparent]
  decide +kernel

theorem save_sheetFolder (h : c.resultsDir = none) : ∃ saved files',
    Report.save [answeredResult] (c.resultsDirFor "./cases.csv" none) .both ⟨2025, 1, 1, 9, 0, 0⟩
      sheetFolder = (.ok saved, files') := by
  rw [resultsDirFor_sheetFolder h]
  exact Report.exists_of_isOk_save (by decide +kernel)

theorem not_prefix_sheetFolder (h : c.resultsDir = none) :
    ¬ sheetFolder.place (c.resultsDirFor "./cases.csv" none) <+: sheetFolder.place "." := by
  rw [resultsDirFor_sheetFolder h]
  decide +kernel

/-- With the usual configuration a search finds the same before a run and after it. -/
theorem discoverCases_save_usual : ∃ saved files',
    Report.save [answeredResult] (Config.resultsDirFor {} "./cases.csv" none) .both
      ⟨2025, 1, 1, 9, 0, 0⟩ sheetFolder = (.ok saved, files') ∧
    discoverCases files' "." {} = discoverCases sheetFolder "." {} := by
  obtain ⟨saved, files', hsave⟩ := save_sheetFolder (c := {}) rfl
  have hpasses : Config.PassesResults {} := by
    change Config.excludes {} "test_results" = true
    decide +kernel
  exact ⟨saved, files', hsave, (discoverCases_save_eq_iff isSound_sheetFolder rfl
    (not_prefix_sheetFolder rfl) hsave).2 (.inl hpasses)⟩

/-- Where no name is passed over, the exported sheet is found as a case file. -/
theorem export_becomes_case : ∃ c found saved files',
    discoverCases sheetFolder "." c = .ok found ∧ "./cases.csv" ∈ found ∧
    ¬ sheetFolder.place (c.resultsDirFor "./cases.csv" none) <+: sheetFolder.place "." ∧
    Report.save [answeredResult] (c.resultsDirFor "./cases.csv" none) .both ⟨2025, 1, 1, 9, 0, 0⟩
      sheetFolder = (.ok saved, files') ∧
    discoverCases files' "." c ≠ discoverCases sheetFolder "." c := by
  obtain ⟨saved, files', hsave⟩ := save_sheetFolder (c := { exclude := [] }) rfl
  have hfound : discoverCases sheetFolder "." { exclude := [] } = .ok ["./cases.csv"] := by
    rw [discoverCases_of_find rfl]
    exact congrArg Except.ok (by decide +kernel)
  refine ⟨{ exclude := [] }, _, saved, files', hfound, by simp, not_prefix_sheetFolder rfl, hsave,
    fun heq => ?_⟩
  rw [discoverCases_save isSound_sheetFolder rfl hsave, resultsDirFor_sheetFolder rfl] at heq
  have hthere := heq "test_results_20250101_090000.csv" (by decide +kernel)
    ["test_results", "test_results_20250101_090000.csv"] (by decide +kernel)
    ⟨⟨_, rfl, by decide +kernel⟩, by decide +kernel, .inl rfl⟩
  revert hthere
  decide +kernel

end

end CaseSheet

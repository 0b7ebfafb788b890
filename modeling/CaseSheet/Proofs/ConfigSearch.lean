import CaseSheet.Command.Target
import CaseSheet.Proofs.Files.Parent
import Mathlib.Data.List.Infix
/-!
# The configuration of a case file

In a directory the configuration of the nearest file upward holds. For a case file that is the one
that holds in its directory, however its path is spelled, as long as the path has a slash in it: the
directory around a bare name is the empty path, which leads nowhere, and no configuration is found.

* `Config.discover?_eq_heldIn`: what is found from a path that leads to a place.
* `Command.chooseConfig_eq_dueConfig_iff`: the configuration of a case file.
-/
namespace CaseSheet

namespace Path

variable {loc : List String}

/-- The text of a place has its names as steps. -/
theorem steps_pathOfPlace (h : ∀ n ∈ loc, IsName n) :
    steps (Config.pathOfPlace loc).toList = loc.map String.toList := by
  have hslash : ∀ p ∈ loc.map String.toList, '/' ∉ p :=
    List.forall_mem_map.2 fun n hn => (h n hn).no_slash
  rw [Config.pathOfPlace, String.toList_append, String.toList_intercalate]
  change steps ('/' :: List.intercalate ['/'] (loc.map String.toList)) = _
  rw [← Text.joinWith_eq_intercalate, steps_cons_slash, steps_joinWith hslash,
    List.filter_eq_self.2 (List.forall_mem_map.2 fun n hn => by simp [(h n hn).not_idle])]

end Path

namespace FileTree

variable {t : FileTree} {loc names : List String}

/-- Names lead to what stands under them. -/
theorem walk_names (h : ∀ n ∈ names, Path.IsName n) (hthere : (t.at? (loc ++ names)).isSome) :
    t.walk loc (names.map String.toList) = .ok (loc ++ names) := by
  induction names generalizing loc with
  | nil => rw [List.append_nil]; rfl
  | cons n ns ih =>
    obtain ⟨hn, hns⟩ := List.forall_mem_cons.1 h
    have hdir : t.IsDirAt loc := .of_isSome_at? hthere (by simp)
    rw [List.append_cons] at hthere ⊢
    rw [List.map_cons, walk_cons_eq_ok_iff, hn.followPiece, String.ofList_toList]
    refine ⟨hdir, fun _ _ => ?_, ih hns hthere⟩
    rw [at?_append] at hthere
    exact Option.isSome_of_isSome_bind hthere

end FileTree

namespace Config

variable {files : FileStore} {t : FileTree} {loc dir : List String}

/-- The configuration in the file of a directory. -/
def inDir? (t : FileTree) (dir : List String) : Option Config := do
  let text ← (t.fileAt? (dir ++ [fileName])).join
  let v ← (Yaml.readDocument? text.toList).bind Yaml.Document.value?
  (ofValue v).toOption

/-- The configuration that holds in a directory, with the directory of its file: that of the nearest
directory upward with a configuration file. The defaults hold if there is none, or if its file does
not load. -/
def heldIn (t : FileTree) (loc : List String) : Config × Option String :=
  match loc.inits.reverse.find? fun dir => (t.at? (dir ++ [fileName])).isSome with
  | some dir => ((inDir? t dir).map fun c => (c, some (pathOfPlace dir))).getD ({}, none)
  | none => ({}, none)

theorem nearestDir?_eq (t : FileTree) (loc : List String) :
    nearestDir? t loc.reverse =
      loc.inits.reverse.find? fun dir => (t.at? (dir ++ [fileName])).isSome := by
  induction loc using List.reverseRecOn with
  | nil =>
    rw [List.reverse_nil, nearestDir?, List.inits, List.reverse_singleton, List.find?_singleton]
    rfl
  | append_singleton dir n ih =>
    have hinits : (dir ++ [n]).inits.reverse = (dir ++ [n]) :: dir.inits.reverse := by simp
    rw [List.reverse_concat, nearestDir?, ih, ← List.reverse_concat, List.reverse_reverse, hinits,
      List.find?_cons]
    cases (t.at? (dir ++ [n] ++ [fileName])).isSome <;> rfl

theorem isName_fileName : Path.IsName fileName := by decide +kernel

/-- The path that is made for the file of a directory leads to what stands there. -/
theorem find_file (hs : files.IsSound) {u : FileTree}
    (h : files.tree.at? (dir ++ [fileName]) = some u) :
    files.find (Path.join (pathOfPlace dir) fileName) = .ok u := by
  have hnames := List.forall_mem_append.1 (hs.wellFormed.at? h).1
  have hsome : (files.tree.at? (dir ++ [fileName])).isSome := by rw [h]; rfl
  have hdir : files.tree.IsDirAt dir := .of_isSome_at? hsome (by simp)
  have horigin : files.origin (pathOfPlace dir) = [] := by
    rw [FileStore.origin, pathOfPlace, Path.isAbsolute, String.toList_append]
    rfl
  have hwalk : files.tree.walk [] (dir.map String.toList) = .ok ([] ++ dir) :=
    FileTree.walk_names hnames.1 hdir.isSome_at?
  have hplace : files.place (pathOfPlace dir) = dir := by
    rw [FileStore.place_eq_follow_steps, horigin, Path.steps_pathOfPlace hnames.1]
    exact (FileTree.eq_follow_of_walk hwalk).symm
  obtain ⟨ps, hps, hsteps⟩ := Path.pieces_join_name (pathOfPlace dir) isName_fileName
  have hreach : files.tree.walk (files.origin (Path.join (pathOfPlace dir) fileName)) ps =
      .ok dir := by
    rw [files.origin_join _ isName_fileName, horigin, ← FileTree.walk_steps_iff hdir, hsteps,
      Path.steps_pathOfPlace hnames.1]
    exact hwalk
  have hresolve := FileStore.resolve_concat hps isName_fileName.not_idle isName_fileName.not_up
    hreach (by rwa [String.ofList_toList])
  rw [String.ofList_toList] at hresolve
  rw [FileStore.find_eq_ok_iff, files.place_join _ isName_fileName, hplace]
  exact ⟨hresolve, h⟩

/-- What is read there is the configuration of the directory. -/
theorem toOption_load (hs : files.IsSound) (h : (files.tree.at? (dir ++ [fileName])).isSome) :
    (load files (Path.join (pathOfPlace dir) fileName)).toOption = inDir? files.tree dir := by
  obtain ⟨u, hu⟩ := Option.isSome_iff_exists.1 h
  rw [load, FileStore.readText, find_file hs hu, inDir?, FileTree.fileAt?, hu]
  cases u with
  | directory entries => rfl
  | file text =>
    cases text with
    | none => rfl
    | some text =>
      simp only [Option.join_some, bind, Option.bind_some]
      cases (Yaml.readDocument? text.toList).bind Yaml.Document.value? with
      | none => rfl
      | some v =>
        dsimp only [Option.bind_some]
        cases ofValue v <;> rfl

/-- **The configuration found upward from a path** is the one that holds where it leads. -/
theorem discover?_eq_heldIn (hs : files.IsSound) {start : String}
    (h : files.resolve start = .ok loc) :
    ((discover? files start).map fun found => (found.1, some found.2)).getD ({}, none) =
      heldIn files.tree loc := by
  have hloc : (Except.ok loc : Except FileProblem (List String)).toOption = some loc := rfl
  rw [discover?, h, heldIn, ← nearestDir?_eq]
  simp only [hloc, bind, Option.bind_some]
  cases hdir : nearestDir? files.tree loc.reverse with
  | none => rfl
  | some dir =>
    have hthere : (files.tree.at? (dir ++ [fileName])).isSome := by
      rw [nearestDir?_eq] at hdir
      simpa using List.find?_some hdir
    rw [Option.bind_some, toOption_load hs hthere]
    dsimp only
    cases inDir? files.tree dir <;> rfl

end Config

namespace Command

variable {files : FileStore} {path : String}

/-- The configuration that a case file should have: the one that holds in its directory. -/
def dueConfig (files : FileStore) (path : String) : Config × Option String × String :=
  let (c, dir) := Config.heldIn files.tree (files.place path).dropLast
  (c, dir, "")

/-- A path with a slash gives a case file the configuration that holds in its directory, a bare name
gives it the defaults. -/
theorem chooseConfig_of_isFile (hs : files.IsSound) (hfile : files.isFile path = true) :
    chooseConfig files path none =
      if '/' ∈ path.toList then dueConfig files path else ({}, none, "") := by
  obtain ⟨text, hfind⟩ := FileStore.isFile_iff.1 hfile
  obtain ⟨dir, hparent, hresolve, hbare⟩ := FileStore.resolve_parent? hfind
  have hstart : searchStart files path = dir := by
    rw [searchStart, if_pos hfile, hparent]
    rfl
  have hchoose : chooseConfig files path none =
      (fun found : Config × Option String => (found.1, found.2, ""))
        (((Config.discover? files dir).map fun found => (found.1, some found.2)).getD
          ({}, none)) := by
    rw [chooseConfig, hstart]
    cases Config.discover? files dir <;> rfl
  rw [hchoose]
  split
  · next hslash => rw [Config.discover?_eq_heldIn hs (hresolve hslash)]; rfl
  · next hslash => rw [hbare hslash]; rfl

/-- **The configuration of a case file** is the one that holds in its directory, for every spelling
of its path with a slash in it. For a bare name that is so only where the defaults hold. -/
theorem chooseConfig_eq_dueConfig_iff (hs : files.IsSound) (hfile : files.isFile path = true) :
    chooseConfig files path none = dueConfig files path ↔
      '/' ∈ path.toList ∨ dueConfig files path = ({}, none, "") := by
  rw [chooseConfig_of_isFile hs hfile]
  split
  · next hslash => exact iff_of_true rfl (.inl hslash)
  · next hslash => rw [or_iff_right hslash, eq_comm]

/-- A directory with a case file and a configuration file; paths start in it. -/
def caseFolder : FileStore where
  tree := .directory [("qa", .directory
    [(Config.fileName, .file (some "default_endpoint: /custom\n")),
      ("cases.csv", .file (some ""))])]
  workingDir := ["qa"]

theorem isSound_caseFolder : caseFolder.IsSound where
  wellFormed := by
    refine .directory (List.pairwise_singleton _ _) ?_ ?_ <;> rw [List.forall_mem_singleton]
    · decide +kernel
    · refine .directory (List.pairwise_pair.2 (by decide +kernel)) ?_ ?_ <;>
        rw [List.forall_mem_cons, List.forall_mem_singleton]
      · exact ⟨Config.isName_fileName, by decide +kernel⟩
      · exact ⟨.file _, .file _⟩
  workingDir := ⟨_, rfl⟩

/-- The file by a path with a slash. -/
theorem chooseConfig_dot_slash :
    caseFolder.isFile "./cases.csv" = true ∧
      chooseConfig caseFolder "./cases.csv" none =
        ({ defaultEndpoint := "/custom" }, some "/qa", "") := by
  have hfile : caseFolder.isFile "./cases.csv" = true := by decide +kernel
  have hdue : dueConfig caseFolder "./cases.csv" =
      ({ defaultEndpoint := "/custom" }, some "/qa", "") := by decide +kernel
  refine ⟨hfile, ?_⟩
  rw [(chooseConfig_eq_dueConfig_iff isSound_caseFolder hfile).2 (.inl (by decide +kernel)), hdue]

/-- The same file by its bare name: the configuration beside it is not found. -/
theorem chooseConfig_bare_name :
    caseFolder.IsSound ∧ caseFolder.isFile "cases.csv" = true ∧
      caseFolder.place "cases.csv" = ["qa", "cases.csv"] ∧
      chooseConfig caseFolder "cases.csv" none = ({}, none, "") ∧
      dueConfig caseFolder "cases.csv" = ({ defaultEndpoint := "/custom" }, some "/qa", "") :=
  ⟨isSound_caseFolder, by decide +kernel, by decide +kernel, by decide +kernel, by decide +kernel⟩

end Command
end CaseSheet

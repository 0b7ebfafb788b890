import CaseSheet.Proofs.Discovery
import CaseSheet.Proofs.Pieces
/-!
# Searches are exact

A search finds the files below its root that the configuration asks for, all of them and no others,
each once and in the order of the names that lead to it. What is asked for goes by names below the
root alone.

* `Pattern.mem_expand_iff`: what a pattern with braces stands for.
* `Path.parts_foldl_join`: the parts of a path that has been found.
* `Config.takes_iff`: which files are taken.
* `discoverCases_of_directory`: what a search finds.
-/
namespace CaseSheet

/-! ## Alternatives -/

namespace Pattern

/-- No brace opens a group, or none closes it. -/
def IsPlain (cs : List Char) : Prop :=
  ∀ before behind, cs = before ++ '\x7b' :: behind → '\x7b' ∉ before → '\x7d' ∉ behind

/-- What a pattern with braces stands for: its first group, which ends at the next closing brace,
gives way to one of the alternatives in it, and then the groups in what results. -/
inductive Expands : List Char → List Char → Prop where
  | plain {cs : List Char} (h : IsPlain cs) : Expands cs cs
  | group {before inside after alternative p : List Char} (hbefore : '\x7b' ∉ before)
      (hinside : '\x7d' ∉ inside) (hmem : alternative ∈ inside.splitOn ',')
      (h : Expands (before ++ alternative ++ after) p) :
      Expands (before ++ '\x7b' :: (inside ++ '\x7d' :: after)) p

variable {c : Char} {cs before inside after p : List Char}

theorem cutAt?_append (h : c ∉ before) : cutAt? c (before ++ c :: after) = some (before, after) := by
  have hall : ∀ d ∈ before, (d != c) = true := by
    intro d hd
    rw [bne_iff_ne]
    rintro rfl
    exact h hd
  rw [cutAt?, List.dropWhile_append_of_pos hall, List.takeWhile_append_of_pos hall]
  simp

theorem cutAt?_eq_none_iff : cutAt? c cs = none ↔ c ∉ cs := by
  constructor
  · intro h hmem
    obtain ⟨before, after, rfl, hbefore⟩ := List.eq_append_cons_of_mem hmem
    rw [cutAt?_append hbefore] at h
    cases h
  · intro h
    cases hcut : cutAt? c cs with
    | none => rfl
    | some parts =>
      rw [eq_of_cutAt? hcut] at h
      exact absurd (by simp) h

theorem not_mem_of_cutAt? (h : cutAt? c cs = some (before, after)) : c ∉ before := by
  unfold cutAt? at h
  split at h
  · obtain ⟨rfl, -⟩ := by simpa using h
    intro hmem
    simpa using List.mem_takeWhile_imp hmem
  · cases h

theorem expand_plain (h : IsPlain cs) : expand cs = [cs] := by
  rw [expand]
  split
  · rfl
  · next before behind hopen =>
    have hbehind := h before behind (eq_of_cutAt? hopen) (not_mem_of_cutAt? hopen)
    split
    · rfl
    · next inside after hclose =>
      rw [eq_of_cutAt? hclose] at hbehind
      exact absurd (by simp) hbehind

theorem expand_group (hbefore : '\x7b' ∉ before) (hinside : '\x7d' ∉ inside) :
    expand (before ++ '\x7b' :: (inside ++ '\x7d' :: after)) =
      (Text.splitAll ',' inside).flatMap fun alternative =>
        expand (before ++ alternative ++ after) := by
  rw [expand]
  split
  · next hopen => rw [cutAt?_append hbefore] at hopen; cases hopen
  · next hopen =>
    rw [cutAt?_append hbefore] at hopen
    cases hopen
    split
    · next hclose => rw [cutAt?_append hinside] at hclose; cases hclose
    · next hclose =>
      rw [cutAt?_append hinside] at hclose
      cases hclose
      simp

/-- **Braces are expanded** to what a pattern with them stands for. -/
theorem mem_expand_iff : p ∈ expand cs ↔ Expands cs p := by
  constructor
  · intro h
    induction cs using expand.induct with
    | case1 cs hopen =>
      have hplain : IsPlain cs := by
        rintro before behind rfl hbefore
        rw [cutAt?_append hbefore] at hopen
        cases hopen
      obtain rfl := by simpa [expand_plain hplain] using h
      exact .plain hplain
    | case2 cs before behind hopen hclose =>
      have hplain : IsPlain cs := by
        rintro before behind rfl hbefore
        rw [cutAt?_append hbefore] at hopen
        cases hopen
        exact cutAt?_eq_none_iff.1 hclose
      obtain rfl := by simpa [expand_plain hplain] using h
      exact .plain hplain
    | case3 cs before behind hopen inside after hclose ih =>
      obtain rfl := eq_of_cutAt? hclose
      obtain rfl := eq_of_cutAt? hopen
      have hbefore := not_mem_of_cutAt? hopen
      have hinside := not_mem_of_cutAt? hclose
      rw [expand_group hbefore hinside, List.mem_flatMap] at h
      obtain ⟨alternative, hmem, h⟩ := h
      exact .group hbefore hinside (Text.splitAll_eq_splitOn ',' inside ▸ hmem)
        (ih ⟨alternative, hmem⟩ h)
  · intro h
    induction h with
    | plain h => rw [expand_plain h, List.mem_singleton]
    | group hbefore hinside hmem h ih =>
      rw [expand_group hbefore hinside, List.mem_flatMap]
      rw [← Text.splitAll_eq_splitOn] at hmem
      exact ⟨_, hmem, ih⟩

/-- A name fits a pattern if one of the patterns that it stands for matches. -/
theorem fits_iff {pattern name : List Char} : fits pattern name = true ↔
    ∃ p, Expands pattern p ∧ ∃ ts, tokens? p = some ts ∧ tokensMatch ts name = true := by
  rw [fits, List.any_eq_true]
  refine exists_congr fun p => and_congr mem_expand_iff ?_
  cases tokens? p <;> simp

end Pattern

/-! ## The order of paths -/

namespace Path

variable {base name : String} {names names' : List String} {ps qs : List Part}

theorem front_singleton (c : Char) : (front [c]).1 =
    if c = '/' then ['/'] else if c = '.' then ['.'] else [] := by
  unfold front
  split <;> simp_all

/-- What a path starts with is told by its first two characters. -/
theorem front_cons_cons (c d : Char) (r : List Char) : (front (c :: d :: r)).1 =
    if c = '/' then ['/'] else if c = '.' ∧ d = '/' then ['.'] else [] := by
  unfold front
  split <;> simp_all

/-- A path in a directory starts as the path of the directory does. -/
theorem front_join (hbase : base ≠ "") (h : IsName name) :
    (front (join base name).toList).1 = (front base.toList).1 := by
  have hempty : base.isEmpty = false := by simpa using hbase
  rw [join, h.isAbsolute, hempty, Bool.false_or, if_neg Bool.false_ne_true]
  rcases hcs : base.toList with _ | ⟨c, _ | ⟨d, r⟩⟩
  · exact absurd (String.toList_eq_nil_iff.1 hcs) hbase
  · split
    · next hlast =>
      obtain rfl : c = '/' := by simpa using hlast
      simp [String.toList_append, hcs, front]
    · have hslash : (base ++ "/" ++ name).toList = c :: '/' :: name.toList := by
        simp [String.toList_append, hcs]
      rw [hslash, front_cons_cons, front_singleton]
      simp
  · split <;>
      simp only [String.toList_append, hcs, List.append_assoc, List.cons_append, front_cons_cons]

/-- The parts of a path: what it starts with, and its steps. -/
theorem parts_eq (path : String) :
    parts path = frontPart (front path.toList).1 ++ (steps path.toList).map partOf := by
  rw [← steps_front]
  rfl

theorem parts_join (hbase : base ≠ "") (h : IsName name) :
    parts (join base name) = parts base ++ [.name name.toList] := by
  obtain ⟨ps, hps, hsteps⟩ := pieces_join_name base h
  have hname : partOf name.toList = .name name.toList := if_neg h.not_up
  rw [parts_eq, parts_eq, front_join hbase h, steps, hps, List.filter_append, hsteps,
    List.filter_cons_of_pos (by simp [h.not_idle]), List.filter_nil, List.map_append,
    ← List.append_assoc, List.map_singleton, hname]

/-- The parts of a path that leads to names below a directory. -/
theorem parts_foldl_join (hbase : base ≠ "") (h : ∀ n ∈ names, IsName n) :
    parts (names.foldl join base) = parts base ++ names.map fun n => .name n.toList := by
  induction names generalizing base with
  | nil => simp
  | cons n names ih =>
    obtain ⟨hn, hnames⟩ := List.forall_mem_cons.1 h
    have hjoin : join base n ≠ "" := by
      intro hempty
      have hnonempty := join_ne_empty base hn
      rw [hempty] at hnonempty
      cases hnonempty
    rw [List.foldl_cons, ih hjoin hnames, parts_join hbase hn, List.append_assoc]
    rfl

theorem notAfter_append (as : List Part) (h : notAfter ps qs = true) :
    notAfter (as ++ ps) (as ++ qs) = true := by
  induction as with
  | nil => exact h
  | cons a as ih => simp [notAfter, ih]

/-- Names in increasing order are parts in the order of paths. -/
theorem notAfter_of_lt (h : names < names') :
    notAfter (names.map fun n => .name n.toList) (names'.map fun n => .name n.toList) = true := by
  induction names generalizing names' with
  | nil => rfl
  | cons n names ih =>
    cases names' with
    | nil => cases h
    | cons n' names' =>
      rw [List.map_cons, List.map_cons, notAfter]
      rcases List.cons_lt_cons_iff.1 h with hlt | ⟨rfl, hlt⟩
      · simp [Part.before, nameLt, hlt]
      · simp [ih hlt]

end Path

/-! ## Searches -/

namespace Config

variable {c : Config} {name : String} {names : List String}

theorem excludes_eq_false_iff : c.excludes name = false ↔
    name ∉ c.exclude ∧ ∀ dir, c.resultsDir = some dir → Path.name? dir ≠ some name.toList := by
  rw [excludes, List.contains_eq_mem, decide_eq_false_iff_not, excludedNames]
  have hname : ∀ last : List Char, last = name.toList ↔ name = String.ofList last := by
    intro last
    rw [← String.toList_inj, String.toList_ofList, eq_comm]
  cases hdir : c.resultsDir with
  | none => simp
  | some dir =>
    cases hlast : Path.name? dir with
    | none => simp [hlast]
    | some last => simp [hlast, hname]

theorem isCaseFile_iff : c.isCaseFile name = true ↔ name ≠ ".apicase.yaml" ∧
    ∃ p, Pattern.Expands c.casePattern.toList p ∧
      ∃ ts, Pattern.tokens? p = some ts ∧ Pattern.tokensMatch ts name.toList = true := by
  rw [isCaseFile, Bool.and_eq_true, bne_iff_ne, Pattern.fits_iff]
  rfl

/-- **Which files are taken**, by their names from the start of the search down. -/
theorem takes_iff : c.Takes names ↔ (c.recursive = true ∨ names.length = 1) ∧
    (∃ name, names.getLast? = some name ∧ name ≠ ".apicase.yaml" ∧
      ∃ p, Pattern.Expands c.casePattern.toList p ∧
        ∃ ts, Pattern.tokens? p = some ts ∧ Pattern.tokensMatch ts name.toList = true) ∧
    ∀ n ∈ names, n ∉ c.exclude ∧
      ∀ dir, c.resultsDir = some dir → Path.name? dir ≠ some n.toList := by
  simp only [← isCaseFile_iff, ← excludes_eq_false_iff]
  constructor
  · rintro ⟨hfits, hkept, hdepth⟩
    exact ⟨hdepth, hfits, hkept⟩
  · rintro ⟨hdepth, hfits, hkept⟩
    exact ⟨hfits, hkept, hdepth⟩

end Config

variable {files : FileStore} {root : String} {entries : List (String × FileTree)}

/-- Nothing is found at the empty path. -/
theorem FileStore.ne_empty_of_find {t : FileTree} (h : files.find root = .ok t) : root ≠ "" := by
  rintro rfl
  cases h

/-- **Searches are exact.** A search from a directory gives the files below it whose last name is
not that of a configuration file and fits the pattern, and none of whose names below the directory
is passed over; without recursion, the entries of the directory among them. They come each once, in
the order of their names below the directory, which are the parts of their paths behind those of
the directory. -/
theorem discoverCases_of_directory (hs : files.IsSound)
    (hroot : files.find root = .ok (.directory entries)) (c : Config) :
    ∃ found : List (List String),
      discoverCases files root c = .ok (found.map fun names => names.foldl Path.join root) ∧
      (found.map fun names => names.foldl Path.join root).Nodup ∧
      found.Pairwise (· < ·) ∧
      (∀ names ∈ found, Path.parts (names.foldl Path.join root) =
        Path.parts root ++ names.map fun n => .name n.toList) ∧
      ∀ names, names ∈ found ↔ ((FileTree.directory entries).fileAt? names).isSome ∧
        (c.recursive = true ∨ names.length = 1) ∧
        (∃ name, names.getLast? = some name ∧ name ≠ ".apicase.yaml" ∧
          ∃ p, Pattern.Expands c.casePattern.toList p ∧
            ∃ ts, Pattern.tokens? p = some ts ∧ Pattern.tokensMatch ts name.toList = true) ∧
        ∀ n ∈ names, n ∉ c.exclude ∧
          ∀ dir, c.resultsDir = some dir → Path.name? dir ≠ some n.toList := by
  obtain ⟨-, hat⟩ := FileStore.find_eq_ok_iff.1 hroot
  have ht := (hs.wellFormed.at? hat).2
  have hmem : ∀ names, names ∈ (FileTree.directory entries).caseFiles c [] ↔
      ((FileTree.directory entries).fileAt? names).isSome ∧ c.Takes names := by
    intro names
    simp [FileTree.mem_caseFiles_iff ht]
  have hparts : ∀ names ∈ (FileTree.directory entries).caseFiles c [],
      Path.parts (names.foldl Path.join root) =
        Path.parts root ++ names.map fun n => .name n.toList := by
    intro names hnames
    obtain ⟨text, hfile⟩ := Option.isSome_iff_exists.1 ((hmem names).1 hnames).1
    exact Path.parts_foldl_join (FileStore.ne_empty_of_find hroot)
      (ht.at? (FileTree.fileAt?_eq_some_iff.1 hfile)).1
  have horder : ((FileTree.directory entries).caseFiles c []).Pairwise (· < ·) :=
    FileTree.pairwise_caseFiles ht
  refine ⟨(FileTree.directory entries).caseFiles c [], ?_, ?_, horder, hparts, fun names => ?_⟩
  · rw [discoverCases_of_find hroot, Path.sort, List.mergeSort_of_pairwise]
    rw [List.pairwise_map]
    refine horder.imp_of_mem fun {names names'} hnames hnames' hlt => ?_
    rw [hparts names hnames, hparts names' hnames']
    exact Path.notAfter_append _ (Path.notAfter_of_lt hlt)
  · refine List.Nodup.map_on (fun names hnames names' hnames' heq => ?_) horder.nodup
    have hsame := congrArg Path.parts heq
    rw [hparts names hnames, hparts names' hnames'] at hsame
    refine List.map_injective_iff.2 (fun n n' hn => ?_) (List.append_cancel_left hsame)
    exact String.toList_inj.1 (Path.Part.name.inj hn)
  · rw [hmem, Config.takes_iff]

/-- A sheet, a configuration file, results and a directory with a sheet. -/
def nestedEntries : List (String × FileTree) :=
  [(".apicase.yaml", .file (some "")), ("b.csv", .file (some "")),
    ("reports", .directory [("b.csv", .file (some ""))]),
    ("sub", .directory [("a.yaml", .file none)])]

def nestedFolder : FileStore := ⟨.directory [("qa", .directory nestedEntries)], []⟩

theorem isSound_nestedFolder : nestedFolder.IsSound where
  wellFormed := by
    have hfile : ∀ text, (FileTree.file text).WellFormed := .file
    have hdirectory : ∀ {name} {t : FileTree}, Path.IsName name → t.WellFormed →
        (FileTree.directory [(name, t)]).WellFormed := fun hname ht =>
      .directory (List.pairwise_singleton _ _) (List.forall_mem_singleton.2 hname)
        (List.forall_mem_singleton.2 ht)
    refine hdirectory (by decide +kernel) (.directory (by decide +kernel) (by decide +kernel) ?_)
    simp only [nestedEntries, List.forall_mem_cons, List.not_mem_nil, false_implies, implies_true,
      and_true]
    exact ⟨hfile _, hfile _, hdirectory (by decide +kernel) (hfile _),
      hdirectory (by decide +kernel) (hfile _)⟩
  workingDir := ⟨_, rfl⟩

/-- The search in it goes into the one directory and passes over the other. -/
theorem discoverCases_nestedFolder :
    ∃ found : List (List String),
      discoverCases nestedFolder "qa" { resultsDir := some "out/reports" } =
        .ok (found.map fun names => names.foldl Path.join "qa") ∧
      ["sub", "a.yaml"] ∈ found ∧ ["reports", "b.csv"] ∉ found := by
  have hroot : nestedFolder.find "qa" = .ok (.directory nestedEntries) := rfl
  obtain ⟨found, hfound, -, -, -, hmem⟩ :=
    discoverCases_of_directory isSound_nestedFolder hroot { resultsDir := some "out/reports" }
  refine ⟨found, hfound, (hmem _).2 ⟨rfl, .inl rfl, ?_, ?_⟩, fun h => ?_⟩
  · exact ⟨"a.yaml", rfl, Config.isCaseFile_iff.1 (by decide +kernel)⟩
  · have hkept : ∀ n ∈ ["sub", "a.yaml"],
        Config.excludes { resultsDir := some "out/reports" } n = false := by decide +kernel
    exact fun n hn => Config.excludes_eq_false_iff.1 (hkept n hn)
  · exact (((hmem _).1 h).2.2.2 "reports" (by simp)).2 "out/reports" rfl (by decide +kernel)

end CaseSheet

import CaseSheet.Proofs.Files.Tree
import CaseSheet.Proofs.Pieces
/-!
# Where paths lead

A path leads to a place that its pieces alone tell: idle pieces stay where they are, steps up go to
the directory around, names go down. The files at hand decide only whether the path can be followed.
Directories that are made and files that are written are said by the files of the tree before and
after (`FileTree.fileAt?`); nothing that stood there goes away (`FileStore.Grows`).

* `FileStore.resolve_eq_ok_iff`: a path that can be followed leads to its place.
* `FileStore.makesDirs_createDirs`: making directories leaves the files as they are, also where it
  fails on the way.
* `FileStore.writeText_ok`: writing a file changes that one.
-/
namespace CaseSheet

/-! ## Places of paths -/

namespace Path

/-- Where a piece leads from a place. -/
def followPiece (loc : List String) (p : List Char) : List String :=
  if isIdle p then loc else if p = ['.', '.'] then loc.dropLast else loc ++ [String.ofList p]

/-- Where pieces lead from a place. -/
def follow (loc : List String) (ps : List (List Char)) : List String := ps.foldl followPiece loc

@[simp] theorem follow_nil (loc : List String) : follow loc [] = loc := rfl

@[simp] theorem follow_cons (loc : List String) (p : List Char) (ps : List (List Char)) :
    follow loc (p :: ps) = follow (followPiece loc p) ps := rfl

@[simp] theorem follow_append (loc : List String) (ps qs : List (List Char)) :
    follow loc (ps ++ qs) = follow (follow loc ps) qs := List.foldl_append

theorem followPiece_of_isIdle {loc : List String} {p : List Char} (h : isIdle p = true) :
    followPiece loc p = loc := if_pos h

theorem followPiece_up (loc : List String) : followPiece loc ['.', '.'] = loc.dropLast := rfl

theorem followPiece_of_name {loc : List String} {p : List Char} (h : isIdle p = false)
    (hup : p ≠ ['.', '.']) : followPiece loc p = loc ++ [String.ofList p] := by
  rw [followPiece, h, if_neg hup]
  rfl

theorem IsName.followPiece {name : String} (h : IsName name) (loc : List String) :
    followPiece loc name.toList = loc ++ [name] := by
  rw [followPiece_of_name h.not_idle h.not_up, String.ofList_toList]

theorem IsName.ofList {p : List Char} (h : isIdle p = false) (hup : p ≠ ['.', '.'])
    (hslash : '/' ∉ p) : IsName (String.ofList p) := by
  constructor <;> rwa [String.toList_ofList]

theorem IsName.isAbsolute {name : String} (h : IsName name) : isAbsolute name = false := by
  rw [Path.isAbsolute, beq_eq_false_iff_ne]
  intro hhead
  exact h.no_slash (List.mem_of_mem_head? hhead)

/-- The pieces of a path that are not idle. -/
def steps (cs : List Char) : List (List Char) := (pieces cs).filter (!isIdle ·)

theorem follow_filter (loc : List String) (ps : List (List Char)) :
    follow loc (ps.filter (!isIdle ·)) = follow loc ps := by
  induction ps generalizing loc with
  | nil => rfl
  | cons p ps ih =>
    rw [follow_cons]
    cases hp : isIdle p with
    | true => rw [List.filter_cons_of_neg (by simp [hp]), ih, followPiece_of_isIdle hp]
    | false => rw [List.filter_cons_of_pos (by simp [hp]), follow_cons, ih]

/-- A place to which pieces lead on their way from another place, both ends included. -/
def OnTheWay (loc : List String) (ps : List (List Char)) (l : List String) : Prop :=
  ∃ qs, qs <+: ps ∧ l = follow loc qs

theorem onTheWay_nil {loc l : List String} : OnTheWay loc [] l ↔ l = loc := by
  simp [OnTheWay]

theorem onTheWay_cons {loc l : List String} {p : List Char} {ps : List (List Char)} :
    OnTheWay loc (p :: ps) l ↔ l = loc ∨ OnTheWay (followPiece loc p) ps l := by
  simp only [OnTheWay, List.prefix_cons_iff]
  constructor
  · rintro ⟨qs, rfl | ⟨qs, rfl, hqs⟩, rfl⟩
    · exact .inl rfl
    · exact .inr ⟨qs, hqs, rfl⟩
  · rintro (rfl | ⟨qs, hqs, rfl⟩)
    · exact ⟨[], .inl rfl, rfl⟩
    · exact ⟨p :: qs, .inr ⟨qs, rfl, hqs⟩, rfl⟩

theorem onTheWay_self (loc : List String) (ps : List (List Char)) : OnTheWay loc ps loc :=
  ⟨[], List.nil_prefix, rfl⟩

/-- Idle pieces lead nowhere else. -/
theorem onTheWay_filter {loc l : List String} {ps : List (List Char)} :
    OnTheWay loc (ps.filter (!isIdle ·)) l ↔ OnTheWay loc ps l := by
  induction ps generalizing loc with
  | nil => rfl
  | cons p ps ih =>
    rw [onTheWay_cons]
    cases hp : isIdle p with
    | true =>
      rw [List.filter_cons_of_neg (by simp [hp]), ih, followPiece_of_isIdle hp]
      exact (or_iff_right_of_imp fun h => h ▸ onTheWay_self loc ps).symm
    | false => rw [List.filter_cons_of_pos (by simp [hp]), onTheWay_cons, ih]

/-- No name has only idle pieces behind it with a dot among them. -/
def EndsTidy (ps : List (List Char)) : Prop :=
  ∀ p qs, p :: qs <:+ ps → isIdle p = false → qs.all isIdle = true → ['.'] ∉ qs

theorem EndsTidy.tail {p : List Char} {ps : List (List Char)} (h : EndsTidy (p :: ps)) :
    EndsTidy ps :=
  fun q qs hq => h q qs (hq.trans (List.suffix_cons p ps))

theorem IsName.pieces {name : String} (h : IsName name) : pieces name.toList = [name.toList] :=
  Text.splitAll_of_not_mem h.no_slash

/-- A path seen from another one ends in its own pieces; what stands in front has the steps of the
other, unless the path is absolute. -/
theorem pieces_join (base path : String) :
    ∃ ps, pieces (join base path).toList = ps ++ pieces path.toList ∧
      (isAbsolute path = false → ps.filter (!isIdle ·) = steps base.toList) := by
  rw [join]
  split
  · next h =>
    refine ⟨[], rfl, fun hpath => ?_⟩
    rw [hpath, Bool.false_or] at h
    obtain rfl : base = "" := by simpa using h
    rfl
  · split
    · next hlast =>
      obtain ⟨d, hd⟩ := List.getLast?_eq_some_iff.1 hlast
      refine ⟨pieces d, ?_, fun _ => ?_⟩
      · rw [pieces, String.toList_append, hd, List.append_assoc, List.singleton_append,
          Text.splitAll_append_sep]
        rfl
      · rw [steps, hd, pieces, pieces, Text.splitAll_append_sep, List.filter_append]
        exact (List.append_nil _).symm
    · refine ⟨pieces base.toList, ?_, fun _ => rfl⟩
      have hslash : (base ++ "/" ++ path).toList = base.toList ++ '/' :: path.toList := by
        simp [String.toList_append]
      rw [pieces, hslash, Text.splitAll_append_sep]
      rfl

/-- The path of a name in a directory: the steps to the directory, and the name. -/
theorem pieces_join_name (base : String) {name : String} (h : IsName name) :
    ∃ ps, pieces (join base name).toList = ps ++ [name.toList] ∧
      ps.filter (!isIdle ·) = steps base.toList := by
  obtain ⟨ps, hps, hsteps⟩ := pieces_join base name
  exact ⟨ps, h.pieces ▸ hps, hsteps h.isAbsolute⟩

theorem isAbsolute_join (base : String) {name : String} (h : IsName name) :
    isAbsolute (join base name) = isAbsolute base := by
  rw [join, h.isAbsolute, Bool.false_or]
  split
  · next hbase =>
    obtain rfl : base = "" := by simpa using hbase
    exact h.isAbsolute
  · next hbase =>
    have hne : base.toList ≠ [] := by simpa using hbase
    obtain ⟨c, cs, hcs⟩ := List.exists_cons_of_ne_nil hne
    split <;> simp [isAbsolute, String.toList_append, hcs]

/-- A path that ends in a name is not empty. -/
theorem ne_empty_of_pieces {path : String} {ps : List (List Char)} {q : List Char}
    (hpieces : pieces path.toList = ps ++ [q]) (hq : isIdle q = false) : path.isEmpty = false := by
  rw [Bool.eq_false_iff]
  intro hempty
  obtain rfl : path = "" := by simpa using hempty
  have hlast := congrArg List.getLast? hpieces
  rw [List.getLast?_concat] at hlast
  cases hlast
  cases hq

theorem join_ne_empty (base : String) {name : String} (h : IsName name) :
    (join base name).isEmpty = false := by
  obtain ⟨ps, hps, -⟩ := pieces_join_name base h
  exact ne_empty_of_pieces hps h.not_idle

end Path

namespace FileTree

open CaseSheet.Path (follow followPiece)

variable {t t' : FileTree} {loc l : List String} {ps qs : List (List Char)}

/-! ## Growing trees -/

/-- What stands in the first tree stands in the second, with files where files were and directories
where directories were. -/
structure Keeps (t t' : FileTree) : Prop where
  dirs : ∀ loc, t.IsDirAt loc → t'.IsDirAt loc
  files : ∀ loc, (t.fileAt? loc).isSome → (t'.fileAt? loc).isSome

theorem Keeps.refl (t : FileTree) : t.Keeps t := ⟨fun _ => id, fun _ => id⟩

theorem Keeps.trans {t'' : FileTree} (h : t.Keeps t') (h' : t'.Keeps t'') : t.Keeps t'' :=
  ⟨fun loc hd => h'.dirs loc (h.dirs loc hd), fun loc hf => h'.files loc (h.files loc hf)⟩

theorem Keeps.isSome_at? (h : t.Keeps t') (hloc : (t.at? loc).isSome) : (t'.at? loc).isSome := by
  rw [isSome_at?_iff] at hloc ⊢
  exact hloc.imp (h.files loc) (h.dirs loc)

/-- Something new is put where no directory has been, and no directory where a file has been. -/
theorem Keeps.putAt {new : FileTree} {dir : List String} {name : String} (hdir : t.IsDirAt dir)
    (hfree : ¬ t.IsDirAt (dir ++ [name])) (hnew : new.IsLeaf)
    (hkind : (t.fileAt? (dir ++ [name])).isSome → (new.fileAt? []).isSome) :
    t.Keeps (t.putAt (dir ++ [name]) new) where
  dirs loc h := (isDirAt_putAt hdir hfree hnew).2 (.inl h)
  files loc h := by
    rw [fileAt?_putAt hdir hfree hnew]
    by_cases hloc : loc = dir ++ [name]
    · rw [hloc, Function.update_self]
      exact hkind (hloc ▸ h)
    · rwa [Function.update_of_ne hloc]

/-! ## Following pieces -/

theorem at?_concat {entries : List (String × FileTree)} (h : t.at? loc = some (.directory entries))
    (name : String) : t.at? (loc ++ [name]) = Fields.get? entries name := by
  rw [at?_append, h]
  simp [child?, at?]

/-- One piece can be followed from a directory, and a name only to something that is there. -/
theorem walk_cons_eq_ok_iff {p : List Char} :
    t.walk loc (p :: ps) = .ok l ↔
      t.IsDirAt loc ∧
        (Path.isIdle p = false → p ≠ ['.', '.'] → (t.at? (loc ++ [String.ofList p])).isSome) ∧
        t.walk (followPiece loc p) ps = .ok l := by
  rw [walk]
  split
  · next h => simp [IsDirAt, h]
  · next h => simp [IsDirAt, h]
  · next entries h =>
    have hdir : t.IsDirAt loc := ⟨entries, h⟩
    rw [at?_concat h]
    cases hidle : Path.isIdle p with
    | true => simp [hdir, Path.followPiece_of_isIdle hidle]
    | false =>
      by_cases hup : p = ['.', '.']
      · simp [hdir, hup, Path.followPiece_up]
      · rw [Path.followPiece_of_name hidle hup]
        cases (Fields.get? entries (String.ofList p)).isSome <;> simp [hdir, hup]

theorem walk_append_eq_ok_iff :
    t.walk loc (ps ++ qs) = .ok l ↔
      t.walk loc ps = .ok (follow loc ps) ∧ t.walk (follow loc ps) qs = .ok l := by
  induction ps generalizing loc with
  | nil => simp [walk]
  | cons p ps ih =>
    rw [List.cons_append, walk_cons_eq_ok_iff, walk_cons_eq_ok_iff, ih, Path.follow_cons]
    tauto

/-- Pieces that can be followed lead to their place. -/
theorem eq_follow_of_walk (h : t.walk loc ps = .ok l) : l = follow loc ps := by
  rw [← List.append_nil ps, walk_append_eq_ok_iff] at h
  exact (Except.ok.inj h.2).symm

theorem Keeps.walk (h : t.Keeps t') (hw : t.walk loc ps = .ok l) : t'.walk loc ps = .ok l := by
  induction ps generalizing loc with
  | nil => exact hw
  | cons p ps ih =>
    rw [walk_cons_eq_ok_iff] at hw ⊢
    obtain ⟨hdir, hname, hw⟩ := hw
    exact ⟨h.dirs loc hdir, fun hi hu => h.isSome_at? (hname hi hu), ih hw⟩

/-! ## Making directories -/

/-- The second tree is the first with directories made along pieces from a place: the files are what
they were, and everything else is in its place. -/
structure MakesDirs (t t' : FileTree) (loc : List String) (ps : List (List Char)) : Prop where
  wellFormed : t'.WellFormed
  keeps : t.Keeps t'
  fileAt?_eq : t'.fileAt? = t.fileAt?
  of_isDirAt : ∀ l, t'.IsDirAt l → t.IsDirAt l ∨ Path.OnTheWay loc ps l

theorem MakesDirs.refl (hwf : t.WellFormed) (loc : List String) (ps : List (List Char)) :
    t.MakesDirs t loc ps :=
  ⟨hwf, .refl _, rfl, fun _ => .inl⟩

/-- An empty directory under a name that is not there. -/
theorem makesDirs_putAt {p : List Char} (hwf : t.WellFormed) (hdir : t.IsDirAt loc)
    (hidle : Path.isIdle p = false) (hup : p ≠ ['.', '.']) (hslash : '/' ∉ p)
    (hnone : t.at? (loc ++ [String.ofList p]) = none) :
    t.MakesDirs (t.putAt (loc ++ [String.ofList p]) empty) loc [p] ∧
      (t.putAt (loc ++ [String.ofList p]) empty).IsDirAt (followPiece loc p) := by
  have hfree : ¬ t.IsDirAt (loc ++ [String.ofList p]) := by simp [IsDirAt, hnone]
  have hfile : t.fileAt? (loc ++ [String.ofList p]) = none := by rw [fileAt?, hnone]
  have hnames : ∀ n ∈ loc ++ [String.ofList p], Path.IsName n := by
    obtain ⟨entries, hloc⟩ := hdir
    simpa [or_imp, forall_and] using
      And.intro (hwf.at? hloc).1 (Path.IsName.ofList hidle hup hslash)
  refine ⟨⟨hwf.putAt hnames .empty, .putAt hdir hfree isLeaf_empty (by simp [hfile]), ?_, ?_⟩, ?_⟩
  · rw [fileAt?_putAt hdir hfree isLeaf_empty]
    exact Function.update_eq_self_iff.2 hfile.symm
  · intro l hl
    refine ((isDirAt_putAt hdir hfree isLeaf_empty).1 hl).imp_right fun h => ?_
    rw [Path.onTheWay_cons, Path.onTheWay_nil, Path.followPiece_of_name hidle hup]
    exact .inr h.1
  · rw [Path.followPiece_of_name hidle hup]
    exact (isDirAt_putAt hdir hfree isLeaf_empty).2 (.inr ⟨rfl, [], rfl⟩)

/-- **What one piece does**: it leads to a directory, it fails, for a file that is in the way or for
a dot behind the last name, or a directory is made for it. -/
theorem makeDirs_cases (made : Bool) (p : List Char) (ps : List (List Char))
    (hdir : t.IsDirAt loc) :
    (t.IsDirAt (followPiece loc p) ∧
      t.makeDirs made loc (p :: ps) = t.makeDirs made (followPiece loc p) ps) ∨
    (((t.fileAt? (followPiece loc p)).isSome ∨
        Path.isIdle p = false ∧ ps.all Path.isIdle = true ∧ ['.'] ∈ ps) ∧
      ∃ e, t.makeDirs made loc (p :: ps) = .error (e, t)) ∨
    (Path.isIdle p = false ∧ p ≠ ['.', '.'] ∧ t.at? (loc ++ [String.ofList p]) = none ∧
      t.makeDirs made loc (p :: ps) =
        (t.putAt (loc ++ [String.ofList p]) empty).makeDirs true (followPiece loc p) ps) := by
  rw [makeDirs]
  by_cases hidle : Path.isIdle p = true
  · rw [if_pos hidle, Path.followPiece_of_isIdle hidle]
    exact .inl ⟨hdir, rfl⟩
  · rw [if_neg hidle]
    rw [Bool.not_eq_true] at hidle
    by_cases hup : p = ['.', '.']
    · rw [if_pos hup, hup, Path.followPiece_up]
      exact .inl ⟨hdir.dropLast, rfl⟩
    · rw [if_neg hup, Path.followPiece_of_name hidle hup]
      dsimp only
      split
      · next entries hat => exact .inl ⟨⟨entries, hat⟩, rfl⟩
      · next text hat =>
        have hfile : (t.fileAt? (loc ++ [String.ofList p])).isSome := by rw [fileAt?, hat]; rfl
        exact .inr (.inl ⟨.inl hfile, _, rfl⟩)
      · next hat =>
        split
        · next hdot =>
          rw [Bool.and_eq_true, List.contains_iff_mem] at hdot
          exact .inr (.inl ⟨.inr ⟨hidle, hdot⟩, _, rfl⟩)
        · exact .inr (.inr ⟨hidle, hup, hat, rfl⟩)

/-- **Directories are made** along the pieces, whether all of them are or not. -/
theorem makesDirs_makeDirs {made : Bool} (hwf : t.WellFormed) (hdir : t.IsDirAt loc)
    (hps : ∀ p ∈ ps, '/' ∉ p)
    (h : t.makeDirs made loc ps = .ok t' ∨ ∃ e, t.makeDirs made loc ps = .error (e, t')) :
    t.MakesDirs t' loc ps := by
  induction ps generalizing t made loc with
  | nil =>
    obtain h | ⟨e, h⟩ := h <;> cases h
    exact .refl hwf loc []
  | cons p ps ih =>
    obtain ⟨hp, hps⟩ := List.forall_mem_cons.1 hps
    obtain ⟨hnext, hstep⟩ | ⟨-, e, hstep⟩ | ⟨hidle, hup, hnone, hstep⟩ :=
      makeDirs_cases made p ps hdir <;> rw [hstep] at h
    · have hrest := ih hwf hnext hps h
      refine ⟨hrest.wellFormed, hrest.keeps, hrest.fileAt?_eq, fun l hl => ?_⟩
      rw [Path.onTheWay_cons]
      exact (hrest.of_isDirAt l hl).imp_right .inr
    · obtain h | ⟨e, h⟩ := h <;> cases h
      exact .refl hwf loc _
    · obtain ⟨hput, hnext⟩ := makesDirs_putAt hwf hdir hidle hup hp hnone
      have hrest := ih hput.wellFormed hnext hps h
      refine ⟨hrest.wellFormed, hput.keeps.trans hrest.keeps,
        hrest.fileAt?_eq.trans hput.fileAt?_eq, fun l hl => ?_⟩
      rw [Path.onTheWay_cons]
      rcases hrest.of_isDirAt l hl with hl | hl
      · have hway := hput.of_isDirAt l hl
        rw [Path.onTheWay_cons, Path.onTheWay_nil] at hway
        rcases hway with hl | rfl | rfl
        · exact .inl hl
        · exact .inr (.inl rfl)
        · exact .inr (.inr (Path.onTheWay_self _ ps))
      · exact .inr (.inr hl)

/-- Where all are made, there is a directory at every place on the way. -/
theorem isDirAt_of_makeDirs {made : Bool} (hwf : t.WellFormed) (hdir : t.IsDirAt loc)
    (hps : ∀ p ∈ ps, '/' ∉ p) (h : t.makeDirs made loc ps = .ok t')
    (hl : Path.OnTheWay loc ps l) : t'.IsDirAt l := by
  have hkeeps := (makesDirs_makeDirs hwf hdir hps (.inl h)).keeps
  induction ps generalizing t made loc with
  | nil =>
    rw [Path.onTheWay_nil] at hl
    exact hkeeps.dirs l (hl ▸ hdir)
  | cons p ps ih =>
    rcases Path.onTheWay_cons.1 hl with rfl | hl
    · exact hkeeps.dirs l hdir
    · obtain ⟨hp, hps⟩ := List.forall_mem_cons.1 hps
      obtain ⟨hnext, hstep⟩ | ⟨-, e, hstep⟩ | ⟨hidle, hup, hnone, hstep⟩ :=
        makeDirs_cases made p ps hdir <;> rw [hstep] at h
      · exact ih hwf hnext hps h hl (makesDirs_makeDirs hwf hnext hps (.inl h)).keeps
      · cases h
      · obtain ⟨hput, hnext⟩ := makesDirs_putAt hwf hdir hidle hup hp hnone
        exact ih hput.wellFormed hnext hps h hl
          (makesDirs_makeDirs hput.wellFormed hnext hps (.inl h)).keeps

/-- All are made where no file is in the way. -/
theorem exists_makeDirs (made : Bool) (hwf : t.WellFormed) (hdir : t.IsDirAt loc)
    (hps : ∀ p ∈ ps, '/' ∉ p) (htidy : Path.EndsTidy ps)
    (hfree : ∀ l, Path.OnTheWay loc ps l → t.fileAt? l = none) :
    ∃ t', t.makeDirs made loc ps = .ok t' := by
  induction ps generalizing t made loc with
  | nil => exact ⟨t, rfl⟩
  | cons p ps ih =>
    obtain ⟨hp, hps⟩ := List.forall_mem_cons.1 hps
    have hbehind : ∀ l, Path.OnTheWay (followPiece loc p) ps l → t.fileAt? l = none :=
      fun l hl => hfree l (Path.onTheWay_cons.2 (.inr hl))
    obtain ⟨hnext, hstep⟩ | ⟨hfile | ⟨hidle, hall, hdot⟩, -⟩ | ⟨hidle, hup, hnone, hstep⟩ :=
      makeDirs_cases made p ps hdir
    · rw [hstep]
      exact ih made hwf hnext hps htidy.tail hbehind
    · rw [hbehind _ (Path.onTheWay_self _ ps)] at hfile
      cases hfile
    · exact absurd hdot (htidy p ps List.suffix_rfl hidle hall)
    · obtain ⟨hput, hnext⟩ := makesDirs_putAt hwf hdir hidle hup hp hnone
      rw [hstep]
      exact ih true hput.wellFormed hnext hps htidy.tail (hput.fileAt?_eq ▸ hbehind)

/-- Pieces can be followed if there is a directory at every place on the way. -/
theorem walk_of_onTheWay (h : ∀ l, Path.OnTheWay loc ps l → t.IsDirAt l) :
    t.walk loc ps = .ok (follow loc ps) := by
  induction ps generalizing loc with
  | nil => rfl
  | cons p ps ih =>
    have hbehind : ∀ l, Path.OnTheWay (followPiece loc p) ps l → t.IsDirAt l :=
      fun l hl => h l (Path.onTheWay_cons.2 (.inr hl))
    have hnext := (hbehind _ (Path.onTheWay_self _ ps)).isSome_at?
    rw [walk_cons_eq_ok_iff]
    refine ⟨h loc (Path.onTheWay_self loc _), fun hidle hup => ?_, ih hbehind⟩
    rwa [Path.followPiece_of_name hidle hup] at hnext

/-! ## Writing files -/

/-- A file that is written in a directory changes what is under its name, and nothing else. -/
theorem putAt_file {dir : List String} {name : String} (hwf : t.WellFormed) (hdir : t.IsDirAt dir)
    (hname : Path.IsName name) (hfree : ¬ t.IsDirAt (dir ++ [name])) (text : Option String)
    (h : t' = t.putAt (dir ++ [name]) (.file text)) :
    t'.WellFormed ∧ t.Keeps t' ∧
      t'.fileAt? = Function.update t.fileAt? (dir ++ [name]) (some text) ∧
      ∀ l, t'.IsDirAt l ↔ t.IsDirAt l := by
  subst h
  have hleaf := isLeaf_file text
  have hnames : ∀ n ∈ dir ++ [name], Path.IsName n := by
    obtain ⟨entries, hat⟩ := hdir
    simpa [or_imp, forall_and] using And.intro (hwf.at? hat).1 hname
  refine ⟨hwf.putAt hnames (.file text), .putAt hdir hfree hleaf fun _ => rfl,
    fileAt?_putAt hdir hfree hleaf, fun l => ?_⟩
  rw [isDirAt_putAt hdir hfree hleaf]
  refine or_iff_left ?_
  rintro ⟨-, entries, hentries⟩
  cases hentries

end FileTree

namespace FileStore

open FileTree (IsDirAt)

variable {s s' s'' : FileStore} {path dir name text : String} {loc : List String}

/-- The tree is one that a disk can have, and the working directory is in it. -/
structure IsSound (s : FileStore) : Prop where
  wellFormed : s.tree.WellFormed
  workingDir : s.tree.IsDirAt s.workingDir

/-- Everything that stood in the first stands in the second, and paths start where they did. -/
structure Grows (s s' : FileStore) : Prop where
  workingDir_eq : s'.workingDir = s.workingDir
  keeps : s.tree.Keeps s'.tree

theorem Grows.refl (s : FileStore) : s.Grows s := ⟨rfl, .refl _⟩

theorem Grows.trans (h : s.Grows s') (h' : s'.Grows s'') : s.Grows s'' :=
  ⟨h'.workingDir_eq.trans h.workingDir_eq, h.keeps.trans h'.keeps⟩

/-- The place that the pieces of a path tell. -/
def place (s : FileStore) (path : String) : List String :=
  Path.follow (s.origin path) (Path.pieces path.toList)

theorem place_eq_follow_steps (s : FileStore) (path : String) :
    s.place path = Path.follow (s.origin path) (Path.steps path.toList) :=
  (Path.follow_filter _ _).symm

/-- The place of a path that ends in a name. -/
theorem place_concat {ps : List (List Char)} {q : List Char}
    (hpieces : Path.pieces path.toList = ps ++ [q]) (hidle : Path.isIdle q = false)
    (hup : q ≠ ['.', '.']) :
    s.place path = Path.follow (s.origin path) ps ++ [String.ofList q] := by
  rw [place, hpieces, Path.follow_append, Path.follow_cons, Path.follow_nil,
    Path.followPiece_of_name hidle hup]

theorem Grows.origin_eq (h : s.Grows s') (path : String) : s'.origin path = s.origin path := by
  rw [origin, origin, h.workingDir_eq]

theorem Grows.place_eq (h : s.Grows s') (path : String) : s'.place path = s.place path := by
  rw [place, place, h.origin_eq]

theorem origin_join (s : FileStore) (dir : String) (h : Path.IsName name) :
    s.origin (Path.join dir name) = s.origin dir := by
  rw [origin, origin, Path.isAbsolute_join dir h]

/-- What stands in front of a name in its path leads to the directory. -/
theorem follow_join (s : FileStore) (h : Path.IsName name) {ps : List (List Char)}
    (hsteps : ps.filter (!Path.isIdle ·) = Path.steps dir.toList) :
    Path.follow (s.origin (Path.join dir name)) ps = s.place dir := by
  rw [origin_join s dir h, ← Path.follow_filter, hsteps, place_eq_follow_steps]

theorem place_join (s : FileStore) (dir : String) (h : Path.IsName name) :
    s.place (Path.join dir name) = s.place dir ++ [name] := by
  obtain ⟨ps, hps, hsteps⟩ := Path.pieces_join_name dir h
  rw [place_concat hps h.not_idle h.not_up, s.follow_join h hsteps, String.ofList_toList]

theorem IsSound.isDirAt_origin (hs : s.IsSound) (path : String) :
    s.tree.IsDirAt (s.origin path) := by
  rw [origin]
  split
  · have hdir : s.tree.IsDirAt ([] ++ s.workingDir) := hs.workingDir
    exact hdir.of_append
  · exact hs.workingDir

/-! ## Following paths -/

theorem resolve_eq_ok_iff :
    s.resolve path = .ok loc ↔ path.isEmpty = false ∧
      s.tree.walk (s.origin path) (Path.pieces path.toList) = .ok loc := by
  rw [resolve]
  split
  · next h => simp [h]
  · next h => simp [h]

/-- A path that can be followed leads to its place. -/
theorem eq_place_of_resolve (h : s.resolve path = .ok loc) : loc = s.place path :=
  FileTree.eq_follow_of_walk (resolve_eq_ok_iff.1 h).2

theorem Grows.resolve (h : s.Grows s') (hr : s.resolve path = .ok loc) :
    s'.resolve path = .ok loc := by
  rw [resolve_eq_ok_iff] at hr ⊢
  rw [h.origin_eq]
  exact ⟨hr.1, h.keeps.walk hr.2⟩

theorem find_eq_ok_iff {u : FileTree} :
    s.find path = .ok u ↔
      s.resolve path = .ok (s.place path) ∧ s.tree.at? (s.place path) = some u := by
  constructor
  · intro h
    obtain ⟨loc, hloc, h⟩ : ∃ loc, s.resolve path = .ok loc ∧ s.tree.at? loc = some u := by
      unfold find at h
      cases hr : s.resolve path with
      | error e => rw [hr] at h; cases h
      | ok loc =>
        rw [hr] at h
        refine ⟨loc, rfl, ?_⟩
        cases hat : s.tree.at? loc with
        | none => simp [bind, Except.bind, hat] at h
        | some t => simpa [bind, Except.bind, hat] using h
    obtain rfl := eq_place_of_resolve hloc
    exact ⟨hloc, h⟩
  · rintro ⟨hr, hat⟩
    rw [find, hr]
    simp [bind, Except.bind, hat]

theorem isFile_iff : s.isFile path = true ↔ ∃ text, s.find path = .ok (.file text) := by
  rw [isFile]
  cases s.find path with
  | error e => simp [Except.toOption]
  | ok u => cases u <;> simp [Except.toOption, FileTree.isFile]

theorem readText_eq_ok_iff (hr : s.resolve path = .ok loc) :
    s.readText path = .ok text ↔ s.tree.fileAt? loc = some (some text) := by
  obtain rfl := eq_place_of_resolve hr
  rw [FileTree.fileAt?_eq_some_iff, readText]
  constructor
  · intro h
    split at h
    · cases h
    · cases h
    · cases h
    · next u hfind =>
      cases h
      exact (find_eq_ok_iff.1 hfind).2
  · intro h
    rw [find_eq_ok_iff.2 ⟨hr, h⟩]

/-- A name that is there is reached through the pieces that lead to its directory. -/
theorem resolve_concat {ps : List (List Char)} {q : List Char}
    (hpieces : Path.pieces path.toList = ps ++ [q]) (hidle : Path.isIdle q = false)
    (hup : q ≠ ['.', '.']) (hw : s.tree.walk (s.origin path) ps = .ok loc)
    (hthere : (s.tree.at? (loc ++ [String.ofList q])).isSome) :
    s.resolve path = .ok (loc ++ [String.ofList q]) := by
  obtain rfl := FileTree.eq_follow_of_walk hw
  rw [resolve_eq_ok_iff, hpieces, FileTree.walk_append_eq_ok_iff, FileTree.walk_cons_eq_ok_iff,
    Path.followPiece_of_name hidle hup]
  exact ⟨Path.ne_empty_of_pieces hpieces hidle, hw, .of_isSome_at? hthere (by simp),
    fun _ _ => hthere, rfl⟩

/-! ## Writing -/

/-- The second files are the first with directories made along a path. -/
structure MakesDirs (s s' : FileStore) (path : String) : Prop where
  isSound : s'.IsSound
  grows : s.Grows s'
  fileAt?_eq : s'.tree.fileAt? = s.tree.fileAt?
  of_isDirAt : ∀ l, s'.tree.IsDirAt l →
    s.tree.IsDirAt l ∨ Path.OnTheWay (s.origin path) (Path.steps path.toList) l

/-- **Making directories** leaves the files as they are, whether all directories are made or not. -/
theorem makesDirs_createDirs (hs : s.IsSound)
    (h : s.createDirs path = .ok s' ∨ ∃ e, s.createDirs path = .error (e, s')) :
    s.MakesDirs s' path := by
  obtain ⟨t, rfl, ht⟩ : ∃ t, s' = { s with tree := t } ∧
      (s.tree.makeDirs false (s.origin path) (Path.pieces path.toList) = .ok t ∨
        ∃ e, s.tree.makeDirs false (s.origin path) (Path.pieces path.toList) = .error (e, t)) := by
    unfold createDirs at h
    split at h
    · next t hmake =>
      obtain h | ⟨e, h⟩ := h <;> cases h
      exact ⟨t, rfl, .inl hmake⟩
    · next e t hmake =>
      obtain h | ⟨e, h⟩ := h <;> cases h
      exact ⟨t, rfl, .inr ⟨e, hmake⟩⟩
  have hmakes := FileTree.makesDirs_makeDirs hs.wellFormed (hs.isDirAt_origin path)
    (fun p hp => Text.not_mem_of_mem_splitAll hp) ht
  refine ⟨⟨hmakes.wellFormed, hmakes.keeps.dirs _ hs.workingDir⟩, ⟨rfl, hmakes.keeps⟩,
    hmakes.fileAt?_eq, fun l hl => ?_⟩
  rw [Path.steps, Path.onTheWay_filter]
  exact hmakes.of_isDirAt l hl

/-- Where all directories are made, they are there. -/
theorem isDirAt_of_createDirs (hs : s.IsSound) (h : s.createDirs path = .ok s')
    (hloc : Path.OnTheWay (s.origin path) (Path.steps path.toList) loc) : s'.tree.IsDirAt loc := by
  rw [Path.steps, Path.onTheWay_filter] at hloc
  unfold createDirs at h
  split at h
  · next t hmake =>
    cases h
    exact FileTree.isDirAt_of_makeDirs hs.wellFormed (hs.isDirAt_origin path)
      (fun p hp => Text.not_mem_of_mem_splitAll hp) hmake hloc
  · cases h

/-- All directories are made where no file is in the way. -/
theorem exists_createDirs (hs : s.IsSound) (htidy : Path.EndsTidy (Path.pieces path.toList))
    (hfree : ∀ l, Path.OnTheWay (s.origin path) (Path.steps path.toList) l →
      s.tree.fileAt? l = none) : ∃ s', s.createDirs path = .ok s' := by
  have hslash : ∀ p ∈ Path.pieces path.toList, '/' ∉ p :=
    fun p hp => Text.not_mem_of_mem_splitAll hp
  obtain ⟨t, ht⟩ := FileTree.exists_makeDirs false hs.wellFormed (hs.isDirAt_origin path) hslash
    htidy fun l hl => hfree l (by rwa [Path.steps, Path.onTheWay_filter])
  exact ⟨{ s with tree := t }, by rw [createDirs, ht]⟩

/-- A file is written under a name: in a directory that is there, where no directory stands under
the name, and with nothing behind the name in the path. -/
theorem target_eq_ok_iff :
    s.target path = .ok loc ↔
      ∃ ps q, Path.pieces path.toList = ps ++ [q] ∧ Path.isIdle q = false ∧ q ≠ ['.', '.'] ∧
        s.tree.walk (s.origin path) ps = .ok (Path.follow (s.origin path) ps) ∧
        s.tree.IsDirAt (Path.follow (s.origin path) ps) ∧
        loc = Path.follow (s.origin path) ps ++ [String.ofList q] ∧ ¬ s.tree.IsDirAt loc := by
  constructor
  · intro h
    obtain ⟨back, -, hsplit⟩ := Text.exists_dropEndWhile Path.isIdle (Path.pieces path.toList)
    unfold target at h
    dsimp only at h
    split at h
    · cases h
    · next q hlast =>
      obtain ⟨ps, hnamed⟩ := List.getLast?_eq_some_iff.1 hlast
      rw [hnamed] at hsplit h
      rw [hsplit, List.drop_left, List.dropLast_concat] at h
      cases hw : s.tree.walk (s.origin path) ps with
      | error e => rw [hw] at h; cases h
      | ok l =>
        obtain rfl := FileTree.eq_follow_of_walk hw
        simp only [hw, bind, Except.bind] at h
        split at h
        · cases h
        · cases h
        · next entries hdir =>
          by_cases hup : q = ['.', '.']
          · rw [if_pos hup] at h
            cases h
          · rw [if_neg hup] at h
            have hno : back = [] ∧ loc = Path.follow (s.origin path) ps ++ [String.ofList q] ∧
                ¬ s.tree.IsDirAt loc := by
              split at h
              · cases h
              all_goals
                next hat =>
                split at h
                · next hback =>
                  cases h
                  refine ⟨by simpa using hback, rfl, ?_⟩
                  rintro ⟨inner, hinner⟩
                  rw [hat] at hinner
                  cases hinner
                · cases h
            refine ⟨ps, q, ?_, Text.not_of_getLast?_dropEndWhile hlast, hup, hw, ⟨entries, hdir⟩,
              hno.2⟩
            rw [hsplit, hno.1, List.append_nil]
  · rintro ⟨ps, q, hpieces, hidle, hup, hw, ⟨entries, hat⟩, rfl, hfree⟩
    simp only [target, hpieces, Text.dropEndWhile_concat hidle, List.getLast?_concat,
      List.dropLast_concat, hw, bind, Except.bind, hat, hup, if_false, List.drop_length,
      List.isEmpty_nil, if_true]
    split
    · next inner hinner => exact absurd ⟨inner, hinner⟩ hfree
    · rfl
    · rfl

theorem writeText_eq_ok_iff :
    s.writeText path text = .ok s' ↔ ∃ loc, s.target path = .ok loc ∧
      s' = { s with tree := s.tree.putAt loc (.file (some text)) } := by
  rw [writeText]
  cases s.target path <;> simp [Except.map, eq_comm]

/-- **Writing a file** changes that file and nothing else, and its path leads there. -/
theorem writeText_ok (hs : s.IsSound) (h : s.writeText path text = .ok s') :
    s'.IsSound ∧ s.Grows s' ∧
      s'.tree.fileAt? = Function.update s.tree.fileAt? (s.place path) (some (some text)) ∧
      (∀ l, s'.tree.IsDirAt l ↔ s.tree.IsDirAt l) ∧
      s'.resolve path = .ok (s.place path) := by
  obtain ⟨loc, htarget, rfl⟩ := writeText_eq_ok_iff.1 h
  obtain ⟨ps, q, hpieces, hidle, hup, hw, hdir, rfl, hfree⟩ := target_eq_ok_iff.1 htarget
  have hname : Path.IsName (String.ofList q) := by
    have hmem : q ∈ Path.pieces path.toList := by
      rw [hpieces]
      exact List.mem_append_right ps List.mem_cons_self
    exact .ofList hidle hup (Text.not_mem_of_mem_splitAll hmem)
  obtain ⟨hwf, hkeeps, hfiles, hdirs⟩ :=
    FileTree.putAt_file hs.wellFormed hdir hname hfree (some text) rfl
  rw [place_concat hpieces hidle hup]
  refine ⟨⟨hwf, (hdirs _).2 hs.workingDir⟩, ⟨rfl, hkeeps⟩, hfiles, hdirs, ?_⟩
  refine resolve_concat hpieces hidle hup (hkeeps.walk hw) ?_
  rw [FileTree.isSome_at?_iff, hfiles, Function.update_self]
  exact .inl rfl

end FileStore
end CaseSheet

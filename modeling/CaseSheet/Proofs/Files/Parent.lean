import CaseSheet.Proofs.Files.Store
/-!
# The directory around a path

Where a path leads is told by its steps, the pieces that are not idle. The path of the directory
around another path has all of its steps but the last, and starts where it starts; so it leads to
the directory in which the other one ends. Only the path around a bare name is empty, and leads
nowhere.

* `FileTree.walk_steps_iff`: idle pieces do not matter on the way to a directory.
* `Path.steps_of_name?`: the last name of a path is its last step.
* `Path.steps_parent?`: the steps of the path around.
* `FileStore.resolve_parent?`: where it leads.
-/
namespace CaseSheet

namespace Path

variable {cs : List Char} {path dir : String}

theorem pieces_ne_nil (cs : List Char) : pieces cs ≠ [] := Text.splitAll_ne_nil '/' cs

theorem pieces_cons_slash (cs : List Char) : pieces ('/' :: cs) = [] :: pieces cs :=
  Text.splitAll_append_sep [] cs

theorem pieces_dot_slash (cs : List Char) : pieces ('.' :: '/' :: cs) = ['.'] :: pieces cs :=
  Text.splitAll_append_sep ['.'] cs

/-- Slashes and a dot in front are no steps. -/
theorem steps_cons_slash (cs : List Char) : steps ('/' :: cs) = steps cs := by
  rw [steps, pieces_cons_slash]
  rfl

theorem steps_dot_slash (cs : List Char) : steps ('.' :: '/' :: cs) = steps cs := by
  rw [steps, pieces_dot_slash]
  rfl

theorem steps_joinWith {ps : List (List Char)} (h : ∀ p ∈ ps, '/' ∉ p) :
    steps (Text.joinWith ['/'] ps) = ps.filter (!isIdle ·) := by
  cases ps with
  | nil => rfl
  | cons p ps => rw [steps, pieces, Text.splitAll_joinWith (by simp) h]

/-- Steps behind a dot and a slash, or behind a dot alone. -/
theorem steps_dot_joinWith {ps : List (List Char)} (h : ∀ p ∈ ps, '/' ∉ p) :
    steps ('.' :: Text.joinWith ['/'] ([] :: ps)) = ps.filter (!isIdle ·) := by
  cases ps with
  | nil => rfl
  | cons p ps =>
    rw [Text.joinWith, List.nil_append, List.singleton_append, steps_dot_slash, steps_joinWith h]

/-- A first piece that is a step does not start at the root. -/
theorem head?_ne_slash {p : List Char} {ps : List (List Char)} (h : pieces cs = p :: ps)
    (hp : isIdle p = false) : cs.head? ≠ some '/' := by
  intro hhead
  cases cs with
  | nil => cases hhead
  | cons c r =>
    obtain rfl := Option.some.inj hhead
    rw [pieces_cons_slash] at h
    obtain ⟨rfl, -⟩ := List.cons.inj h
    cases hp

/-- The ways in which a path starts. Where neither a slash nor a dot stands in front, the first
piece is a step. -/
theorem front_cases (cs : List Char) :
    (∃ r, cs = '/' :: r ∧ front cs = (['/'], r)) ∨ (cs = ['.'] ∧ front cs = (['.'], [])) ∨
      (∃ r, cs = '.' :: '/' :: r ∧ front cs = (['.'], '/' :: r)) ∨
      (front cs = ([], cs) ∧ ∃ p ps, pieces cs = p :: ps ∧ (isIdle p = true → cs = [])) := by
  unfold front
  split
  · next r => exact .inl ⟨r, rfl, rfl⟩
  · exact .inr (.inl ⟨rfl, rfl⟩)
  · next r => exact .inr (.inr (.inl ⟨r, rfl, rfl⟩))
  · next hslash hdot hdotSlash =>
    refine .inr (.inr (.inr ⟨rfl, ?_⟩))
    rcases cs with _ | ⟨c, r⟩
    · exact ⟨[], [], rfl, fun _ => rfl⟩
    · have hc : (c == '/') = false := beq_eq_false_iff_ne.2 fun h => hslash r (h ▸ rfl)
      cases hr : Text.splitAll '/' r with
      | nil => exact absurd hr (Text.splitAll_ne_nil '/' r)
      | cons p ps =>
        refine ⟨c :: p, ps, by rw [pieces, Text.splitAll, hc, hr]; rfl, fun hidle => ?_⟩
        -- An idle piece would be a dot in front of a slash or of nothing.
        obtain ⟨rfl, rfl⟩ : c = '.' ∧ p = [] := by simpa [isIdle] using hidle
        rcases r with _ | ⟨d, r⟩
        · exact absurd rfl hdot
        · rw [Text.splitAll] at hr
          split at hr
          · next hd =>
            obtain rfl : d = '/' := by simpa using hd
            exact absurd rfl (hdotSlash r)
          · split at hr <;> simp at hr

/-- What stands behind the front of a path has its steps. -/
theorem steps_front (cs : List Char) : steps (front cs).2 = steps cs := by
  rcases front_cases cs with ⟨r, rfl, h⟩ | ⟨rfl, h⟩ | ⟨r, rfl, h⟩ | ⟨h, -⟩ <;> rw [h]
  · exact (steps_cons_slash r).symm
  · rfl
  · exact (steps_cons_slash r).trans (steps_dot_slash r).symm

/-- The last name of a path is its last step. -/
theorem steps_of_name? {name : List Char} (h : name? path = some name) :
    (∃ ps, steps path.toList = ps ++ [name]) ∧ isIdle name = false ∧ name ≠ ['.', '.'] := by
  rw [name?] at h
  split at h
  · next p hlast =>
    split at h
    · cases h
    · next hup =>
      obtain rfl := Option.some.inj h
      have hidle := Text.not_of_getLast?_dropEndWhile hlast
      obtain ⟨ps, hps⟩ := List.getLast?_eq_some_iff.1 hlast
      refine ⟨⟨ps.filter (!isIdle ·), ?_⟩, hidle, hup⟩
      rw [← steps_front, steps, ← Text.filter_not_dropEndWhile, ← trimmedPieces, hps,
        List.filter_append, List.filter_cons_of_pos (by simp [hidle])]
      rfl
  · cases h

/-- A path seen from another one ends in its steps. -/
theorem steps_join (base path : String) :
    ∃ ps, steps (join base path).toList = ps ++ steps path.toList := by
  obtain ⟨ps, hps, -⟩ := pieces_join base path
  exact ⟨_, by rw [steps, hps, List.filter_append, ← steps]⟩

/-! ## The path around -/

theorem parent?_eq {start body : List Char} {ps : List (List Char)} {q : List Char}
    (hfront : front path.toList = (start, body)) (hps : pieces body = ps ++ [q])
    (hq : isIdle q = false) : parent? path =
      some (String.ofList (start ++ Text.joinWith ['/'] (Text.dropEndWhile isIdle ps))) := by
  rw [parent?, hfront]
  dsimp only
  rw [trimmedPieces, hps, Text.dropEndWhile_concat hq]
  split
  · next h => simp at h
  · rw [List.dropLast_concat]

/-- Behind a first piece there are others that end as all of them do. -/
theorem exists_concat_of_cons {p q : List Char} {ps qs : List (List Char)} (hne : qs ≠ [])
    (h : p :: qs = ps ++ [q]) : ∃ ps', ps = p :: ps' ∧ qs = ps' ++ [q] := by
  rcases List.cons_eq_append_iff.1 h with ⟨-, hqs⟩ | ⟨ps', hps, hqs⟩
  · exact absurd (List.cons.inj hqs).2.symm hne
  · exact ⟨ps', hps, hqs⟩

/-- What is left of pieces has their steps. -/
theorem steps_outer {ps : List (List Char)} (h : ∀ p ∈ ps, '/' ∉ p) :
    steps (Text.joinWith ['/'] (Text.dropEndWhile isIdle ps)) = ps.filter (!isIdle ·) := by
  rw [steps_joinWith fun p hp => h p ((Text.dropEndWhile_prefix _ _).subset hp),
    Text.filter_not_dropEndWhile]

theorem steps_dot_outer {ps : List (List Char)} (h : ∀ p ∈ ps, '/' ∉ p) :
    steps ('.' :: Text.joinWith ['/'] (Text.dropEndWhile isIdle ([] :: ps))) =
      ps.filter (!isIdle ·) := by
  have hfilter := Text.filter_not_dropEndWhile isIdle ([] :: ps)
  rcases List.prefix_cons_iff.1 (Text.dropEndWhile_prefix isIdle ([] :: ps)) with
    hout | ⟨outer, hout, hpre⟩
  · rw [hout] at hfilter ⊢
    exact hfilter
  · rw [hout] at hfilter ⊢
    rw [steps_dot_joinWith fun p hp => h p (hpre.subset hp)]
    exact hfilter

/-- What is left of pieces that start with a name is a text that starts with it. -/
theorem joinWith_outer {p : List Char} {ps : List (List Char)} (hp : isIdle p = false)
    (h : ∀ q ∈ p :: ps, '/' ∉ q) :
    Text.joinWith ['/'] (Text.dropEndWhile isIdle (p :: ps)) ≠ [] ∧
      (Text.joinWith ['/'] (Text.dropEndWhile isIdle (p :: ps))).head? ≠ some '/' := by
  rcases List.prefix_cons_iff.1 (Text.dropEndWhile_prefix isIdle (p :: ps)) with
    hout | ⟨outer, hout, hpre⟩
  · have hfilter := Text.filter_not_dropEndWhile isIdle (p :: ps)
    simp [hout, hp] at hfilter
  · rw [hout]
    have hpieces := Text.splitAll_joinWith (List.cons_ne_nil p outer) fun q hq =>
      h q ((List.cons_prefix_cons.2 ⟨rfl, hpre⟩).subset hq)
    refine ⟨fun hempty => ?_, head?_ne_slash hpieces hp⟩
    rw [hempty] at hpieces
    obtain ⟨rfl, -⟩ := List.cons.inj hpieces
    cases hp

/-- **The path around** a path that ends in a name: it starts where the path starts, and has its
steps but the last. It is empty for a bare name alone. -/
theorem steps_parent? {ps : List (List Char)} {q : List Char}
    (hps : pieces path.toList = ps ++ [q]) (hq : isIdle q = false) :
    ∃ dir, parent? path = some dir ∧ steps dir.toList = ps.filter (!isIdle ·) ∧
      isAbsolute dir = isAbsolute path ∧ (dir = "" ↔ '/' ∉ path.toList) := by
  have hslash : ∀ p ∈ ps, '/' ∉ p := fun p hp =>
    Text.not_mem_of_mem_splitAll (l := path.toList) (by
      rw [show Text.splitAll '/' path.toList = pieces path.toList from rfl, hps]
      exact List.mem_append_left _ hp)
  rcases front_cases path.toList with ⟨r, hpath, hfront⟩ | ⟨hpath, -⟩ | ⟨r, hpath, hfront⟩ |
    ⟨hfront, p, ps', hp, hidle⟩
  · -- From the root.
    rw [hpath, pieces_cons_slash] at hps
    obtain ⟨ps', rfl, hr⟩ := exists_concat_of_cons (pieces_ne_nil r) hps
    refine ⟨_, parent?_eq hfront hr hq, ?_, ?_, ?_⟩
    · rw [String.toList_ofList, List.singleton_append, steps_cons_slash,
        steps_outer (List.forall_mem_cons.1 hslash).2]
      rfl
    · simp [isAbsolute, hpath]
    · simp [hpath]
  · -- A dot alone does not end in a name.
    rw [hpath] at hps
    have hlast := congrArg List.getLast? hps
    rw [List.getLast?_concat] at hlast
    cases hlast
    cases hq
  · -- From a dot: the piece in front of the slash behind it is empty.
    rw [hpath, pieces_dot_slash] at hps
    obtain ⟨ps', rfl, hr⟩ := exists_concat_of_cons (pieces_ne_nil r) hps
    have hbody : pieces ('/' :: r) = ([] :: ps') ++ [q] := by rw [pieces_cons_slash, hr]; rfl
    refine ⟨_, parent?_eq hfront hbody hq, ?_, ?_, ?_⟩
    · rw [String.toList_ofList, List.singleton_append,
        steps_dot_outer (List.forall_mem_cons.1 hslash).2]
      rfl
    · simp [isAbsolute, hpath]
    · simp [hpath]
  · -- From a name, unless there is nothing in front of the last piece.
    have hp' : isIdle p = false := by
      by_contra hp'
      have hempty := hidle (by simpa using hp')
      rw [hempty] at hps
      have hlast := congrArg List.getLast? hps
      rw [List.getLast?_concat] at hlast
      cases hlast
      cases hq
    have habsolute : isAbsolute path = false := by simpa [isAbsolute] using head?_ne_slash hp hp'
    have hparent := parent?_eq hfront hps hq
    rw [List.nil_append] at hparent
    refine ⟨_, hparent, by rw [String.toList_ofList, steps_outer hslash], ?_⟩
    rw [habsolute]
    cases ps with
    | nil => exact ⟨rfl, iff_of_true rfl (Text.not_mem_of_splitAll_eq_singleton hps)⟩
    | cons p₁ ps =>
      obtain rfl : p = p₁ := (List.cons.inj (hp.symm.trans hps)).1
      obtain ⟨hne, hhead⟩ := joinWith_outer hp' hslash
      refine ⟨by simpa [isAbsolute] using hhead, iff_of_false (by simpa using hne) fun hno => ?_⟩
      rw [pieces, Text.splitAll_of_not_mem hno] at hps
      simp at hps

/-! ### Its end -/

theorem EndsTidy.of_isIdle {ps : List (List Char)} (h : ∀ p ∈ ps, isIdle p = true) :
    EndsTidy ps := by
  intro p qs hsuffix hp
  rw [h p (hsuffix.subset List.mem_cons_self)] at hp
  cases hp

theorem EndsTidy.of_getLast? {ps : List (List Char)}
    (h : ∀ p, ps.getLast? = some p → isIdle p = false) : EndsTidy ps := by
  rintro p qs ⟨front, rfl⟩ - hall hdot
  obtain ⟨qs, q, rfl⟩ := (List.eq_nil_or_concat' qs).resolve_left (List.ne_nil_of_mem hdot)
  have hq := h q (by rw [← List.cons_append, ← List.append_assoc, List.getLast?_concat])
  rw [List.all_eq_true.1 hall q (by simp)] at hq
  cases hq

theorem EndsTidy.cons {p : List Char} {ps : List (List Char)} (hp : isIdle p = true)
    (h : EndsTidy ps) : EndsTidy (p :: ps) := by
  intro q qs hsuffix hq
  rcases List.suffix_cons_iff.1 hsuffix with heq | hsuffix
  · obtain ⟨rfl, -⟩ := List.cons.inj heq
    rw [hp] at hq
    cases hq
  · exact h q qs hsuffix hq

theorem endsTidy_joinWith {ps : List (List Char)} (hslash : ∀ p ∈ ps, '/' ∉ p)
    (hlast : ∀ p, ps.getLast? = some p → isIdle p = false) :
    EndsTidy (pieces (Text.joinWith ['/'] ps)) := by
  by_cases hps : ps = []
  · subst hps
    exact .of_isIdle fun p hp => by
      obtain rfl := List.mem_singleton.1 hp
      rfl
  · rw [pieces, Text.splitAll_joinWith hps hslash]
    exact .of_getLast? hlast

/-- What a path around is made of. -/
theorem parent?_cases {start body : List Char} (hfront : front path.toList = (start, body))
    (h : parent? path = some dir) :
    dir = "" ∨ ∃ outer, outer <+: pieces body ∧
      (∀ p, outer.getLast? = some p → isIdle p = false) ∧
      dir.toList = start ++ Text.joinWith ['/'] outer := by
  rw [parent?, hfront] at h
  dsimp only at h
  split at h
  · split at h
    · exact .inl (Option.some.inj h).symm
    · cases h
  · obtain rfl := Option.some.inj h
    refine .inr ⟨_, ?_, fun p hp => Text.not_of_getLast?_dropEndWhile hp, String.toList_ofList⟩
    exact (Text.dropEndWhile_prefix _ _).trans
      ((List.dropLast_prefix _).trans (Text.dropEndWhile_prefix _ _))

theorem endsTidy_dot_joinWith {ps rest : List (List Char)} (hps : ps <+: [] :: rest)
    (hslash : ∀ p ∈ ps, '/' ∉ p) (hlast : ∀ p, ps.getLast? = some p → isIdle p = false) :
    EndsTidy (pieces ('.' :: Text.joinWith ['/'] ps)) := by
  rcases List.prefix_cons_iff.1 hps with rfl | ⟨_ | ⟨p, ps⟩, rfl, -⟩
  · refine .of_isIdle fun p hp => ?_
    obtain rfl : p = ['.'] := List.mem_singleton.1 hp
    rfl
  · cases hlast [] rfl
  · rw [Text.joinWith, List.nil_append, List.singleton_append, pieces_dot_slash]
    rw [List.getLast?_cons_cons] at hlast
    exact .cons rfl (endsTidy_joinWith (List.forall_mem_cons.1 hslash).2 hlast)

/-- A path around does not end in a name with a dot behind it. -/
theorem endsTidy_parent? (h : parent? path = some dir) : EndsTidy (pieces dir.toList) := by
  have hslash : ∀ {body : List Char} {outer}, outer <+: pieces body → ∀ p ∈ outer, '/' ∉ p :=
    fun houter p hp => Text.not_mem_of_mem_splitAll (houter.subset hp)
  have hempty : EndsTidy (pieces "".toList) := endsTidy_joinWith (List.forall_mem_nil _) nofun
  rcases front_cases path.toList with ⟨r, -, hfront⟩ | ⟨-, hfront⟩ | ⟨r, -, hfront⟩ | ⟨hfront, -⟩
  · -- From the root.
    rcases parent?_cases hfront h with rfl | ⟨outer, houter, hlast, hdir⟩
    · exact hempty
    · rw [hdir, List.singleton_append, pieces_cons_slash]
      exact .cons rfl (endsTidy_joinWith (hslash houter) hlast)
  · -- From a dot alone.
    rcases parent?_cases hfront h with rfl | ⟨outer, houter, hlast, hdir⟩
    · exact hempty
    · rw [hdir]
      exact endsTidy_dot_joinWith houter (hslash houter) hlast
  · -- From a dot with a slash behind it.
    rcases parent?_cases hfront h with rfl | ⟨outer, houter, hlast, hdir⟩
    · exact hempty
    · rw [hdir]
      exact endsTidy_dot_joinWith (pieces_cons_slash r ▸ houter) (hslash houter) hlast
  · -- From a name.
    rcases parent?_cases hfront h with rfl | ⟨outer, houter, hlast, hdir⟩
    · exact hempty
    · rw [hdir]
      exact endsTidy_joinWith (hslash houter) hlast

end Path

namespace FileTree

variable {t : FileTree} {loc l : List String} {ps : List (List Char)}

/-- What leads to a directory starts at one. -/
theorem IsDirAt.of_walk (h : t.walk loc ps = .ok l) (hl : t.IsDirAt l) : t.IsDirAt loc := by
  cases ps with
  | nil =>
    cases h
    exact hl
  | cons p ps => exact (walk_cons_eq_ok_iff.1 h).1

/-- Idle pieces do not matter on the way to a directory. -/
theorem walk_steps_iff (hl : t.IsDirAt l) :
    t.walk loc (ps.filter (!Path.isIdle ·)) = .ok l ↔ t.walk loc ps = .ok l := by
  induction ps generalizing loc with
  | nil => rfl
  | cons p ps ih =>
    cases hp : Path.isIdle p with
    | true =>
      rw [List.filter_cons_of_neg (by simp [hp]), ih, walk_cons_eq_ok_iff,
        Path.followPiece_of_isIdle hp]
      refine ⟨fun h => ⟨.of_walk h hl, fun hno => ?_, h⟩, fun h => h.2.2⟩
      rw [hp] at hno
      cases hno
    | false =>
      rw [List.filter_cons_of_pos (by simp [hp]), walk_cons_eq_ok_iff, walk_cons_eq_ok_iff, ih]

/-- What leads to a file ends in its name, behind what leads to its directory. -/
theorem walk_to_file {q : List Char} {text : Option String}
    (h : t.walk loc (ps ++ [q]) = .ok l) (hl : t.at? l = some (.file text)) :
    Path.isIdle q = false ∧ t.walk loc ps = .ok l.dropLast ∧ t.IsDirAt l.dropLast := by
  obtain ⟨houter, hlast⟩ := walk_append_eq_ok_iff.1 h
  obtain ⟨hdir, -, hlast⟩ := walk_cons_eq_ok_iff.1 hlast
  obtain rfl := Except.ok.inj hlast
  have hno : ¬ t.IsDirAt (Path.followPiece (Path.follow loc ps) q) := by
    rintro ⟨entries, hentries⟩
    rw [hentries] at hl
    cases hl
  cases hq : Path.isIdle q with
  | true =>
    rw [Path.followPiece_of_isIdle hq] at hno
    exact absurd hdir hno
  | false =>
    by_cases hup : q = ['.', '.']
    · rw [hup, Path.followPiece_up] at hno
      exact absurd hdir.dropLast hno
    · rw [Path.followPiece_of_name hq hup, List.dropLast_concat]
      exact ⟨rfl, houter, hdir⟩

end FileTree

namespace FileStore

variable {files : FileStore} {path : String} {text : Option String}

/-- **The directory in which a file stands** is where the path around its path leads, unless the
path is a bare name: there the path around is empty and leads nowhere. -/
theorem resolve_parent? (h : files.find path = .ok (.file text)) :
    ∃ dir, Path.parent? path = some dir ∧
      ('/' ∈ path.toList → files.resolve dir = .ok (files.place path).dropLast) ∧
      ('/' ∉ path.toList → dir = "") := by
  obtain ⟨hresolve, hfile⟩ := find_eq_ok_iff.1 h
  have hwalk := (resolve_eq_ok_iff.1 hresolve).2
  obtain ⟨ps, q, hps⟩ : ∃ ps q, Path.pieces path.toList = ps ++ [q] :=
    (List.eq_nil_or_concat' _).resolve_left (Path.pieces_ne_nil _)
  rw [hps] at hwalk
  obtain ⟨hq, hwalk, hdir⟩ := FileTree.walk_to_file hwalk hfile
  obtain ⟨dir, hparent, hsteps, habsolute, hempty⟩ := Path.steps_parent? hps hq
  refine ⟨dir, hparent, fun hslash => ?_, hempty.2⟩
  have hne : dir ≠ "" := fun h => hempty.1 h hslash
  rw [resolve_eq_ok_iff, origin, habsolute, ← FileTree.walk_steps_iff hdir]
  refine ⟨by simpa using hne, ?_⟩
  rw [← Path.steps, hsteps, FileTree.walk_steps_iff hdir]
  exact hwalk

end FileStore
end CaseSheet

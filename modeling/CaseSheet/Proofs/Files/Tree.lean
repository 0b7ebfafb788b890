import CaseSheet.FileTree
import CaseSheet.Proofs.Fields
import Mathlib.Data.List.Infix
import Mathlib.Data.String.Basic
import Mathlib.Logic.Function.Basic
/-!
# What stands where in a tree

A tree is looked at through the files in it, each at its place, and the places of its directories.
What is put into a tree changes these at one place and nowhere else.

* `FileTree.labelAt?_putAt`: a tree with something new in it; `FileTree.fileAt?_putAt` for its
  files, `FileTree.isDirAt_putAt` for its directories.
* `FileTree.WellFormed.putAt`: names stay in order, each once.
-/
namespace CaseSheet

/-- A name of an entry: it stands for itself as a piece of a path. -/
structure Path.IsName (n : String) : Prop where
  not_idle : Path.isIdle n.toList = false
  not_up : n.toList ≠ ['.', '.']
  no_slash : '/' ∉ n.toList

instance (n : String) : Decidable (Path.IsName n) :=
  decidable_of_iff (Path.isIdle n.toList = false ∧ n.toList ≠ ['.', '.'] ∧ '/' ∉ n.toList)
    ⟨fun ⟨hidle, hup, hslash⟩ => ⟨hidle, hup, hslash⟩,
      fun h => ⟨h.not_idle, h.not_up, h.no_slash⟩⟩

namespace FileTree

/-! ## Places -/

variable {t new : FileTree} {dir loc p : List String} {name : String}

/-- The text of the file at a place. -/
def fileAt? (t : FileTree) (loc : List String) : Option (Option String) :=
  match t.at? loc with
  | some (.file text) => some text
  | _ => none

/-- There is a directory at a place. -/
def IsDirAt (t : FileTree) (loc : List String) : Prop :=
  ∃ entries, t.at? loc = some (.directory entries)

theorem at?_cons (t : FileTree) (n : String) (ns : List String) :
    t.at? (n :: ns) = (t.child? n).bind (·.at? ns) := rfl

theorem at?_append (t : FileTree) (a b : List String) :
    t.at? (a ++ b) = (t.at? a).bind (·.at? b) := by
  induction a generalizing t with
  | nil => rfl
  | cons n a ih =>
    rw [List.cons_append, at?_cons, at?_cons]
    cases t.child? n with
    | none => rfl
    | some c => exact ih c

theorem fileAt?_eq_some_iff {text : Option String} :
    t.fileAt? loc = some text ↔ t.at? loc = some (.file text) := by
  unfold fileAt?
  split
  · next h => rw [h]; simp
  · next h =>
    refine iff_of_false (by simp) fun hfile => ?_
    exact h _ hfile

/-- What stands below a directory: its files are those of the tree. -/
theorem fileAt?_of_at? {u : FileTree} (h : t.at? loc = some u) (p : List String) :
    u.fileAt? p = t.fileAt? (loc ++ p) := by
  rw [fileAt?, fileAt?, at?_append, h]
  rfl

/-- At a place there is nothing, a file or a directory. -/
theorem isSome_at?_iff : (t.at? loc).isSome ↔ (t.fileAt? loc).isSome ∨ t.IsDirAt loc := by
  unfold fileAt? IsDirAt
  cases t.at? loc with
  | none => simp
  | some u => cases u <;> simp

/-- What stands below a place stands in a directory. -/
theorem IsDirAt.of_isSome_at? {rest : List String} (h : (t.at? (loc ++ rest)).isSome)
    (hrest : rest ≠ []) : t.IsDirAt loc := by
  obtain ⟨n, ns, rfl⟩ := List.exists_cons_of_ne_nil hrest
  rw [at?_append] at h
  cases hloc : t.at? loc with
  | none => simp [hloc] at h
  | some u =>
    cases u with
    | file text => simp [hloc, at?_cons, child?] at h
    | directory entries => exact ⟨entries, hloc⟩

theorem IsDirAt.isSome_at? (h : t.IsDirAt loc) : (t.at? loc).isSome :=
  isSome_at?_iff.2 (.inr h)

theorem IsDirAt.of_append {rest : List String} (h : t.IsDirAt (loc ++ rest)) : t.IsDirAt loc := by
  cases rest with
  | nil => rwa [List.append_nil] at h
  | cons n ns => exact .of_isSome_at? h.isSome_at? (by simp)

theorem IsDirAt.dropLast (h : t.IsDirAt loc) : t.IsDirAt loc.dropLast := by
  rcases List.eq_nil_or_concat' loc with rfl | ⟨l, n, rfl⟩
  · exact h
  · rw [List.dropLast_concat]
    exact h.of_append

theorem isDirAt_cons {n : String} {ns : List String} :
    t.IsDirAt (n :: ns) ↔ ∃ c, t.child? n = some c ∧ c.IsDirAt ns := by
  simp only [IsDirAt, at?_cons, Option.bind_eq_some_iff]
  constructor
  · rintro ⟨entries, c, hc, h⟩; exact ⟨c, hc, entries, h⟩
  · rintro ⟨c, hc, entries, h⟩; exact ⟨entries, c, hc, h⟩

theorem fileAt?_cons {n : String} {ns : List String} :
    t.fileAt? (n :: ns) = (t.child? n).bind (·.fileAt? ns) := by
  unfold fileAt?
  rw [at?_cons]
  cases t.child? n <;> rfl

/-! ## Something new -/

/-- Nothing stands below: a file, or a directory without entries. -/
def IsLeaf (t : FileTree) : Prop := ∀ n, t.child? n = none

theorem isLeaf_file (text : Option String) : (file text).IsLeaf := fun _ => rfl

theorem isLeaf_empty : empty.IsLeaf := fun _ => rfl

theorem child?_putAt_self (entries : List (String × FileTree)) (n : String) (ns : List String)
    (new : FileTree) : ((directory entries).putAt (n :: ns) new).child? n =
      some ((((directory entries).child? n).getD empty).putAt ns new) := by
  rw [putAt, child?, Fields.get?_put_self]
  rfl

theorem child?_putAt_of_ne (entries : List (String × FileTree)) {n m : String} (h : m ≠ n)
    (ns : List String) (new : FileTree) :
    ((directory entries).putAt (n :: ns) new).child? m = (directory entries).child? m := by
  rw [putAt, child?, Fields.get?_put_of_ne _ _ h]
  rfl

/-- What a place shows: the text of a file; none for a directory. -/
def label : FileTree → Option (Option String)
  | file text => some text
  | directory _ => none

/-- What stands at a place, without what stands below it. -/
def labelAt? (t : FileTree) (loc : List String) : Option (Option (Option String)) :=
  (t.at? loc).map label

theorem labelAt?_cons {n : String} {ns : List String} :
    t.labelAt? (n :: ns) = (t.child? n).bind (·.labelAt? ns) := by
  rw [labelAt?, at?_cons]
  cases t.child? n <;> rfl

theorem fileAt?_eq_join : t.fileAt? loc = (t.labelAt? loc).join := by
  unfold fileAt? labelAt?
  cases t.at? loc with
  | none => rfl
  | some u => cases u <;> rfl

theorem isDirAt_iff_labelAt? : t.IsDirAt loc ↔ t.labelAt? loc = some none := by
  unfold IsDirAt labelAt?
  cases t.at? loc with
  | none => simp
  | some u => cases u <;> simp [label]

/-- Below what is no directory there is nothing. -/
theorem labelAt?_eq_none {rest : List String} (h : ¬ t.IsDirAt loc) (hrest : rest ≠ []) :
    t.labelAt? (loc ++ rest) = none := by
  rw [labelAt?, Option.map_eq_none_iff, ← Option.not_isSome_iff_eq_none]
  exact fun hsome => h (.of_isSome_at? hsome hrest)

/-- **A tree with something new in it**: a file, or an empty directory, is put where no directory
has been, and everything else stays. -/
theorem labelAt?_putAt (hdir : t.IsDirAt dir) (hfree : ¬ t.IsDirAt (dir ++ [name]))
    (hnew : new.IsLeaf) :
    (t.putAt (dir ++ [name]) new).labelAt? =
      Function.update t.labelAt? (dir ++ [name]) (some new.label) := by
  funext p
  induction dir generalizing t p with
  | nil =>
    obtain ⟨entries, ht⟩ := hdir
    obtain rfl : t = directory entries := by simpa [at?] using ht
    rw [List.nil_append] at hfree ⊢
    cases p with
    | nil => rfl
    | cons m ms =>
      by_cases hm : m = name
      · subst hm
        rw [labelAt?_cons, child?_putAt_self]
        cases ms with
        | nil => rw [Function.update_self]; rfl
        | cons k ks =>
          -- Below the place there was nothing before, and there is nothing now.
          have hnone := labelAt?_eq_none hfree (List.cons_ne_nil k ks)
          rw [List.singleton_append] at hnone
          rw [Function.update_of_ne (by simp), hnone]
          simp only [putAt, Option.bind_some, labelAt?_cons, hnew k, Option.bind_none]
      · rw [labelAt?_cons, child?_putAt_of_ne _ hm, Function.update_of_ne (by simp [hm]),
          labelAt?_cons]
  | cons n ns ih =>
    obtain ⟨c, hc, hns⟩ := isDirAt_cons.1 hdir
    cases t with
    | file text => cases hc
    | directory entries =>
      have hfree' : ¬ c.IsDirAt (ns ++ [name]) := fun h => hfree (isDirAt_cons.2 ⟨c, hc, h⟩)
      cases p with
      | nil => rfl
      | cons m ms =>
        rw [List.cons_append, labelAt?_cons]
        by_cases hm : m = n
        · subst hm
          rw [child?_putAt_self, hc, Option.getD_some, Option.bind_some, ih hns hfree']
          by_cases hms : ms = ns ++ [name]
          · rw [hms, Function.update_self, Function.update_self]
          · rw [Function.update_of_ne hms, Function.update_of_ne (by simp [hms]), labelAt?_cons, hc]
            rfl
        · rw [child?_putAt_of_ne _ hm, Function.update_of_ne (by simp [hm]), labelAt?_cons]

/-- The files of a tree with something new in it. -/
theorem fileAt?_putAt (hdir : t.IsDirAt dir) (hfree : ¬ t.IsDirAt (dir ++ [name]))
    (hnew : new.IsLeaf) :
    (t.putAt (dir ++ [name]) new).fileAt? =
      Function.update t.fileAt? (dir ++ [name]) (new.fileAt? []) := by
  funext p
  rw [fileAt?_eq_join, labelAt?_putAt hdir hfree hnew]
  by_cases hp : p = dir ++ [name]
  · rw [hp, Function.update_self, Function.update_self, fileAt?_eq_join]
    rfl
  · rw [Function.update_of_ne hp, Function.update_of_ne hp, fileAt?_eq_join]

/-- The directories of a tree with something new in it. -/
theorem isDirAt_putAt (hdir : t.IsDirAt dir) (hfree : ¬ t.IsDirAt (dir ++ [name]))
    (hnew : new.IsLeaf) :
    (t.putAt (dir ++ [name]) new).IsDirAt p ↔
      t.IsDirAt p ∨ p = dir ++ [name] ∧ new.IsDirAt [] := by
  rw [isDirAt_iff_labelAt?, labelAt?_putAt hdir hfree hnew]
  by_cases hp : p = dir ++ [name]
  · rw [hp, Function.update_self, or_iff_right hfree, isDirAt_iff_labelAt?]
    simp [labelAt?, at?]
  · rw [Function.update_of_ne hp, ← isDirAt_iff_labelAt?, or_iff_left (fun h => hp h.1)]

/-! ## Order -/

/-- A tree as a disk has it: the entries of a directory stand in the order of their names, each name
once, and every name can stand in a path. -/
inductive WellFormed : FileTree → Prop
  | file (text : Option String) : WellFormed (.file text)
  | directory {entries : List (String × FileTree)} (order : entries.Pairwise (·.1 < ·.1))
      (names : ∀ e ∈ entries, Path.IsName e.1) (each : ∀ e ∈ entries, WellFormed e.2) :
      WellFormed (.directory entries)

namespace WellFormed

theorem empty : FileTree.empty.WellFormed :=
  .directory .nil (List.forall_mem_nil _) (List.forall_mem_nil _)

theorem child? {c : FileTree} (h : t.WellFormed) (hc : t.child? name = some c) :
    Path.IsName name ∧ c.WellFormed := by
  cases h with
  | file text => cases hc
  | directory order names each =>
    have hmem := Fields.mem_of_get?_eq_some hc
    exact ⟨names _ hmem, each _ hmem⟩

/-- What stands in a well-formed tree is well formed, and the names that lead to it can stand in a
path. -/
theorem at? {u : FileTree} (h : t.WellFormed) (hu : t.at? loc = some u) :
    (∀ n ∈ loc, Path.IsName n) ∧ u.WellFormed := by
  induction loc generalizing t with
  | nil => cases hu; exact ⟨List.forall_mem_nil _, h⟩
  | cons n ns ih =>
    obtain ⟨c, hc, hu⟩ := Option.bind_eq_some_iff.1 hu
    obtain ⟨hn, hwf⟩ := h.child? hc
    obtain ⟨hns, hwf⟩ := ih hwf hu
    exact ⟨List.forall_mem_cons.2 ⟨hn, hns⟩, hwf⟩

theorem putAt (h : t.WellFormed) (hloc : ∀ n ∈ loc, Path.IsName n) (hnew : new.WellFormed) :
    (t.putAt loc new).WellFormed := by
  induction loc generalizing t with
  | nil => exact hnew
  | cons n ns ih =>
    obtain ⟨hn, hns⟩ := List.forall_mem_cons.1 hloc
    cases h with
    | file text => exact .file text
    | @directory entries order names each =>
      have hinner : (((Fields.get? entries n).getD FileTree.empty).putAt ns new).WellFormed := by
        refine ih ?_ hns
        cases hc : Fields.get? entries n with
        | none => exact .empty
        | some c => exact each _ (Fields.mem_of_get?_eq_some hc)
      refine .directory (Fields.pairwise_put order) (fun e he => ?_) fun e he => ?_
      · rcases Fields.mem_of_mem_put he with rfl | he
        exacts [hn, names e he]
      · rcases Fields.mem_of_mem_put he with rfl | he
        exacts [hinner, each e he]

end WellFormed
end FileTree
end CaseSheet

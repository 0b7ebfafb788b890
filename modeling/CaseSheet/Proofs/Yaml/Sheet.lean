import CaseSheet.Proofs.Row
import CaseSheet.Proofs.Yaml.Node
import Mathlib.Data.List.Forall2
/-!
# Sheets in YAML read back

The document of a written sheet is taken apart into the cases that it was written from.

* `caseOfSpot_of_isCase`, `casesOfDocument_of_isSheet`: the mapping of a case, and a document.
* `readYaml_writeYaml`: a written sheet reads back, if each case has an id.
-/

namespace CaseSheet.Sheet

open Yaml Yaml.Node

/-! ## Taking a document apart -/

section Spot

variable {s : Spot} {m : Mark} {p : Properties Nat}

theorem followed_of_mapping {es : List (LinkedNode × LinkedNode)} (h : s.node = .mapping m p es) :
    s.followed = s := by
  obtain ⟨d, path, n⟩ := s
  subst h
  rfl

/-- The spots of an entry of a mapping. -/
def entrySpots (s : Spot) (e : LinkedNode × LinkedNode) : Spot × Spot :=
  ({ s with node := e.1 }, { s with path := s.path ++ [Spot.stepOf e.1], node := e.2 })

theorem entries_of_mapping {es : List (LinkedNode × LinkedNode)} (h : s.node = .mapping m p es)
    (wanted : String) : s.entries wanted = .ok (es.map (entrySpots s)) := by
  obtain ⟨d, path, n⟩ := s
  subst h
  rfl

theorem items_of_sequence {ns : List LinkedNode} (h : s.node = .sequence m p ns)
    (wanted : String) : s.items wanted = .ok (s.itemsFrom 0 ns) := by
  obtain ⟨d, path, n⟩ := s
  subst h
  rfl

end Spot

theorem text_of_isText {s : Spot} {t : String} (h : IsText t.toList s.node) (wanted : String) :
    s.text wanted = .ok t := by
  obtain ⟨m, style, hnode⟩ := h
  simp [Spot.text, Spot.followed, hnode, Document.follow, String.ofList_toList]

/-- The entry of a column that has not come yet fills its cell. -/
theorem fillEntry_of_isColumn {c : TestCase} {k : Column} {entry : Spot × Spot} (s : Spot)
    {ks : List Column} (h : IsColumn c k (entry.1.node, entry.2.node)) (hk : k ∉ ks) :
    fillEntry s (c.cellsOf ks) entry = .ok (c.cellsOf (ks ++ [k])) := by
  have hkey := text_of_isText h.1 "field identifier"
  have hvalue := text_of_isText h.2 "a string"
  have hname := Column.ofName?_title k
  have hfree : (c.cellsOf ks).has k = false := TestCase.has_cellsOf hk
  unfold fillEntry
  simp only [hkey, hvalue, hname, hfree, bind, Except.bind, Bool.false_eq_true, if_false,
    TestCase.cellsOf_append]
  rfl

theorem foldlM_fillEntry {c : TestCase} (s : Spot) {ks : List Column}
    {entries : List (Spot × Spot)} (before : List Column)
    (h : List.Forall₂ (fun k (e : Spot × Spot) => IsColumn c k (e.1.node, e.2.node)) ks entries)
    (hks : (before ++ ks).Nodup) :
    entries.foldlM (fillEntry s) (c.cellsOf before) = .ok (c.cellsOf (before ++ ks)) := by
  induction h generalizing before with
  | nil => rw [List.append_nil]; rfl
  | @cons k e ks entries hcolumn _ ih =>
    have hk : k ∉ before := by
      intro hmem
      exact (List.nodup_append.1 hks).2.2 k hmem k List.mem_cons_self rfl
    have hfill := fillEntry_of_isColumn s hcolumn hk
    rw [List.append_cons] at hks ⊢
    rw [List.foldlM_cons, hfill]
    exact ih (before ++ [k]) hks

/-- **A case** is read from the mapping of its columns. -/
theorem caseOfSpot_of_isCase {c : TestCase} {s : Spot} (h : IsCase c s.node) :
    caseOfSpot s = .ok c := by
  obtain ⟨m, entries, hnode, hentries⟩ := h
  have hspots := entries_of_mapping hnode "struct TestCase"
  have hfollowed := followed_of_mapping hnode
  have hcolumns : List.Forall₂ (fun k (e : Spot × Spot) => IsColumn c k (e.1.node, e.2.node))
      Column.all (entries.map (entrySpots s)) := List.forall₂_map_right_iff.2 hentries
  have hfill : (entries.map (entrySpots s)).foldlM (fillEntry s) [] =
      .ok (c.cellsOf Column.all) := foldlM_fillEntry s [] hcolumns Column.nodup_all
  unfold caseOfSpot
  simp only [hspots, hfollowed, hfill, bind, Except.bind, TestCase.row_cellsOf]

theorem mapM_caseOfSpot (s : Spot) (i : Nat) {cases : List TestCase} {items : List LinkedNode}
    (h : List.Forall₂ IsCase cases items) :
    (s.itemsFrom i items).mapM caseOfSpot = .ok cases := by
  induction h generalizing i with
  | nil => rfl
  | cons hcase _ ih =>
    rw [Spot.itemsFrom, List.mapM_cons, caseOfSpot_of_isCase hcase, ih (i + 1)]
    rfl

/-- **The cases** are read from the document of a sheet. -/
theorem casesOfDocument_of_isSheet {cases : List TestCase} {d : Document}
    (h : IsSheet cases d.root) : casesOfDocument d = .ok cases := by
  obtain ⟨m, m', k, items, hroot, hk, hitems⟩ := h
  let s := Spot.ofDocument d
  let key : Spot := { s with node := k }
  let list : Spot := { s with path := [Spot.stepOf k], node := .sequence m' .none items }
  have hnode : s.node = .mapping m .none [(k, .sequence m' .none items)] := hroot
  have hspots : s.entries "struct CaseFile" = .ok [(key, list)] :=
    entries_of_mapping hnode "struct CaseFile"
  have hkey : key.text "field identifier" = .ok casesKey := text_of_isText hk "field identifier"
  have hlist : list.items "a sequence" = .ok (list.itemsFrom 0 items) :=
    items_of_sequence rfl "a sequence"
  have hcases : casesOfSpot list = .ok cases := by
    unfold casesOfSpot
    rw [hlist]
    exact mapM_caseOfSpot list 0 hitems
  have htake : takeCases s none (key, list) = .ok (some cases) := by
    unfold takeCases
    simp only [hkey, hcases, bind, Except.bind]
    rfl
  have hfold : [(key, list)].foldlM (takeCases s) none = .ok (some cases) := by
    rw [List.foldlM_cons, htake]
    rfl
  unfold casesOfDocument
  change (s.entries "struct CaseFile" >>= fun entries => _) = _
  rw [hspots]
  change (([(key, list)].foldlM (takeCases s) none) >>= _) = _
  rw [hfold]
  rfl

/-! ## Round trip -/

/-- **A written sheet reads back**: all cases if each id has a character that is not blank, and
otherwise a problem with the first case without one, by its number. -/
theorem readYaml_writeYaml (cases : List TestCase) :
    readYaml (writeYaml cases) =
      match cases.findIdx? fun c => c.id.toList.all Text.isBlank with
      | none => .ok cases
      | some i => .error (.missingId (i + 1)) := by
  obtain ⟨d, hread, hsheet⟩ := readDocument?_writeYaml cases
  have hcases := casesOfDocument_of_isSheet hsheet
  refine Eq.trans ?_ (TestCase.withIds_eq cases)
  simp only [readYaml, hread, hcases]

end CaseSheet.Sheet

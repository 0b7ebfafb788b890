import CaseSheet.Sheet.Problem
import Mathlib.Data.List.Nodup
/-!
# Rows and ids

What both formats of a sheet have in common once their texts are taken apart: a row is put together
from cells, and all rows must have an id.

* `Column.ofName?_eq_some_iff`: a column is found by its title and by its English name.
* `Cells.fillAll_eq_ok_iff`: cells fill up as long as no column comes twice.
* `TestCase.ofCells_eq_ok_iff`: which case texts under names make up, if any.
* `TestCase.withIds_eq`: which case is reported for want of an id.
-/

namespace CaseSheet

theorem Column.ofName?_title (k : Column) : ofName? k.title = some k := by
  cases k <;> decide

theorem Column.ofName?_eq_some_iff {s : String} {k : Column} :
    ofName? s = some k ↔ s = k.title ∨ s = k.englishName := by
  constructor
  · intro h
    have hfound := List.find?_some h
    rw [Bool.or_eq_true, beq_iff_eq, beq_iff_eq] at hfound
    exact hfound.imp Eq.symm Eq.symm
  · rintro (rfl | rfl)
    · exact ofName?_title k
    · cases k <;> decide

theorem Column.nodup_all : all.Nodup := by decide

/-! ## Cells under names -/

namespace Cells

variable {cells cells' : Cells} {pairs : List (String × String)} {k : Column} {s : String}

/-- The cells that texts under names fill. -/
def filled (pairs : List (String × String)) : Cells :=
  pairs.filterMap fun p => (Column.ofName? p.1).map fun k => (k, p.2)

theorem mem_filled : (k, s) ∈ filled pairs ↔ ∃ name, (name, s) ∈ pairs ∧
    Column.ofName? name = some k := by
  simp only [filled, List.mem_filterMap, Option.map_eq_some_iff, Prod.mk.injEq, Prod.exists]
  constructor
  · rintro ⟨name, _, hmem, k, hname, rfl, rfl⟩
    exact ⟨name, hmem, hname⟩
  · rintro ⟨name, hmem, hname⟩
    exact ⟨name, s, hmem, k, hname, rfl, rfl⟩

theorem has_iff : cells.has k = true ↔ k ∈ cells.map Prod.fst := by
  rw [has, List.lookup_isSome_iff, List.mem_map]
  exact exists_congr fun p => and_congr_right fun _ => by rw [beq_iff_eq, eq_comm]

/-- Cells fill up one by one, as long as no column comes twice. -/
theorem fillAll_eq_ok_iff (h : (cells.map Prod.fst).Nodup) :
    cells.fillAll pairs = .ok cells' ↔
      ((cells ++ filled pairs).map Prod.fst).Nodup ∧ cells ++ filled pairs = cells' := by
  induction pairs generalizing cells with
  | nil => simp [fillAll, filled, h]
  | cons p pairs ih =>
    obtain ⟨name, s⟩ := p
    rw [fillAll, fill]
    cases hname : Column.ofName? name with
    | none =>
      have hfilled : filled ((name, s) :: pairs) = filled pairs := by simp [filled, hname]
      rw [hfilled]
      exact ih h
    | some k =>
      have hfilled : filled ((name, s) :: pairs) = [(k, s)] ++ filled pairs := by
        simp [filled, hname]
      rw [hfilled, ← List.append_assoc]
      by_cases hk : k ∈ cells.map Prod.fst
      · -- The column has been filled, so its second text is refused.
        simp only [has_iff.2 hk, if_true, reduceCtorEq, false_iff, not_and]
        intro hnodup
        rw [List.append_assoc, List.map_append, List.nodup_append] at hnodup
        exact absurd rfl (hnodup.2.2 k hk k (by simp))
      · have hhas : cells.has k = false := by
          rw [← Bool.not_eq_true, has_iff]
          exact hk
        simp only [hhas, Bool.false_eq_true, if_false]
        refine ih ?_
        rw [List.map_append, List.nodup_append]
        refine ⟨h, by simp, ?_⟩
        rintro l hl _ hl' rfl
        obtain rfl : l = k := by simpa using hl'
        exact hk hl

/-- Of columns that come once, each has the text that it was filled with. -/
theorem lookup_eq_some_iff_mem (h : (cells.map Prod.fst).Nodup) :
    cells.lookup k = some s ↔ (k, s) ∈ cells := by
  rw [List.lookup_eq_some_iff]
  constructor
  · rintro ⟨before, after, rfl, -⟩
    simp
  · intro hmem
    obtain ⟨before, after, rfl⟩ := List.append_of_mem hmem
    refine ⟨before, after, rfl, fun p hp => ?_⟩
    rw [List.map_append, List.nodup_append] at h
    rw [bne_iff_ne]
    exact (h.2.2 p.1 (List.mem_map_of_mem hp) k (by simp)).symm

theorem cell_eq_ok_iff (h : (cells.map Prod.fst).Nodup) :
    cells.cell k = .ok s ↔
      (k, s) ∈ cells ∨ k ∉ cells.map Prod.fst ∧ k.isOptional = true ∧ s = "" := by
  rw [← lookup_eq_some_iff_mem h, ← has_iff, has, cell]
  cases hlookup : cells.lookup k with
  | some t => simp
  | none => cases k.isOptional <;> simp [eq_comm]

theorem bind_eq_ok_iff {ε α β : Type} {x : Except ε α} {f : α → Except ε β} {b : β} :
    x >>= f = .ok b ↔ ∃ a, x = .ok a ∧ f a = .ok b := by
  cases x with
  | error e => exact ⟨nofun, fun ⟨a, ha, _⟩ => nomatch ha⟩
  | ok a => exact ⟨fun h => ⟨a, rfl, h⟩, fun ⟨_, ha, h⟩ => Except.ok.inj ha ▸ h⟩

/-- A row is a case if each of its cells is that of the case. -/
theorem row_eq_ok_iff {c : TestCase} : cells.row = .ok c ↔ ∀ k, cells.cell k = .ok (c.cell k) := by
  constructor
  · intro h
    simp only [row, bind_eq_ok_iff] at h
    obtain ⟨id, hid, category, hcategory, name, hname, precondition, hprecondition, steps, hsteps,
      expected, hexpected, notes, hnotes, hcase⟩ := h
    obtain rfl := Except.ok.inj hcase
    intro k
    cases k <;> assumption
  · intro h
    simp only [row, h]
    rfl

end Cells

namespace TestCase

variable {c : TestCase} {ks : List Column} {k : Column}

/-- The cells of a case under some of the columns. -/
def cellsOf (c : TestCase) (columns : List Column) : Cells := columns.map fun k => (k, c.cell k)

@[simp] theorem cellsOf_append (c : TestCase) (ks ls : List Column) :
    c.cellsOf (ks ++ ls) = c.cellsOf ks ++ c.cellsOf ls := List.map_append

theorem map_fst_cellsOf (c : TestCase) (ks : List Column) : (c.cellsOf ks).map Prod.fst = ks := by
  rw [cellsOf, List.map_map]
  exact List.map_id ks

/-- Only the columns that have been filled have a cell. -/
theorem has_cellsOf (h : k ∉ ks) : (c.cellsOf ks).has k = false := by
  rw [← Bool.not_eq_true, Cells.has_iff, map_fst_cellsOf]
  exact h

/-- **The cells of a case make up the case.** -/
theorem row_cellsOf (c : TestCase) : (c.cellsOf Column.all).row = .ok c := rfl

/-- **Texts under names make up a case** if no column is named twice and each has the text of the
case; a column that may be left out is empty in the case if no text goes to it. -/
theorem ofCells_eq_ok_iff {pairs : List (String × String)} {c : TestCase} :
    ofCells pairs = .ok c ↔
      ((Cells.filled pairs).map Prod.fst).Nodup ∧
        ∀ k, (Cells.filled pairs).cell k = .ok (c.cell k) := by
  have hfill : ∀ cells', Cells.fillAll [] pairs = .ok cells' ↔
      ((Cells.filled pairs).map Prod.fst).Nodup ∧ Cells.filled pairs = cells' :=
    fun _ => Cells.fillAll_eq_ok_iff List.nodup_nil
  rw [ofCells, ← Cells.row_eq_ok_iff]
  cases hcells : Cells.fillAll [] pairs with
  | error e =>
    constructor
    · rintro ⟨⟩
    · rintro ⟨hnodup, -⟩
      rw [(hfill _).2 ⟨hnodup, rfl⟩] at hcells
      cases hcells
  | ok cells =>
    obtain ⟨hnodup, rfl⟩ := (hfill cells).1 hcells
    exact (and_iff_right hnodup).symm

/-- Texts that fill the cells of a case make up the case. -/
theorem ofCells_of_filled {pairs : List (String × String)}
    (h : Cells.filled pairs = c.cellsOf Column.all) : ofCells pairs = .ok c := by
  rw [ofCells_eq_ok_iff, h, map_fst_cellsOf]
  exact ⟨Column.nodup_all, Cells.row_eq_ok_iff.1 c.row_cellsOf⟩

/-- Texts under titles fill the cells of these columns. -/
theorem filled_titles (c : TestCase) (ks : List Column) :
    Cells.filled (ks.map fun k => (k.title, c.cell k)) = c.cellsOf ks := by
  simp [Cells.filled, List.filterMap_map, Column.ofName?_title, cellsOf]

/-! ## Ids -/

/-- The first case without an id is the first whose id has no character other than blanks. -/
theorem firstWithoutId?_eq (next : Nat) (cases : List TestCase) :
    firstWithoutId? next cases =
      (cases.findIdx? fun c => c.id.toList.all Text.isBlank).map (· + next) := by
  induction cases generalizing next with
  | nil => rfl
  | cons c cs ih =>
    rw [firstWithoutId?, List.findIdx?_cons, ih]
    cases hc : isBlankText c.id with
    | true =>
      have hall : c.id.toList.all Text.isBlank = true := hc
      simp [hall]
    | false =>
      have hall : c.id.toList.all Text.isBlank = false := hc
      simp only [hall, Bool.false_eq_true, if_false, Option.map_map]
      congr 1
      funext i
      simp only [Function.comp_apply]
      omega

/-- **Ids are asked for**: cases are accepted if each id has a character that is not blank, and
otherwise the first without one is reported by its number, counted from one. -/
theorem withIds_eq (cases : List TestCase) :
    withIds cases = match cases.findIdx? fun c => c.id.toList.all Text.isBlank with
      | none => .ok cases
      | some i => .error (.missingId (i + 1)) := by
  rw [withIds, firstWithoutId?_eq]
  cases cases.findIdx? fun c => c.id.toList.all Text.isBlank <;> rfl

end TestCase
end CaseSheet

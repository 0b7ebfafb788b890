import CaseSheet.Fields
import Mathlib.Data.List.Induction
import Mathlib.Data.String.Basic
/-!
# Fields in order

* `Fields.pairwise_put`: fields stay in order.
* `Fields.get?_eq_some_iff`: a value is found by its key.
* `Fields.ofList_of_pairwise`: fields that are in order are left as they are.
-/
namespace CaseSheet.Fields

variable {α : Type} {k : String} {v : α} {fs : Fields α}

theorem mem_of_mem_put {f : String × α} (h : f ∈ put k v fs) : f = (k, v) ∨ f ∈ fs := by
  induction fs with
  | nil => exact .inl (List.mem_singleton.1 h)
  | cons g gs ih =>
    rw [put] at h
    split at h
    · exact List.mem_cons.1 h
    · split at h
      · exact (List.mem_cons.1 h).imp_right (List.mem_cons_of_mem g)
      · rcases List.mem_cons.1 h with rfl | h
        · exact .inr List.mem_cons_self
        · exact (ih h).imp_right (List.mem_cons_of_mem g)

/-- Fields stay in order. -/
theorem pairwise_put (h : fs.Pairwise (·.1 < ·.1)) : (put k v fs).Pairwise (·.1 < ·.1) := by
  induction fs with
  | nil => exact List.pairwise_singleton _ _
  | cons f fs ih =>
    obtain ⟨hf, hfs⟩ := List.pairwise_cons.1 h
    rw [put]
    split
    · next hk =>
      refine List.pairwise_cons.2 ⟨fun g hg => ?_, h⟩
      rcases List.mem_cons.1 hg with rfl | hg
      · exact hk
      · exact String.lt_trans hk (hf g hg)
    · next hk =>
      split
      · next heq =>
        subst heq
        exact List.pairwise_cons.2 ⟨hf, hfs⟩
      · next hne =>
        refine List.pairwise_cons.2 ⟨fun g hg => ?_, ih hfs⟩
        rcases mem_of_mem_put hg with rfl | hg
        · exact lt_of_le_of_ne (not_lt.1 hk) (Ne.symm hne)
        · exact hf g hg

theorem mem_of_get?_eq_some (h : get? fs k = some v) : (k, v) ∈ fs := by
  obtain ⟨⟨k', v'⟩, hfind, rfl⟩ := Option.map_eq_some_iff.1 h
  have hk : k' = k := by simpa using List.find?_some hfind
  exact hk ▸ List.mem_of_find?_eq_some hfind

/-- Among fields in order the value of a key is the one that stands with it. -/
theorem get?_eq_some_iff (h : fs.Pairwise (·.1 < ·.1)) : get? fs k = some v ↔ (k, v) ∈ fs := by
  refine ⟨mem_of_get?_eq_some, fun hmem => ?_⟩
  induction fs with
  | nil => cases hmem
  | cons f fs ih =>
    obtain ⟨hf, hfs⟩ := List.pairwise_cons.1 h
    rcases List.mem_cons.1 hmem with rfl | hmem
    · simp [get?]
    · have hne : (f.1 == k) = false := beq_eq_false_iff_ne.2 (ne_of_lt (hf _ hmem))
      rw [get?, List.find?_cons, hne]
      exact ih hfs hmem

theorem put_of_forall_lt (h : ∀ f ∈ fs, f.1 < k) : put k v fs = fs ++ [(k, v)] := by
  induction fs with
  | nil => rfl
  | cons f fs ih =>
    obtain ⟨hf, hfs⟩ := List.forall_mem_cons.1 h
    rw [put, if_neg (not_lt_of_gt hf), if_neg (ne_of_gt hf), ih hfs, List.cons_append]

theorem ofList_append (pairs : List (String × α)) (f : String × α) :
    ofList (pairs ++ [f]) = put f.1 f.2 (ofList pairs) := by
  rw [ofList, List.foldl_append]
  rfl

/-- Fields that are in order are left as they are. -/
theorem ofList_of_pairwise (h : fs.Pairwise (·.1 < ·.1)) : ofList fs = fs := by
  induction fs using List.reverseRecOn with
  | nil => rfl
  | append_singleton fs f ih =>
    obtain ⟨hfs, -, hlast⟩ := List.pairwise_append.1 h
    rw [ofList_append, ih hfs]
    exact put_of_forall_lt fun g hg => hlast g hg f List.mem_cons_self

/-! ## Values under the same keys -/

/-- Only keys are compared. -/
theorem put_map {β : Type} (g : α → β) (k : String) (v : α) (fs : Fields α) :
    put k (g v) (fs.map (Prod.map id g)) = (put k v fs).map (Prod.map id g) := by
  induction fs with
  | nil => rfl
  | cons f fs ih =>
    obtain ⟨k', v'⟩ := f
    rw [List.map_cons, Prod.map_apply, id_eq, put, put]
    split
    · rfl
    · split
      · rfl
      · rw [ih]
        rfl

theorem ofList_map {β : Type} (g : α → β) (pairs : List (String × α)) :
    ofList (pairs.map (Prod.map id g)) = (ofList pairs).map (Prod.map id g) := by
  induction pairs using List.reverseRecOn with
  | nil => rfl
  | append_singleton pairs f ih =>
    rw [List.map_append, List.map_singleton, ofList_append, ofList_append, ih]
    exact put_map g f.1 f.2 _

end CaseSheet.Fields

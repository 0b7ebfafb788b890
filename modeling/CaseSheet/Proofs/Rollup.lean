import CaseSheet.Summary
import Mathlib.Algebra.Ring.Nat
import Mathlib.Data.List.Basic
import Mathlib.Data.List.Induction
import Mathlib.Data.List.Nodup
import Mathlib.Data.List.Perm.Basic
/-!
# Summaries by category part a run

Outcomes are counted one after the other, each under its category. The counts of a category come out
as those of its own outcomes (`rollup`), whatever stands between them, and the categories in the
order in which they first occur. Each outcome belongs to one category, so the counts of the
categories add up to those of the run, which are taken in a pass of their own.

* `CategorySummary.add_rollups`: one more outcome.
* `CategorySummary.ofOutcomes_eq`: the summaries of a run.
* `CategorySummary.perm_flatMap_within`: categories part the outcomes.
* `RunSummary.rollsUp_ofOutcomes`: all of it for the summary of a run.
-/
namespace CaseSheet

/-! ## Categories -/

/-- The categories of outcomes, each once, in the order in which they first occur. -/
def categoriesOf (os : List CaseOutcome) : List String := (os.map CaseOutcome.category).eraseDups

section Categories

variable {os : List CaseOutcome} {o : CaseOutcome} {c : String}

theorem mem_categoriesOf_iff_mem_map :
    c ∈ categoriesOf os ↔ c ∈ os.map CaseOutcome.category := List.mem_eraseDups

theorem mem_categoriesOf : c ∈ categoriesOf os ↔ ∃ o ∈ os, o.category = c :=
  mem_categoriesOf_iff_mem_map.trans List.mem_map

theorem categoriesOf_of_mem (h : o.category ∈ categoriesOf os) :
    categoriesOf (os ++ [o]) = categoriesOf os := by
  have hnone : [o.category].removeAll (os.map CaseOutcome.category) = [] := by
    rw [List.removeAll, List.filter_eq_nil_iff]
    simpa using mem_categoriesOf.1 h
  rw [categoriesOf, List.map_append, List.map_singleton, List.eraseDups_append, hnone]
  exact List.append_nil _

theorem categoriesOf_of_not_mem (h : o.category ∉ categoriesOf os) :
    categoriesOf (os ++ [o]) = categoriesOf os ++ [o.category] := by
  have hnew : [o.category].removeAll (os.map CaseOutcome.category) = [o.category] := by
    rw [List.removeAll, List.filter_eq_self]
    simpa using mt mem_categoriesOf.2 h
  rw [categoriesOf, List.map_append, List.map_singleton, List.eraseDups_append, hnew]
  rfl

/-- Before in the first list is before in the list of all categories. -/
theorem pairwise_categoriesOf (os : List CaseOutcome) :
    (categoriesOf os).Pairwise fun c d =>
      (os.map CaseOutcome.category).idxOf c < (os.map CaseOutcome.category).idxOf d := by
  induction os using List.reverseRecOn with
  | nil => exact .nil
  | append_singleton os o ih =>
    have hsame : ∀ c ∈ categoriesOf os, ((os ++ [o]).map CaseOutcome.category).idxOf c =
        (os.map CaseOutcome.category).idxOf c := by
      intro c hc
      rw [List.map_append, List.idxOf_append_of_mem (mem_categoriesOf_iff_mem_map.1 hc)]
    have hold : (categoriesOf os).Pairwise fun c d =>
        ((os ++ [o]).map CaseOutcome.category).idxOf c <
          ((os ++ [o]).map CaseOutcome.category).idxOf d := by
      refine ih.imp_of_mem fun {c d} hc hd hlt => ?_
      rwa [hsame c hc, hsame d hd]
    by_cases h : o.category ∈ categoriesOf os
    · rwa [categoriesOf_of_mem h]
    · rw [categoriesOf_of_not_mem h, List.pairwise_append]
      refine ⟨hold, List.pairwise_singleton _ _, fun c hc d hd => ?_⟩
      obtain rfl := List.mem_singleton.1 hd
      have hnew : o.category ∉ os.map CaseOutcome.category := mt mem_categoriesOf_iff_mem_map.2 h
      -- The new category stands behind all outcomes so far.
      have hlt := List.idxOf_lt_length_of_mem (mem_categoriesOf_iff_mem_map.1 hc)
      rw [hsame c hc, List.map_append, List.idxOf_append_of_notMem hnew]
      omega

theorem nodup_categoriesOf (os : List CaseOutcome) : (categoriesOf os).Nodup := by
  refine (pairwise_categoriesOf os).imp fun {c d} hlt => ?_
  rintro rfl
  exact Nat.lt_irrefl _ hlt

end Categories

namespace CategorySummary

variable {os : List CaseOutcome} {o : CaseOutcome} {c : String} {cs : List String}

/-- The outcomes of a category. -/
def within (os : List CaseOutcome) (c : String) : List CaseOutcome :=
  os.filter fun o => o.category = c

/-- The counts of a category, taken from its own outcomes. -/
def rollup (os : List CaseOutcome) (c : String) : CategorySummary where
  category := c
  total := (within os c).length
  passed := ((within os c).filter (·.passed)).length
  failedIds := ((within os c).filter (!·.passed)).map CaseOutcome.id

/-! ## Counting -/

theorem within_append_of_eq (os : List CaseOutcome) (o : CaseOutcome) :
    within (os ++ [o]) o.category = within os o.category ++ [o] := by
  simp [within]

theorem within_append_of_ne (h : o.category ≠ c) : within (os ++ [o]) c = within os c := by
  simp [within, h]

@[simp] theorem category_rollup (os : List CaseOutcome) (c : String) :
    (rollup os c).category = c := rfl

theorem rollup_append_of_ne (h : o.category ≠ c) : rollup (os ++ [o]) c = rollup os c := by
  rw [rollup, within_append_of_ne h]
  rfl

/-- One more outcome of a category is counted under it. -/
theorem count_rollup (os : List CaseOutcome) (o : CaseOutcome) :
    (rollup os o.category).count o = rollup (os ++ [o]) o.category := by
  rw [rollup, rollup, within_append_of_eq, count]
  cases h : o.passed <;> simp [h]

/-- Nothing has been counted of a category without outcomes. -/
theorem rollup_eq_empty (h : ∀ o ∈ os, o.category ≠ c) : rollup os c = empty c := by
  have hnone : within os c = [] := by
    rw [within, List.filter_eq_nil_iff]
    intro o ho
    simpa using h o ho
  rw [rollup, hnone]
  rfl

theorem map_rollup_append (h : o.category ∉ cs) :
    cs.map (rollup (os ++ [o])) = cs.map (rollup os) := by
  refine List.map_congr_left fun c hc => rollup_append_of_ne ?_
  rintro rfl
  exact h hc

theorem add_of_mem (hcs : cs.Nodup) (h : o.category ∈ cs) :
    add o (cs.map (rollup os)) = cs.map (rollup (os ++ [o])) := by
  induction cs with
  | nil => cases h
  | cons c cs ih =>
    obtain ⟨hc, hcs⟩ := List.nodup_cons.1 hcs
    rw [List.map_cons, List.map_cons, add, category_rollup]
    by_cases heq : c = o.category
    · subst heq
      rw [if_pos rfl, count_rollup, map_rollup_append hc]
    · have hmem : o.category ∈ cs := (List.mem_cons.1 h).resolve_left (Ne.symm heq)
      rw [if_neg heq, ih hcs hmem, rollup_append_of_ne (Ne.symm heq)]

theorem add_of_not_mem (h : o.category ∉ cs) (hnew : ∀ p ∈ os, p.category ≠ o.category) :
    add o (cs.map (rollup os)) = (cs ++ [o.category]).map (rollup (os ++ [o])) := by
  induction cs with
  | nil =>
    rw [List.map_nil, add, ← rollup_eq_empty hnew, count_rollup]
    rfl
  | cons c cs ih =>
    obtain ⟨hc, hcs⟩ := not_or.1 (mt List.mem_cons.2 h)
    rw [List.map_cons, List.cons_append, List.map_cons, add, category_rollup,
      if_neg (Ne.symm hc), ih hcs, rollup_append_of_ne hc]

/-- **One more outcome** changes the counts of its category, and adds the category if it is new. -/
theorem add_rollups (os : List CaseOutcome) (o : CaseOutcome) :
    add o ((categoriesOf os).map (rollup os)) =
      (categoriesOf (os ++ [o])).map (rollup (os ++ [o])) := by
  by_cases h : o.category ∈ categoriesOf os
  · rw [categoriesOf_of_mem h, add_of_mem (nodup_categoriesOf os) h]
  · have hnew : ∀ p ∈ os, p.category ≠ o.category := by
      intro p hp heq
      exact h (mem_categoriesOf.2 ⟨p, hp, heq⟩)
    rw [categoriesOf_of_not_mem h, add_of_not_mem h hnew]

/-- **The summaries of a run** are the counts of each category from its own outcomes. -/
theorem ofOutcomes_eq (os : List CaseOutcome) :
    ofOutcomes os = (categoriesOf os).map (rollup os) := by
  induction os using List.reverseRecOn with
  | nil => rfl
  | append_singleton os o ih =>
    rw [ofOutcomes] at ih ⊢
    rw [List.foldl_append, ih, List.foldl_cons, List.foldl_nil, add_rollups]

/-! ## Adding up -/

/-- **Categories part the outcomes.** -/
theorem perm_flatMap_within (hcs : cs.Nodup) (h : ∀ o ∈ os, o.category ∈ cs) :
    (cs.flatMap (within os)).Perm os := by
  induction cs generalizing os with
  | nil =>
    obtain rfl : os = [] := List.eq_nil_iff_forall_not_mem.2 fun o ho => List.not_mem_nil (h o ho)
    exact .nil
  | cons c cs ih =>
    obtain ⟨hc, hcs⟩ := List.nodup_cons.1 hcs
    let others := os.filter fun o => !decide (o.category = c)
    have hothers : cs.flatMap (within os) = cs.flatMap (within others) := by
      refine List.flatMap_congr fun d hd => ?_
      have hne : d ≠ c := fun heq => hc (heq ▸ hd)
      rw [within, within, List.filter_filter]
      refine List.filter_congr fun o _ => ?_
      by_cases hod : o.category = d <;> simp [hod, hne]
    have hmem : ∀ o ∈ others, o.category ∈ cs := by
      intro o ho
      obtain ⟨ho, hne⟩ := List.mem_filter.1 ho
      exact (List.mem_cons.1 (h o ho)).resolve_left (by simpa using hne)
    rw [List.flatMap_cons, hothers]
    exact ((ih hcs hmem).append_left _).trans (List.filter_append_perm _ os)

theorem perm_flatMap_categoriesOf (os : List CaseOutcome) :
    ((categoriesOf os).flatMap (within os)).Perm os :=
  perm_flatMap_within (nodup_categoriesOf os) fun o ho => mem_categoriesOf.2 ⟨o, ho, rfl⟩

/-- The outcomes with a property are those of all categories together. -/
theorem perm_flatMap_filter (p : CaseOutcome → Bool) (os : List CaseOutcome) :
    ((categoriesOf os).flatMap fun c => (within os c).filter p).Perm (os.filter p) := by
  rw [← List.filter_flatMap]
  exact (perm_flatMap_categoriesOf os).filter p

theorem sum_length_filter (p : CaseOutcome → Bool) (os : List CaseOutcome) :
    ((categoriesOf os).map fun c => ((within os c).filter p).length).sum =
      (os.filter p).length := by
  rw [← List.length_flatMap, (perm_flatMap_filter p os).length_eq]

theorem passed_add_length_failedIds (os : List CaseOutcome) (c : String) :
    (rollup os c).passed + (rollup os c).failedIds.length = (rollup os c).total := by
  simp only [rollup, List.length_map]
  exact (List.length_eq_length_filter_add _).symm

end CategorySummary

namespace RunSummary

open CategorySummary

/-- The outcomes that have not passed are counted as failed. -/
theorem failed_ofOutcomes (os : List CaseOutcome) :
    (ofOutcomes os).failed = (os.filter (!·.passed)).length := by
  have hsplit := List.length_eq_length_filter_add (l := os) CaseOutcome.passed
  change os.length - (os.filter CaseOutcome.passed).length = _
  omega

/-- Summaries part a run: each category once and in the order of its first outcome, with the counts
and the failing ids of its own outcomes; and together they make up the totals of the run. -/
structure RollsUp (os : List CaseOutcome) (run : RunSummary) : Prop where
  nodup : (run.categories.map (·.category)).Nodup
  mem_iff : ∀ c, c ∈ run.categories.map (·.category) ↔ ∃ o ∈ os, o.category = c
  ordered : (run.categories.map (·.category)).Pairwise fun c d =>
    (os.map CaseOutcome.category).idxOf c < (os.map CaseOutcome.category).idxOf d
  total : ∀ s ∈ run.categories, s.total = (os.filter fun o => o.category = s.category).length
  passed : ∀ s ∈ run.categories,
    s.passed = (os.filter fun o => o.category = s.category ∧ o.passed = true).length
  failedIds : ∀ s ∈ run.categories, s.failedIds =
    (os.filter fun o => o.category = s.category ∧ o.passed = false).map CaseOutcome.id
  /-- The subtraction in `CategorySummary.failed` takes no more than there is. -/
  passed_le_total : ∀ s ∈ run.categories, s.passed ≤ s.total
  passed_add_failed : ∀ s ∈ run.categories, s.passed + s.failedIds.length = s.total
  failed : ∀ s ∈ run.categories, s.failed = s.failedIds.length
  sum_total : (run.categories.map (·.total)).sum = run.total
  sum_passed : (run.categories.map (·.passed)).sum = run.passed
  sum_failed : (run.categories.map (·.failedIds.length)).sum = run.failed
  allPassed_iff : run.allPassed = true ↔ ∀ s ∈ run.categories, s.failedIds = []
  perm_failedIds : (run.categories.flatMap (·.failedIds)).Perm
    ((os.filter fun o => o.passed = false).map CaseOutcome.id)

/-- **Summaries by category part every run**, and agree with its totals. -/
theorem rollsUp_ofOutcomes (os : List CaseOutcome) : RollsUp os (ofOutcomes os) := by
  have hcategories : (ofOutcomes os).categories = (categoriesOf os).map (rollup os) :=
    CategorySummary.ofOutcomes_eq os
  have hnames : (ofOutcomes os).categories.map (·.category) = categoriesOf os := by
    rw [hcategories, List.map_map]
    exact List.map_id _
  have hsum : ∀ count : CategorySummary → Nat, ((ofOutcomes os).categories.map count).sum =
      ((categoriesOf os).map fun c => count (rollup os c)).sum := by
    intro count
    rw [hcategories, List.map_map]
    rfl
  have hfailing : (os.filter fun o => o.passed = false) = os.filter (!·.passed) :=
    List.filter_congr fun o _ => by cases o.passed <;> rfl
  have hperm : ((ofOutcomes os).categories.flatMap (·.failedIds)).Perm
      ((os.filter (!·.passed)).map CaseOutcome.id) := by
    rw [hcategories, List.flatMap_map]
    have hmap := (perm_flatMap_filter (!·.passed) os).map CaseOutcome.id
    rwa [List.map_flatMap] at hmap
  have hfailed : ((ofOutcomes os).categories.flatMap (·.failedIds)).length =
      (ofOutcomes os).failed := by
    rw [hperm.length_eq, List.length_map, failed_ofOutcomes]
  have heach : ∀ s ∈ (ofOutcomes os).categories, ∃ c, s = rollup os c := by
    intro s hs
    rw [hcategories] at hs
    obtain ⟨c, -, rfl⟩ := List.mem_map.1 hs
    exact ⟨c, rfl⟩
  constructor
  case nodup => rw [hnames]; exact nodup_categoriesOf os
  case mem_iff => intro c; rw [hnames]; exact mem_categoriesOf
  case ordered => rw [hnames]; exact pairwise_categoriesOf os
  case sum_failed => rw [← List.length_flatMap, hfailed]
  case perm_failedIds => rw [hfailing]; exact hperm
  case sum_total =>
    rw [hsum]
    change _ = os.length
    rw [← (perm_flatMap_categoriesOf os).length_eq, List.length_flatMap]
    rfl
  case sum_passed =>
    rw [hsum]
    exact sum_length_filter CaseOutcome.passed os
  case allPassed_iff =>
    rw [allPassed, beq_iff_eq, ← hfailed, List.length_eq_zero_iff, List.flatMap_eq_nil_iff]
  all_goals
    intro s hs
    obtain ⟨c, rfl⟩ := heach s hs
  case total => rfl
  case passed => simp [rollup, within, List.filter_filter, Bool.and_comm]
  case failedIds => simp [rollup, within, List.filter_filter, Bool.and_comm]
  case passed_le_total =>
    have hadd := passed_add_length_failedIds os c
    omega
  case passed_add_failed => exact passed_add_length_failedIds os c
  case failed =>
    have hadd := passed_add_length_failedIds os c
    rw [CategorySummary.failed]
    omega

end RunSummary
end CaseSheet

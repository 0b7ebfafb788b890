import CaseSheet.Proofs.Search
import Mathlib.Order.WellFounded
/-!
# Braces stand for a product

The expansion of a pattern replaces its first group by each of the alternatives in it and starts
again from the front of what results. What results may be as long as before, and may have braces in
it that match no others; but the brace that opened the group is gone, and no other has come.

Where groups are not nested, the expansion takes one alternative for each of them, in every way, and
the first group varies slowest.

* `Pattern.Calls.count_lt`: the measure of the recursion.
* `Pattern.expand_append_text`: the expansion of literals and groups.
* `Pattern.expand_ordered_product`: it ends for every pattern, and is an ordered product.
-/
namespace CaseSheet.Pattern

variable {cs p before : List Char}

/-! ## The recursion -/

/-- The expansion of the first pattern goes on to expand the second. -/
inductive Calls : List Char → List Char → Prop where
  | intro {before inside after alternative : List Char} (hbefore : '\x7b' ∉ before)
      (hinside : '\x7d' ∉ inside) (hmem : alternative ∈ inside.splitOn ',') :
      Calls (before ++ '\x7b' :: (inside ++ '\x7d' :: after)) (before ++ alternative ++ after)

/-- Each step takes an opening brace away. -/
theorem Calls.count_lt (h : Calls cs p) : p.count '\x7b' < cs.count '\x7b' := by
  obtain ⟨hbefore, hinside, hmem⟩ := h
  rw [← Text.splitAll_eq_splitOn] at hmem
  have hle := count_le_of_mem_splitAll (b := '\x7b') hmem
  simp only [List.count_append, List.count_cons_self,
    List.count_cons_of_ne (by decide : '\x7d' ≠ '\x7b')]
  omega

theorem wellFounded_calls : WellFounded fun p cs => Calls cs p :=
  Subrelation.wf Calls.count_lt (measure fun cs : List Char => cs.count '\x7b').wf

/-- A pattern is expanded to itself, or to what its calls are expanded to, in their order. -/
theorem expand_eq_or (cs : List Char) : (IsPlain cs ∧ expand cs = [cs]) ∨
    ∃ before inside after, cs = before ++ '\x7b' :: (inside ++ '\x7d' :: after) ∧
      (∀ alternative ∈ inside.splitOn ',', Calls cs (before ++ alternative ++ after)) ∧
      expand cs = (inside.splitOn ',').flatMap fun alternative =>
        expand (before ++ alternative ++ after) := by
  by_cases hplain : IsPlain cs
  · exact .inl ⟨hplain, expand_plain hplain⟩
  · obtain ⟨before, behind, rfl, hbefore, hclose⟩ : ∃ before behind,
        cs = before ++ '\x7b' :: behind ∧ '\x7b' ∉ before ∧ '\x7d' ∈ behind := by
      simpa [IsPlain] using hplain
    obtain ⟨inside, after, rfl, hinside⟩ := List.eq_append_cons_of_mem hclose
    refine .inr ⟨before, inside, after, rfl, fun alternative hmem => ⟨hbefore, hinside, hmem⟩, ?_⟩
    rw [expand_group hbefore hinside, Text.splitAll_eq_splitOn]

/-! ## Literals and groups -/

/-- A group that is not nested. -/
structure Group where
  alternatives : List (List Char)
  ne_nil : alternatives ≠ []
  unbraced : ∀ a ∈ alternatives, '\x7b' ∉ a ∧ '\x7d' ∉ a
  no_comma : ∀ a ∈ alternatives, ',' ∉ a

/-- A part of a pattern. -/
inductive Piece where
  | literal (text : List Char) (unbraced : '\x7b' ∉ text ∧ '\x7d' ∉ text)
  | group (g : Group)

/-- The group as it stands in a pattern. -/
def Group.text (g : Group) : List Char :=
  '\x7b' :: (List.intercalate [','] g.alternatives ++ ['\x7d'])

/-- The pattern that pieces make up. -/
def text : List Piece → List Char
  | [] => []
  | .literal cs _ :: ps => cs ++ text ps
  | .group g :: ps => g.text ++ text ps

/-- The groups among pieces. -/
def groups : List Piece → List Group
  | [] => []
  | .literal _ _ :: ps => groups ps
  | .group g :: ps => g :: groups ps

/-- The text with alternatives in place of the groups: for each group, by the number of its
alternative. -/
def chosen : List Piece → List Nat → List Char
  | [], _ => []
  | .literal cs _ :: ps, choice => cs ++ chosen ps choice
  | .group g :: ps, i :: choice => g.alternatives.getD i [] ++ chosen ps choice
  | .group _ :: _, [] => []

/-- The ways to choose one alternative for each group, by their numbers. -/
def choices : List Group → List (List Nat)
  | [] => [[]]
  | g :: gs => (List.range g.alternatives.length).flatMap fun i => (choices gs).map (i :: ·)

theorem mem_choices {gs : List Group} {choice : List Nat} :
    choice ∈ choices gs ↔ List.Forall₂ (fun i g => i < g.alternatives.length) choice gs := by
  induction gs generalizing choice with
  | nil => simp [choices]
  | cons g gs ih => cases choice <;> simp [choices, ih, and_comm]

/-- Choices come in lexicographic order. -/
theorem pairwise_choices (gs : List Group) : (choices gs).Pairwise (· < ·) := by
  induction gs with
  | nil => exact List.pairwise_singleton _ _
  | cons g gs ih =>
    rw [choices, List.pairwise_flatMap]
    constructor
    · intro i _
      rw [List.pairwise_map]
      exact ih.imp fun h => List.cons_lt_cons_iff.2 (.inr ⟨rfl, h⟩)
    · refine List.pairwise_lt_range.imp fun {i j} hij x hx y hy => ?_
      obtain ⟨choice, -, rfl⟩ := List.mem_map.1 hx
      obtain ⟨choice', -, rfl⟩ := List.mem_map.1 hy
      exact List.cons_lt_cons_iff.2 (.inl hij)

theorem not_mem_intercalate {α : Type} {a : α} {sep : List α} {ls : List (List α)} (hsep : a ∉ sep)
    (h : ∀ l ∈ ls, a ∉ l) : a ∉ List.intercalate sep ls := by
  induction ls with
  | nil => simp
  | cons l ls ih =>
    obtain ⟨hl, hls⟩ := List.forall_mem_cons.1 h
    cases ls with
    | nil => simpa using hl
    | cons l' ls =>
      rw [List.intercalate_cons_cons]
      simp only [List.mem_append, not_or]
      exact ⟨⟨hl, hsep⟩, ih hls⟩

theorem map_getD_range {α : Type} (l : List α) (d : α) :
    (List.range l.length).map (l.getD · d) = l := by
  refine List.ext_getElem (by simp) fun i h _ => ?_
  have hi : i < l.length := by simpa using h
  simp [hi]

/-- **Literals and groups are expanded** to the chosen texts; what stands in front has no brace that
opens a group. -/
theorem expand_append_text (hbefore : '\x7b' ∉ before) (ps : List Piece) :
    expand (before ++ text ps) =
      (choices (groups ps)).map fun choice => before ++ chosen ps choice := by
  induction ps generalizing before with
  | nil =>
    have hplain : IsPlain before := by
      rintro front behind rfl
      simp at hbefore
    simp [text, groups, choices, chosen, expand_plain hplain]
  | cons piece ps ih =>
    cases piece with
    | literal cs unbraced =>
      have hfront : '\x7b' ∉ before ++ cs := by simp [hbefore, unbraced.1]
      rw [text, ← List.append_assoc, ih hfront, groups]
      simp only [chosen, List.append_assoc]
    | group g =>
      have halternative : ∀ a ∈ g.alternatives, expand (before ++ a ++ text ps) =
          (choices (groups ps)).map fun choice => before ++ a ++ chosen ps choice := by
        intro a ha
        exact ih (by simp [hbefore, (g.unbraced a ha).1])
      have hclose : '\x7d' ∉ List.intercalate [','] g.alternatives :=
        not_mem_intercalate (by decide) fun a ha => (g.unbraced a ha).2
      have htext : before ++ text (.group g :: ps) = before ++
          '\x7b' :: (List.intercalate [','] g.alternatives ++ '\x7d' :: text ps) := by
        simp [text, Group.text]
      rw [htext, expand_group hbefore hclose, Text.splitAll_eq_splitOn,
        List.splitOn_intercalate ',' g.no_comma g.ne_nil, List.flatMap_congr halternative, groups,
        choices, List.map_flatMap]
      -- Both sides go through the alternatives, the one by their numbers.
      conv_lhs => rw [← map_getD_range g.alternatives [], List.flatMap_map]
      simp only [List.map_map, Function.comp_def, chosen, List.append_assoc]

/-- **The expansion of braces ends and is an ordered product.** Every chain of calls ends, whatever
braces a pattern has; and where literals and groups follow each other, the results are the texts
with one alternative in place of each group, for all choices, in their lexicographic order. -/
theorem expand_ordered_product :
    (WellFounded fun p cs => Calls cs p) ∧
    (∀ cs, (IsPlain cs ∧ expand cs = [cs]) ∨
      ∃ before inside after, cs = before ++ '\x7b' :: (inside ++ '\x7d' :: after) ∧
        (∀ alternative ∈ inside.splitOn ',', Calls cs (before ++ alternative ++ after)) ∧
        expand cs = (inside.splitOn ',').flatMap fun alternative =>
          expand (before ++ alternative ++ after)) ∧
    ∀ ps : List Piece, ∃ all : List (List Nat),
      (∀ choice, choice ∈ all ↔
        List.Forall₂ (fun i g => i < g.alternatives.length) choice (groups ps)) ∧
      all.Pairwise (· < ·) ∧
      expand (text ps) = all.map (chosen ps) := by
  refine ⟨wellFounded_calls, expand_eq_or, fun ps => ⟨choices (groups ps), ?_, ?_, ?_⟩⟩
  · exact fun choice => mem_choices
  · exact pairwise_choices (groups ps)
  · simpa using expand_append_text (List.not_mem_nil : '\x7b' ∉ []) ps

/-- Two names, and a stop and an extension behind them or nothing. -/
def namePieces : List Piece :=
  [.group ⟨["a".toList, "b".toList], by decide, by decide, by decide⟩,
    .literal "-cases".toList (by decide),
    .group ⟨["".toList, ".csv".toList], by decide, by decide, by decide⟩]

/-- The first group varies slowest. -/
theorem expand_namePieces :
    text namePieces = "\x7ba,b\x7d-cases\x7b,.csv\x7d".toList ∧
      expand (text namePieces) =
        ["a-cases", "a-cases.csv", "b-cases", "b-cases.csv"].map String.toList := by
  obtain ⟨-, -, hproduct⟩ := expand_ordered_product
  obtain ⟨all, hall, hsorted, hexpand⟩ := hproduct namePieces
  have hchoices : all = [[0, 0], [0, 1], [1, 0], [1, 1]] := by
    refine hsorted.eq_of_mem_iff (by decide) fun choice => ?_
    rw [hall, ← mem_choices]
    rfl
  rw [hexpand, hchoices]
  exact ⟨by decide, by decide⟩

end CaseSheet.Pattern

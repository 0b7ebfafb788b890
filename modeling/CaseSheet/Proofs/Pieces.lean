import CaseSheet.Text.Lines
import Mathlib.Data.List.Infix
import Mathlib.Data.List.Induction
import Mathlib.Data.List.TakeWhile
/-!
# Cutting, joining and trimming

Cutting a text at a separator and joining pieces again are the operations of lists of these names.
Trimming takes blanks from both ends, and leaves alone what neither starts nor ends with one.

* `Text.splitAll_eq_splitOn`, `Text.joinWith_eq_intercalate`: cutting and joining.
* `Text.exists_trim`: what trimming takes away.
* `Text.isTrimmed_trim`, `Text.IsTrimmed.trim_eq`: what it leaves.
-/
namespace CaseSheet.Text

/-! ## Cutting and joining -/

section Pieces

variable {α : Type} [BEq α] {sep : α}

theorem splitAll_eq_splitOn (sep : α) (l : List α) : splitAll sep l = l.splitOn sep := by
  induction l with
  | nil => simp [splitAll, List.splitOn_eq_splitOnP]
  | cons a l ih =>
    rw [splitAll, List.splitOn_cons_eq_if_modifyHead, ih]
    split
    · rfl
    · cases hpieces : l.splitOn sep with
      | nil => exact absurd hpieces (List.splitOn_ne_nil sep l)
      | cons p ps => rfl

omit [BEq α] in
theorem joinWith_eq_intercalate (sep : List α) (ps : List (List α)) :
    joinWith sep ps = List.intercalate sep ps := by
  induction ps with
  | nil => rfl
  | cons p ps ih =>
    cases ps with
    | nil => exact List.intercalate_singleton.symm
    | cons q qs => rw [joinWith, ih, List.intercalate_cons_cons]

variable [LawfulBEq α]

theorem splitAll_append_sep (a b : List α) :
    splitAll sep (a ++ sep :: b) = splitAll sep a ++ splitAll sep b := by
  simp only [splitAll_eq_splitOn, List.splitOn_append_cons_self]

theorem splitAll_of_not_mem {l : List α} (h : sep ∉ l) : splitAll sep l = [l] := by
  rw [splitAll_eq_splitOn, List.splitOn_eq_singleton h]

theorem not_mem_of_mem_splitAll {l p : List α} (h : p ∈ splitAll sep l) : sep ∉ p := by
  induction l generalizing p with
  | nil => simp_all [splitAll]
  | cons x l ih =>
    rw [splitAll] at h
    split at h
    · rcases List.mem_cons.1 h with rfl | h
      · simp
      · exact ih h
    · next hx =>
      have hne : sep ≠ x := fun hs => hx (by simp [hs])
      split at h
      · simp_all
      · next q qs hq =>
        rw [hq] at ih
        rcases List.mem_cons.1 h with rfl | h
        · exact fun hm => (List.mem_cons.1 hm).elim hne (ih List.mem_cons_self)
        · exact ih (List.mem_cons_of_mem q h)

/-- Pieces without the separator come back from the text that they make up, unless there are
none. -/
theorem splitAll_joinWith {ps : List (List α)} (hne : ps ≠ []) (h : ∀ p ∈ ps, sep ∉ p) :
    splitAll sep (joinWith [sep] ps) = ps := by
  rw [splitAll_eq_splitOn, joinWith_eq_intercalate, List.splitOn_intercalate sep h hne]

/-- With a separator in front of each piece, the pieces make up the text behind a separator. -/
theorem flatMap_splitAll (sep : α) (l : List α) :
    (splitAll sep l).flatMap (sep :: ·) = sep :: l := by
  induction l with
  | nil => rfl
  | cons a l ih =>
    rw [splitAll]
    split
    · next ha => rw [List.flatMap_cons, ih, ← eq_of_beq ha, List.singleton_append]
    · cases hpieces : splitAll sep l with
      | nil => exact absurd hpieces (splitAll_ne_nil sep l)
      | cons p ps =>
        rw [hpieces, List.flatMap_cons, List.cons_append, List.cons.injEq] at ih
        rw [List.flatMap_cons, List.cons_append, List.cons_append, ih.2]

theorem splitAll_cons_sep (sep : α) (l : List α) :
    splitAll sep (sep :: l) = [] :: splitAll sep l := by
  rw [splitAll, if_pos (beq_self_eq_true sep)]

/-- Pieces without the separator come back from the text that has one in front of each. -/
theorem splitAll_flatMap {ps : List (List α)} (h : ∀ p ∈ ps, sep ∉ p) :
    splitAll sep (ps.flatMap (sep :: ·)) = [] :: ps := by
  induction ps with
  | nil => rfl
  | cons p ps ih =>
    obtain ⟨hp, hps⟩ := List.forall_mem_cons.1 h
    rw [List.flatMap_cons, List.cons_append, splitAll_cons_sep]
    cases ps with
    | nil => rw [List.flatMap_nil, List.append_nil, splitAll_of_not_mem hp]
    | cons q qs =>
      have hrest := ih hps
      rw [List.flatMap_cons, List.cons_append, splitAll_cons_sep] at hrest
      rw [List.flatMap_cons, List.cons_append, splitAll_append_sep, splitAll_of_not_mem hp,
        (List.cons.inj hrest).2]
      rfl

/-- A text with a separator has more than one piece. -/
theorem not_mem_of_splitAll_eq_singleton {l p : List α} (h : splitAll sep l = [p]) : sep ∉ l := by
  intro hmem
  obtain ⟨a, b, rfl⟩ := List.append_of_mem hmem
  rw [splitAll_append_sep] at h
  have ha := List.length_pos_of_ne_nil (splitAll_ne_nil sep a)
  have hb := List.length_pos_of_ne_nil (splitAll_ne_nil sep b)
  have hlength := congrArg List.length h
  rw [List.length_append, List.length_singleton] at hlength
  omega

end Pieces

/-! ## Trimming -/

section Ends

variable {α : Type} {p : α → Bool} {l : List α} {a : α}

/-- A last member that is kept keeps everything in front of it. -/
theorem dropEndWhile_concat (h : p a = false) : dropEndWhile p (l ++ [a]) = l ++ [a] := by
  simp [dropEndWhile, h]

/-- What is dropped at the end is not kept by a filter for what is not dropped. -/
theorem filter_not_dropEndWhile (p : α → Bool) (l : List α) :
    (dropEndWhile p l).filter (!p ·) = l.filter (!p ·) := by
  induction l using List.reverseRecOn with
  | nil => rfl
  | append_singleton l a ih =>
    cases ha : p a with
    | true =>
      rw [dropEndWhile_append_of_forall (by simpa using ha), ih]
      simp [ha]
    | false => rw [dropEndWhile_concat ha]

/-- The last member that is left is not one to drop. -/
theorem not_of_getLast?_dropEndWhile (h : (dropEndWhile p l).getLast? = some a) : p a = false := by
  rw [dropEndWhile, List.getLast?_reverse] at h
  have hhead := List.head?_dropWhile_not p l.reverse
  rw [h] at hhead
  simpa using hhead

theorem dropEndWhile_prefix (p : α → Bool) (l : List α) : dropEndWhile p l <+: l := by
  rw [dropEndWhile, ← List.reverse_suffix, List.reverse_reverse]
  exact List.dropWhile_suffix p

theorem exists_dropEndWhile (p : α → Bool) (l : List α) :
    ∃ back, (∀ a ∈ back, p a = true) ∧ l = dropEndWhile p l ++ back := by
  refine ⟨(l.reverse.takeWhile p).reverse, fun a ha => ?_, ?_⟩
  · exact List.mem_takeWhile_imp (List.mem_reverse.1 ha)
  · rw [dropEndWhile, ← List.reverse_append, List.takeWhile_append_dropWhile, List.reverse_reverse]

end Ends

variable {cs blanks : List Char}

/-- A text neither starts nor ends with a blank. -/
structure IsTrimmed (cs : List Char) : Prop where
  head : ∀ c ∈ cs.head?, isBlank c = false
  last : ∀ c ∈ cs.getLast?, isBlank c = false

theorem isTrimmed_trim (cs : List Char) : IsTrimmed (trim cs) where
  head c hc := by
    have hstart := List.head?_dropWhile_not isBlank cs
    obtain ⟨rest, hrest⟩ := dropEndWhile_prefix isBlank (cs.dropWhile isBlank)
    change c ∈ (dropEndWhile isBlank (cs.dropWhile isBlank)).head? at hc
    cases hkept : dropEndWhile isBlank (cs.dropWhile isBlank) with
    | nil => rw [hkept] at hc; cases hc
    | cons d ds =>
      rw [hkept] at hc hrest
      obtain rfl : d = c := by simpa using hc
      rw [← hrest] at hstart
      exact hstart
  last c hc := not_of_getLast?_dropEndWhile hc

theorem IsTrimmed.trim_eq (h : IsTrimmed cs) : trim cs = cs := by
  have hstart : trimStart cs = cs := by
    cases cs with
    | nil => rfl
    | cons c cs => exact List.dropWhile_cons_of_neg (by simp [h.head c rfl])
  rw [trim, hstart]
  rcases List.eq_nil_or_concat' cs with rfl | ⟨l, c, rfl⟩
  · rfl
  · exact dropEndWhile_concat (h.last c (by simp))

theorem isTrimmed_iff : IsTrimmed cs ↔ trim cs = cs := by
  refine ⟨IsTrimmed.trim_eq, fun h => ?_⟩
  rw [← h]
  exact isTrimmed_trim cs

theorem trim_blanks_append (h : ∀ c ∈ blanks, isBlank c = true) (cs : List Char) :
    trim (blanks ++ cs) = trim cs := by
  rw [trim, trimStart, List.dropWhile_append_of_pos h]
  rfl

theorem trim_append_blanks (h : ∀ c ∈ blanks, isBlank c = true) (cs : List Char) :
    trim (cs ++ blanks) = trim cs := by
  unfold trim trimStart
  rw [List.dropWhile_append]
  split
  · next hnil =>
    rw [List.isEmpty_iff.1 hnil, List.dropWhile_eq_nil_iff.2 h]
  · exact trimEnd_append_of_isAllBlank (List.all_eq_true.2 h)

/-- What trimming takes away: blanks at both ends. -/
theorem exists_trim (cs : List Char) : ∃ front back, (∀ c ∈ front, isBlank c = true) ∧
    (∀ c ∈ back, isBlank c = true) ∧ cs = front ++ trim cs ++ back := by
  obtain ⟨back, hback, heq⟩ := exists_dropEndWhile isBlank (cs.dropWhile isBlank)
  refine ⟨cs.takeWhile isBlank, back, fun c hc => List.mem_takeWhile_imp hc, hback, ?_⟩
  calc cs = cs.takeWhile isBlank ++ cs.dropWhile isBlank := List.takeWhile_append_dropWhile.symm
    _ = cs.takeWhile isBlank ++ (trim cs ++ back) := congrArg _ heq
    _ = cs.takeWhile isBlank ++ trim cs ++ back := (List.append_assoc _ _ _).symm

theorem trim_eq_nil_iff : trim cs = [] ↔ ∀ c ∈ cs, isBlank c = true := by
  constructor
  · intro h
    obtain ⟨front, back, hfront, hback, heq⟩ := exists_trim cs
    rw [h, List.append_nil] at heq
    rw [heq]
    exact List.forall_mem_append.2 ⟨hfront, hback⟩
  · intro h
    have htrim := trim_append_blanks h []
    rwa [List.nil_append] at htrim

/-- A text that starts with no blank starts the same when it is trimmed. -/
theorem head?_trim {c : Char} (h : cs.head? = some c) (hc : isBlank c = false) :
    (trim cs).head? = some c := by
  obtain ⟨front, back, hfront, hback, heq⟩ := exists_trim cs
  have hblank : ∀ d ∈ front ++ back, isBlank d = true := List.forall_mem_append.2 ⟨hfront, hback⟩
  rw [heq] at h
  cases front with
  | cons d front =>
    obtain rfl : d = c := by simpa using h
    simp [hblank d (by simp)] at hc
  | nil =>
    cases htrim : trim cs with
    | nil =>
      rw [htrim, List.append_nil, List.nil_append] at h
      simp [hback c (List.mem_of_mem_head? h)] at hc
    | cons d ds =>
      rw [htrim] at h
      exact h

theorem trim_subset (cs : List Char) : trim cs ⊆ cs := by
  obtain ⟨front, back, -, -, heq⟩ := exists_trim cs
  intro c hc
  rw [heq]
  simp [hc]

theorem IsTrimmed.eq_nil_of_blanks (h : IsTrimmed (cs ++ blanks))
    (hblanks : ∀ c ∈ blanks, isBlank c = true) : blanks = [] := by
  by_contra hne
  obtain ⟨front, c, rfl⟩ := (List.eq_nil_or_concat' blanks).resolve_left hne
  have hlast : isBlank c = false := h.last c (by simp)
  rw [hblanks c (by simp)] at hlast
  cases hlast

/-- Behind a blank, a trimmed line has something else than blanks, up to its end. -/
theorem IsTrimmed.exists_behind {word rest : List Char} {c : Char}
    (h : IsTrimmed (word ++ c :: rest)) (hc : isBlank c = true) :
    trim rest ≠ [] ∧ ∃ blanks, (∀ c ∈ blanks, isBlank c = true) ∧ rest = blanks ++ trim rest := by
  constructor
  · intro hnil
    have hblanks : ∀ d ∈ c :: rest, isBlank d = true :=
      List.forall_mem_cons.2 ⟨hc, trim_eq_nil_iff.1 hnil⟩
    cases h.eq_nil_of_blanks hblanks
  · obtain ⟨front, back, hfront, hback, heq⟩ := exists_trim rest
    have hend : IsTrimmed (word ++ c :: (front ++ trim rest) ++ back) := by
      rw [heq] at h
      simpa using h
    rw [hend.eq_nil_of_blanks hback, List.append_nil] at heq
    exact ⟨front, hfront, heq⟩

end CaseSheet.Text

import CaseSheet.Proofs.Yaml.Scalar
import CaseSheet.Sheet.Yaml
/-!
# The tokens of a written sheet

A sheet is written line by line, and read token by token: a column is a key and a scalar, a case an
entry with the mapping of its columns.

* `tokens?_writeYaml`: the tokens of a written sheet.
-/

namespace CaseSheet.Sheet

open Yaml Yaml.Scanner Yaml.ScalarText

/-! ## Titles -/

theorem keyWord_title (k : Column) : KeyWord k.title.toList := by
  cases k <;> exact .of_all (by decide) (by decide) (by decide)

theorem keyWord_casesKey : KeyWord casesKey.toList :=
  .of_all (by decide) (by decide) (by decide)

/-! ## Kinds of tokens -/

/-- The tokens of a column. -/
def columnKinds (c : TestCase) (k : Column) : List TokenKind :=
  [.key, .scalar .plain k.title.toList, .value,
    .scalar (styleOf (c.cell k).toList) (c.cell k).toList]

/-- The tokens of a case up to its last column. -/
def openKinds (c : TestCase) : List TokenKind :=
  .blockEntry :: .blockMapping :: Column.all.flatMap (columnKinds c)

/-- The tokens of a case. -/
def caseKinds (c : TestCase) : List TokenKind := openKinds c ++ [.blockEnd]

/-- The tokens of the list of cases, which is written in brackets if it is empty. -/
def listKinds (cases : List TestCase) : List TokenKind :=
  if cases.isEmpty then [.flowSequence, .flowSequenceEnd] else cases.flatMap caseKinds

/-- The tokens of a sheet. -/
def sheetKinds (cases : List TestCase) : List TokenKind :=
  .blockMapping :: .key :: .scalar .plain casesKey.toList :: .value ::
    (listKinds cases ++ [.blockEnd, .streamEnd])

/-! ## Lines -/

section Lines

variable {s : Scanner} {indent indent' : Option Nat} {outer outer' : List (Option Nat)} {m : Mark}
  {tail : List Char} {kinds : List TokenKind}

/-- What stands on the line of a column behind the margin or the dash. -/
def columnLine (c : TestCase) (k : Column) : List Char :=
  k.title.toList ++ ':' :: ' ' :: write 4 (c.cell k).toList

theorem writeColumn_eq (lead : List Char) (c : TestCase) (k : Column) :
    writeColumn lead c k = lead ++ columnLine c k := by
  simp [writeColumn, columnLine]

theorem lineStart_columnLine (c : TestCase) (k : Column) (tail : List Char) :
    LineStart (columnLine c k ++ tail) := by
  cases k <;> exact ⟨rfl, rfl, rfl, rfl⟩

theorem lineStart_cases (cases : List TestCase) : LineStart (cases.flatMap writeCase) := by
  cases cases <;> exact ⟨rfl, rfl, rfl, rfl⟩

/-- The title of a column, up to its text. -/
theorem stands_title {front : List TokenKind} (c : TestCase) (k : Column)
    (h : s.Stands indent outer true m (columnLine c k ++ tail) kinds)
    (hopens : Opens m.column indent outer indent' outer' front) :
    ∃ s' m', Steps 2 s s' ∧ m.column < m'.column ∧
      s'.Stands indent' outer' false m' (write 4 (c.cell k).toList ++ tail)
        (.value :: .scalar .plain k.title.toList :: .key :: (front ++ kinds)) := by
  have hword := keyWord_title k
  let text := write 4 (c.cell k).toList ++ tail
  let p := m.pastAll (k.title.toList ++ [':'])
  have hpasses : Passes false p (' ' :: text) false (p.past ' ') text :=
    .space (.here false _ (lineStart_write 4 _ tail))
  have hline : columnLine c k ++ tail = k.title.toList ++ ':' :: ' ' :: text := by
    simp [columnLine, text]
  rw [hline] at h
  obtain ⟨s', hsteps, hstands⟩ := h.key hword hopens (.inl rfl) hpasses
  refine ⟨s', p.past ' ', hsteps, ?_, hstands⟩
  have hbreak : isBreak ' ' = false := by decide
  have hcolumn : p.column = m.column + (k.title.toList ++ [':']).length := by
    refine Mark.column_pastAll m fun d hd => ?_
    rcases List.mem_append.1 hd with hd | hd
    · exact hword.oneLine d hd
    · rw [List.mem_singleton.1 hd]
      decide
  rw [Mark.column_past_of_not_break p hbreak]
  omega

/-- **The columns** of a case behind the title of the first, whose text is given. -/
theorem stands_columns (c : TestCase) (text : List Char) (ks : List Column)
    (h : s.Stands (some 2) outer false m
      (write 4 text ++ (ks.flatMap (writeColumn [' ', ' '] c) ++ tail)) kinds)
    (hm : 2 < m.column) (htail : LineStart tail) :
    ∃ s' m', Steps (1 + 3 * ks.length) s s' ∧ m'.column = 0 ∧
      s'.Stands (some 2) outer true m' tail
        ((ks.flatMap (columnKinds c)).reverse ++ .scalar (styleOf text) text :: kinds) := by
  induction ks generalizing s m text kinds with
  | nil => exact h.scalar hm (Nat.zero_le 2) htail
  | cons k ks ih =>
    have hlines : (k :: ks).flatMap (writeColumn [' ', ' '] c) ++ tail =
        margin 2 ++ (columnLine c k ++ (ks.flatMap (writeColumn [' ', ' '] c) ++ tail)) := by
      rw [List.flatMap_cons, writeColumn_eq, List.append_assoc, List.append_assoc]
      rfl
    rw [hlines] at h
    obtain ⟨s₁, m₁, hsteps₁, hm₁, h₁⟩ :=
      h.scalar hm (Nat.le_refl 2) (lineStart_columnLine c k _)
    have hopens : Opens m₁.column (some 2) outer (some 2) outer [] := hm₁ ▸ .within outer
    obtain ⟨s₂, m₂, hsteps₂, hm₂, h₂⟩ := stands_title c k h₁ hopens
    obtain ⟨s₃, m₃, hsteps₃, hm₃, h₃⟩ := ih _ h₂ (hm₁ ▸ hm₂)
    have hcount : 1 + (2 + (1 + 3 * ks.length)) = 1 + 3 * (k :: ks).length := by
      rw [List.length_cons]
      omega
    refine ⟨s₃, m₃, hcount ▸ hsteps₁.trans (hsteps₂.trans hsteps₃), hm₃, ?_⟩
    simpa [columnKinds] using h₃

/-- **A case**, up to its last column. -/
theorem stands_case {back : List TokenKind} (c : TestCase)
    (h : s.Stands indent outer true m (writeCase c ++ tail) kinds) (hm : m.column = 0)
    (hcloses : Closes 0 indent outer (some 0) [none] back) (htail : LineStart tail) :
    ∃ s' m', Steps 22 s s' ∧ m'.column = 0 ∧
      s'.Stands (some 2) [some 0, none] true m' tail
        ((openKinds c).reverse ++ (back ++ kinds)) := by
  let lines := (Column.all.drop 1).flatMap (writeColumn [' ', ' '] c) ++ tail
  have htext : writeCase c ++ tail = '-' :: ' ' :: (columnLine c .id ++ lines) := by
    simp [writeCase, writeColumn_eq, lines]
  rw [htext] at h
  have hpasses : Passes true (m.past '-') (' ' :: (columnLine c .id ++ lines)) true
      ((m.past '-').past ' ') (columnLine c .id ++ lines) :=
    .space (.here true _ (lineStart_columnLine c .id lines))
  rw [← hm] at hcloses
  obtain ⟨s₁, hsteps₁, h₁⟩ := h.entry hcloses hpasses
  have hm₁ : ((m.past '-').past ' ').column = 2 := by
    rw [Mark.column_past_of_not_break _ (by decide), Mark.column_past_of_not_break m (by decide),
      hm]
  have hopens : Opens ((m.past '-').past ' ').column (some m.column) [none] (some 2)
      [some 0, none] [.blockMapping] := by
    rw [hm₁, hm]
    refine .first [none] ?_
    rintro n ⟨⟩
    decide
  obtain ⟨s₂, m₂, hsteps₂, hm₂, h₂⟩ := stands_title c .id h₁ hopens
  obtain ⟨s₃, m₃, hsteps₃, hm₃, h₃⟩ := stands_columns c _ _ h₂ (hm₁ ▸ hm₂) htail
  refine ⟨s₃, m₃, hsteps₁.trans (hsteps₂.trans hsteps₃), hm₃, ?_⟩
  simpa [openKinds, columnKinds, Column.all] using h₃

/-- **The cases** behind the first column of a list, up to the end of the source. -/
theorem stands_cases (cases : List TestCase)
    (h : s.Stands (some 2) [some 0, none] true m (cases.flatMap writeCase) kinds)
    (hm : m.column = 0) :
    ∃ s', Steps (22 * cases.length + 1) s s' ∧ s'.isDone = true ∧
      s'.tokens.map (·.kind) =
        (.blockEnd :: (cases.flatMap caseKinds ++ [.blockEnd, .streamEnd])).reverse ++ kinds := by
  induction cases generalizing s m kinds with
  | nil =>
    obtain ⟨s', hsteps, hdone, hkinds⟩ := h.atEnd hm (by decide)
    exact ⟨s', hsteps, hdone, hkinds⟩
  | cons c cases ih =>
    have hcloses : Closes 0 (some 2) [some 0, none] (some 0) [none] [.blockEnd] :=
      .close (by decide) (.stay [none] (by rintro n ⟨⟩; decide))
    obtain ⟨s₁, m₁, hsteps₁, hm₁, h₁⟩ := stands_case c h hm hcloses (lineStart_cases cases)
    obtain ⟨s₂, hsteps₂, hdone, hkinds⟩ := ih h₁ hm₁
    have hcount : 22 + (22 * cases.length + 1) = 22 * (c :: cases).length + 1 := by
      rw [List.length_cons]
      omega
    refine ⟨s₂, hcount ▸ hsteps₁.trans hsteps₂, hdone, ?_⟩
    simpa [caseKinds] using hkinds

end Lines

/-! ## Sheets -/

theorem isPrintable_of_mem_columnLine {c : TestCase} {k : Column} {d : Char}
    (h : d ∈ columnLine c k) : isPrintable d = true := by
  have htitle : k.title.toList.all isPrintable = true := by cases k <;> decide
  rw [columnLine, List.mem_append, List.mem_cons, List.mem_cons] at h
  rcases h with h | rfl | rfl | h
  · exact List.all_eq_true.1 htitle d h
  · decide
  · decide
  · exact isPrintable_of_mem_write h

theorem isPrintable_of_mem_writeCase {c : TestCase} {d : Char} (h : d ∈ writeCase c) :
    isPrintable d = true := by
  simp only [writeCase, writeColumn_eq, List.mem_append, List.mem_flatMap, List.mem_cons,
    List.not_mem_nil, or_false] at h
  rcases h with ((rfl | rfl) | h) | ⟨k, -, (rfl | rfl) | h⟩
  · decide
  · decide
  · exact isPrintable_of_mem_columnLine h
  · decide
  · decide
  · exact isPrintable_of_mem_columnLine h

/-- **A written sheet** is printable. -/
theorem isPrintable_of_mem_writeYaml {cases : List TestCase} {d : Char}
    (h : d ∈ writeYaml cases) : isPrintable d = true := by
  have hempty : "cases: []\n".toList.all isPrintable = true := by decide
  have hkey : "cases:\n".toList.all isPrintable = true := by decide
  rw [writeYaml] at h
  split at h
  · exact List.all_eq_true.1 hempty d h
  · rw [List.mem_append, List.mem_flatMap] at h
    rcases h with h | ⟨c, -, h⟩
    · exact List.all_eq_true.1 hkey d h
    · exact isPrintable_of_mem_writeCase h

/-- Every case is written with at least as many characters as it has tokens to take. -/
theorem length_writeCase (c : TestCase) : 22 ≤ (writeCase c).length := by
  have htitle (k : Column) : 2 ≤ k.title.toList.length := by cases k <;> decide
  have hline (k : Column) : 4 ≤ (columnLine c k).length := by
    have hk := htitle k
    simp only [columnLine, List.length_append, List.length_cons]
    omega
  have hcolumns (ks : List Column) :
      4 * ks.length ≤ (ks.flatMap (writeColumn [' ', ' '] c)).length := by
    induction ks with
    | nil => exact Nat.le_refl 0
    | cons k ks ih =>
      have hk := hline k
      simp only [List.flatMap_cons, writeColumn_eq, List.length_append, List.length_cons]
      omega
  have hrest := hcolumns (Column.all.drop 1)
  have hcount : (Column.all.drop 1).length = 6 := rfl
  rw [writeCase, List.length_append]
  omega

theorem length_flatMap_writeCase (cases : List TestCase) :
    22 * cases.length ≤ (cases.flatMap writeCase).length := by
  induction cases with
  | nil => exact Nat.le_refl 0
  | cons c cases ih =>
    have hcase := length_writeCase c
    rw [List.flatMap_cons, List.length_append, List.length_cons]
    omega

theorem tokens?_writeYaml_nil :
    ∃ ts, tokens? (writeYaml []) = some ts ∧ ts.map (·.kind) = sheetKinds [] := by
  have hkinds : (tokens? (writeYaml [])).map (fun ts => ts.map (·.kind)) =
      some (sheetKinds []) := by decide +kernel
  exact Option.map_eq_some_iff.1 hkinds

theorem tokens?_writeYaml_cons (c : TestCase) (cs : List TestCase) :
    ∃ ts, tokens? (writeYaml (c :: cs)) = some ts ∧
      ts.map (·.kind) = sheetKinds (c :: cs) := by
  let lines := writeCase c ++ cs.flatMap writeCase
  let text := casesKey.toList ++ ':' :: '\n' :: lines
  have htext : writeYaml (c :: cs) = text := rfl
  have hprint : ∀ d ∈ text, isPrintable d = true := fun d hd =>
    isPrintable_of_mem_writeYaml (htext ▸ hd)
  have hallowed : text.all isAllowed = true :=
    List.all_eq_true.2 fun d hd => isAllowed_of_isPrintable (hprint d hd)
  have hlines : LineStart lines := ⟨rfl, rfl, rfl, rfl⟩
  -- The key of the list, with a mapping outside any indentation.
  have hstart := stands_start hprint ⟨rfl, rfl, rfl, rfl⟩
  have hopens : Opens Mark.start.column none [] (some 0) [none] [.blockMapping] :=
    .first [] (by rintro n ⟨⟩)
  let p := Mark.start.pastAll (casesKey.toList ++ [':'])
  have hpasses : Passes false p ('\n' :: lines) true (p.past '\n') lines :=
    .lineEnd false (.here true _ hlines)
  obtain ⟨s₁, hsteps₁, h₁⟩ := hstart.key keyWord_casesKey hopens (.inr rfl) hpasses
  -- The cases.
  have hm : (p.past '\n').column = 0 := Mark.column_past_of_break p (by decide)
  have hcloses : Closes 0 (some 0) [none] (some 0) [none] [] :=
    .stay [none] (by rintro n ⟨⟩; decide)
  obtain ⟨s₂, m₂, hsteps₂, hm₂, h₂⟩ := stands_case c h₁ hm hcloses (lineStart_cases cs)
  obtain ⟨s₃, hsteps₃, hdone, hkinds⟩ := stands_cases cs h₂ hm₂
  have hsteps := hsteps₁.trans (hsteps₂.trans hsteps₃)
  obtain ⟨fuel, hfuel⟩ : ∃ fuel, text.length + 1 = 2 + (22 + (22 * cs.length + 1)) + fuel := by
    refine Nat.exists_eq_add_of_le ?_
    have hcase := length_writeCase c
    have hcases := length_flatMap_writeCase cs
    simp only [text, lines, List.length_append, List.length_cons]
    omega
  refine ⟨s₃.tokens.reverse, ?_, ?_⟩
  · rw [htext, tokens?, if_pos hallowed, hfuel, run?_of_steps hsteps, run?_of_isDone hdone]
    rfl
  · rw [List.map_reverse, hkinds]
    simp [sheetKinds, listKinds, caseKinds]

/-- **The tokens of a written sheet**, with cases or without. -/
theorem tokens?_writeYaml (cases : List TestCase) :
    ∃ ts, tokens? (writeYaml cases) = some ts ∧ ts.map (·.kind) = sheetKinds cases := by
  cases cases with
  | nil => exact tokens?_writeYaml_nil
  | cons c cs => exact tokens?_writeYaml_cons c cs

end CaseSheet.Sheet

import CaseSheet.Proofs.Yaml.Lines
import CaseSheet.Yaml.Anchor
/-!
# The document of a written sheet

The tokens of a sheet are read as a mapping from the key of the list to a list of mappings. Where
the nodes stand in the source does not matter, so they are described up to their places and the
styles of their scalars. As they have no anchors and no aliases, the document is the node itself.

* `pairs?_columns`, `entries?_cases`: the columns of a case, and the cases.
* `readDocument?_writeYaml`: the document of a written sheet.
-/

namespace CaseSheet.Yaml.Node

/-- A scalar with a text, and neither anchor nor tag. -/
def IsText {ι : Type} (cs : List Char) (n : Node ι) : Prop :=
  ∃ m style, n = .scalar m .none style cs

/-- Tokens by their kinds, wherever they stand. -/
theorem exists_cons_of_map_kind {ts : List Token} {kind : TokenKind} {kinds : List TokenKind}
    (h : ts.map (·.kind) = kind :: kinds) :
    ∃ start stop r, ts = ⟨kind, start, stop⟩ :: r ∧ r.map (·.kind) = kinds := by
  cases ts with
  | nil => cases h
  | cons t r =>
    obtain ⟨hkind, hr⟩ := List.cons.inj h
    exact ⟨t.start, t.stop, r, by rw [← hkind], hr⟩

theorem read?_scalar (fuel : Nat) (handles : TagHandles) (block indentless : Bool) (style : Style)
    (cs : List Char) (start stop : Mark) (ts : List Token) :
    read? (fuel + 1) handles block indentless (⟨.scalar style cs, start, stop⟩ :: ts) =
      some (.scalar start .none style cs, ts) := by
  cases indentless <;> rfl

theorem blockValue?_scalar (fuel : Nat) (handles : TagHandles) (style : Style) (cs : List Char)
    (a b start stop : Mark) (ts : List Token) :
    blockValue? (fuel + 2) handles (⟨.value, a, b⟩ :: ⟨.scalar style cs, start, stop⟩ :: ts) =
      some (.scalar start .none style cs, ts) := by
  simp only [blockValue?, kindOf, endsPart, Bool.false_eq_true, if_false]
  exact read?_scalar fuel handles true true style cs start stop ts

/-- An entry of a mapping whose key is a scalar. -/
theorem pairs?_cons {fuel : Nat} {handles : TagHandles} {style : Style} {k : List Char}
    {a b start stop : Mark} {ts ts' r : List Token} {v : NamedNode}
    {entries : List (NamedNode × NamedNode)}
    (hvalue : blockValue? (fuel + 1) handles ts = some (v, ts'))
    (h : pairs? (fuel + 1) handles ts' = some (entries, r)) :
    pairs? (fuel + 2) handles (⟨.key, a, b⟩ :: ⟨.scalar style k, start, stop⟩ :: ts) =
      some ((.scalar start .none style k, v) :: entries, r) := by
  have hkey := read?_scalar fuel handles true true style k start stop ts
  rw [pairs?]
  simp only [kindOf, endsPart, Bool.false_eq_true, if_false, hkey, hvalue, h,
    Option.bind_eq_bind, Option.bind_some]
  rfl

theorem read?_mapping {fuel : Nat} {handles : TagHandles} {ts r : List Token}
    {entries : List (NamedNode × NamedNode)} (indentless : Bool) (start stop : Mark)
    (h : pairs? fuel handles ts = some (entries, r)) :
    read? (fuel + 1) handles true indentless (⟨.blockMapping, start, stop⟩ :: ts) =
      some (.mapping start .none entries, r) := by
  rw [read?]
  · cases indentless <;> simp [properties?, kindOf, h, placeOf]
  · rintro _ _ _ _ ⟨⟩

/-- The value of a key may be a list that is not indented. -/
theorem blockValue?_sequence {fuel : Nat} {handles : TagHandles} {a b start stop : Mark}
    {ts r : List Token} {items : List NamedNode}
    (h : entries? fuel handles true (⟨.blockEntry, start, stop⟩ :: ts) = some (items, r)) :
    blockValue? (fuel + 2) handles (⟨.value, a, b⟩ :: ⟨.blockEntry, start, stop⟩ :: ts) =
      some (.sequence start .none items, r) := by
  simp only [blockValue?, kindOf, endsPart, Bool.false_eq_true, if_false]
  rw [read?]
  · simp [properties?, kindOf, h, placeOf]
  · rintro _ _ _ _ ⟨⟩

theorem properties_none (names : AnchorNames) : names.properties .none = (.none, names) := rfl

theorem link?_of_isText (names : AnchorNames) {cs : List Char} {n : NamedNode}
    (h : IsText cs n) : ∃ n', link? names n = some (n', names) ∧ IsText cs n' := by
  obtain ⟨m, style, rfl⟩ := h
  refine ⟨.scalar m .none style cs, ?_, m, style, rfl⟩
  rw [link?, properties_none]

end CaseSheet.Yaml.Node

namespace CaseSheet.Sheet

open Yaml Yaml.Node Yaml.ScalarText

/-! ## What a sheet looks like as a node -/

/-- The entry of a column. -/
def IsColumn {ι : Type} (c : TestCase) (k : Column) (e : Node ι × Node ι) : Prop :=
  IsText k.title.toList e.1 ∧ IsText (c.cell k).toList e.2

/-- The mapping of a case. -/
def IsCase {ι : Type} (c : TestCase) (n : Node ι) : Prop :=
  ∃ m entries, n = .mapping m .none entries ∧ List.Forall₂ (IsColumn c) Column.all entries

/-- The mapping of a sheet. -/
def IsSheet {ι : Type} (cases : List TestCase) (n : Node ι) : Prop :=
  ∃ m m' k items, n = .mapping m .none [(k, .sequence m' .none items)] ∧
    IsText casesKey.toList k ∧ List.Forall₂ IsCase cases items

/-! ## Reading -/

theorem pairs?_columns (handles : TagHandles) (c : TestCase) {ks : List Column} {fuel : Nat}
    {ts : List Token} {rest : List TokenKind} (hfuel : ks.length + 3 ≤ fuel)
    (hts : ts.map (·.kind) = ks.flatMap (columnKinds c) ++ .blockEnd :: rest) :
    ∃ entries r, pairs? fuel handles ts = some (entries, r) ∧
      List.Forall₂ (IsColumn c) ks entries ∧ r.map (·.kind) = rest := by
  induction ks generalizing fuel ts with
  | nil =>
    obtain ⟨fuel, rfl⟩ := Nat.exists_eq_add_of_le' (Nat.le_trans (by decide) hfuel : 1 ≤ fuel)
    obtain ⟨_, _, r, rfl, hr⟩ := exists_cons_of_map_kind hts
    exact ⟨[], r, rfl, .nil, hr⟩
  | cons k ks ih =>
    obtain ⟨fuel, rfl⟩ := Nat.exists_eq_add_of_le' (Nat.le_trans (by omega) hfuel : 3 ≤ fuel)
    simp only [List.flatMap_cons, columnKinds, List.cons_append, List.nil_append] at hts
    obtain ⟨_, _, ts₁, rfl, hts₁⟩ := exists_cons_of_map_kind hts
    obtain ⟨mk, _, ts₂, rfl, hts₂⟩ := exists_cons_of_map_kind hts₁
    obtain ⟨a, b, ts₃, rfl, hts₃⟩ := exists_cons_of_map_kind hts₂
    obtain ⟨mv, mv', ts₄, rfl, hts₄⟩ := exists_cons_of_map_kind hts₃
    have hrest : ks.length + 3 ≤ fuel + 2 := by
      rw [List.length_cons] at hfuel
      omega
    obtain ⟨entries, r, hread, hentries, hr⟩ := ih hrest hts₄
    have hcolumn : IsColumn c k ((.scalar mk .none .plain k.title.toList,
        .scalar mv .none (styleOf (c.cell k).toList) (c.cell k).toList) :
          NamedNode × NamedNode) := ⟨⟨mk, _, rfl⟩, ⟨mv, _, rfl⟩⟩
    have hvalue := blockValue?_scalar fuel handles (styleOf (c.cell k).toList)
      (c.cell k).toList a b mv mv' ts₄
    exact ⟨_, r, pairs?_cons hvalue hread, .cons hcolumn hentries, hr⟩

theorem entries?_cases (handles : TagHandles) {cases : List TestCase} {fuel : Nat}
    {ts : List Token} {rest : List TokenKind} (hfuel : cases.length + 12 ≤ fuel)
    (hts : ts.map (·.kind) = cases.flatMap caseKinds ++ .blockEnd :: rest) :
    ∃ items r, entries? fuel handles true ts = some (items, r) ∧
      List.Forall₂ IsCase cases items ∧ r.map (·.kind) = .blockEnd :: rest := by
  induction cases generalizing fuel ts with
  | nil =>
    obtain ⟨fuel, rfl⟩ := Nat.exists_eq_add_of_le' (Nat.le_trans (by decide) hfuel : 1 ≤ fuel)
    obtain ⟨_, _, r, rfl, hr⟩ := exists_cons_of_map_kind hts
    exact ⟨[], _, rfl, .nil, by simp [hr]⟩
  | cons c cases ih =>
    obtain ⟨fuel, rfl⟩ := Nat.exists_eq_add_of_le' (Nat.le_trans (by omega) hfuel : 2 ≤ fuel)
    rw [List.length_cons] at hfuel
    simp only [List.flatMap_cons, caseKinds, openKinds, List.cons_append, List.append_assoc,
      List.nil_append] at hts
    obtain ⟨_, _, ts₁, rfl, hts₁⟩ := exists_cons_of_map_kind hts
    obtain ⟨start, stop, ts₂, rfl, hts₂⟩ := exists_cons_of_map_kind hts₁
    have hcolumns : Column.all.length + 3 ≤ fuel := by
      have hcount : Column.all.length = 7 := rfl
      omega
    obtain ⟨entries, ts₃, hpairs, hentries, hts₃⟩ := pairs?_columns handles c hcolumns hts₂
    obtain ⟨items, r, hread, hitems, hr⟩ := ih (by omega : cases.length + 12 ≤ fuel + 1) hts₃
    have hcase : IsCase c (.mapping start .none entries : NamedNode) :=
      ⟨start, entries, rfl, hentries⟩
    refine ⟨_, r, ?_, .cons hcase hitems, hr⟩
    have hmapping := read?_mapping false start stop hpairs
    rw [entries?]
    simp [endsEntry, kindOf, hmapping, hread]

theorem length_le_caseKinds (cases : List TestCase) :
    cases.length ≤ (cases.flatMap caseKinds).length := by
  induction cases with
  | nil => exact Nat.le_refl 0
  | cons c cases ih =>
    simp only [List.flatMap_cons, caseKinds, openKinds, List.length_append, List.length_cons]
    omega

theorem documentOf?_nil {ts : List Token} (hts : ts.map (·.kind) = sheetKinds []) :
    ∃ n, documentOf? ts = some (.ok n) ∧ IsSheet [] n := by
  obtain ⟨m, _, ts₁, rfl, hts₁⟩ := exists_cons_of_map_kind hts
  obtain ⟨_, _, ts₂, rfl, hts₂⟩ := exists_cons_of_map_kind hts₁
  obtain ⟨mk, _, ts₃, rfl, hts₃⟩ := exists_cons_of_map_kind hts₂
  obtain ⟨_, _, ts₄, rfl, hts₄⟩ := exists_cons_of_map_kind hts₃
  obtain ⟨ms, _, ts₅, rfl, hts₅⟩ := exists_cons_of_map_kind hts₄
  obtain ⟨_, _, ts₆, rfl, hts₆⟩ := exists_cons_of_map_kind hts₅
  obtain ⟨_, _, ts₇, rfl, hts₇⟩ := exists_cons_of_map_kind hts₆
  obtain ⟨_, _, ts₈, rfl, hts₈⟩ := exists_cons_of_map_kind hts₇
  obtain rfl := List.map_eq_nil_iff.1 hts₈
  exact ⟨_, rfl, m, ms, _, [], rfl, ⟨mk, .plain, rfl⟩, .nil⟩

theorem documentOf?_cons {c : TestCase} {cs : List TestCase} {ts : List Token}
    (hts : ts.map (·.kind) = sheetKinds (c :: cs)) :
    ∃ n, documentOf? ts = some (.ok n) ∧ IsSheet (c :: cs) n := by
  have hlist : listKinds (c :: cs) = (c :: cs).flatMap caseKinds := rfl
  rw [sheetKinds, hlist] at hts
  have hlength : ts.length = 6 + ((c :: cs).flatMap caseKinds).length := by
    rw [← List.length_map, hts]
    simp only [List.length_cons, List.length_append, List.length_nil]
    omega
  have hcases := length_le_caseKinds (c :: cs)
  obtain ⟨fuel, hfuel, hmany⟩ : ∃ fuel, fuelFor ts = fuel + 5 ∧
      (c :: cs).length + 12 ≤ fuel + 1 := by
    refine ⟨16 + 3 * ((c :: cs).flatMap caseKinds).length, ?_, ?_⟩
    · rw [fuelFor, hlength]
      omega
    · omega
  obtain ⟨m, stop, ts₁, rfl, hts₁⟩ := exists_cons_of_map_kind hts
  obtain ⟨a, b, ts₂, rfl, hts₂⟩ := exists_cons_of_map_kind hts₁
  obtain ⟨mk, mk', ts₃, rfl, hts₃⟩ := exists_cons_of_map_kind hts₂
  obtain ⟨a', b', ts₄, rfl, hts₄⟩ := exists_cons_of_map_kind hts₃
  obtain ⟨items, r, hentries, hitems, hr⟩ := entries?_cases .default hmany hts₄
  -- The list starts with an entry.
  obtain ⟨ms, ms', ts₅, rfl, -⟩ := exists_cons_of_map_kind hts₄
  -- Behind it the mapping ends, and then the source.
  obtain ⟨_, _, r₁, rfl, hr₁⟩ := exists_cons_of_map_kind hr
  obtain ⟨e, e', r₂, rfl, -⟩ := exists_cons_of_map_kind hr₁
  have hpairs : pairs? (fuel + 4) .default (⟨.key, a, b⟩ ::
      ⟨.scalar .plain casesKey.toList, mk, mk'⟩ :: ⟨.value, a', b'⟩ :: ⟨.blockEntry, ms, ms'⟩ ::
        ts₅) = some ([(.scalar mk .none .plain casesKey.toList, .sequence ms .none items)],
          ⟨.streamEnd, e, e'⟩ :: r₂) := pairs?_cons (blockValue?_sequence hentries) rfl
  have hread := read?_mapping false m stop hpairs
  have hsheet : IsSheet (c :: cs) (.mapping m .none [(.scalar mk .none .plain casesKey.toList,
      .sequence ms .none items)] : NamedNode) :=
    ⟨m, ms, _, items, rfl, ⟨mk, .plain, rfl⟩, hitems⟩
  refine ⟨_, ?_, hsheet⟩
  simp only [documentOf?, kindOf, hfuel, hread]
  rfl

/-- **The node** that the tokens of a sheet make up. -/
theorem documentOf?_sheetKinds {cases : List TestCase} {ts : List Token}
    (hts : ts.map (·.kind) = sheetKinds cases) :
    ∃ n, documentOf? ts = some (.ok n) ∧ IsSheet cases n := by
  cases cases with
  | nil => exact documentOf?_nil hts
  | cons c cs => exact documentOf?_cons hts

/-! ## Linking -/

theorem linkEntries?_columns {c : TestCase} (names : AnchorNames) {ks : List Column}
    {entries : List (NamedNode × NamedNode)} (h : List.Forall₂ (IsColumn c) ks entries) :
    ∃ entries', linkEntries? names entries = some (entries', names) ∧
      List.Forall₂ (IsColumn c) ks entries' := by
  induction h with
  | nil => exact ⟨[], rfl, .nil⟩
  | @cons k e ks entries hcolumn _ ih =>
    obtain ⟨key, value⟩ := e
    obtain ⟨key', hkey, hkey'⟩ := link?_of_isText names hcolumn.1
    obtain ⟨value', hvalue, hvalue'⟩ := link?_of_isText names hcolumn.2
    obtain ⟨entries', hentries, hentries'⟩ := ih
    refine ⟨(key', value') :: entries', ?_, .cons ⟨hkey', hvalue'⟩ hentries'⟩
    rw [linkEntries?]
    simp [hkey, hvalue, hentries]

theorem link?_of_isCase {c : TestCase} (names : AnchorNames) {n : NamedNode} (h : IsCase c n) :
    ∃ n', link? names n = some (n', names) ∧ IsCase c n' := by
  obtain ⟨m, entries, rfl, hentries⟩ := h
  obtain ⟨entries', hlink, hentries'⟩ := linkEntries?_columns names hentries
  refine ⟨.mapping m .none entries', ?_, m, entries', rfl, hentries'⟩
  rw [link?]
  simp [properties_none, hlink]

theorem linkAll?_cases (names : AnchorNames) {cases : List TestCase} {items : List NamedNode}
    (h : List.Forall₂ IsCase cases items) :
    ∃ items', linkAll? names items = some (items', names) ∧
      List.Forall₂ IsCase cases items' := by
  induction h with
  | nil => exact ⟨[], rfl, .nil⟩
  | cons hcase _ ih =>
    obtain ⟨n', hlink, hn'⟩ := link?_of_isCase names hcase
    obtain ⟨items', hitems, hitems'⟩ := ih
    refine ⟨n' :: items', ?_, .cons hn' hitems'⟩
    rw [linkAll?]
    simp [hlink, hitems]

/-- A sheet has no anchors, so nothing changes when they are numbered. -/
theorem link?_of_isSheet {cases : List TestCase} {n : NamedNode} (h : IsSheet cases n) :
    ∃ n', link? [] n = some (n', []) ∧ IsSheet cases n' := by
  obtain ⟨m, m', k, items, rfl, hk, hitems⟩ := h
  obtain ⟨k', hkey, hk'⟩ := link?_of_isText [] hk
  obtain ⟨items', hlink, hitems'⟩ := linkAll?_cases [] hitems
  refine ⟨.mapping m .none [(k', .sequence m' .none items')], ?_, m, m', k', items', rfl, hk',
    hitems'⟩
  have hvalue : link? [] (.sequence m' .none items) = some (.sequence m' .none items', []) := by
    rw [link?]
    simp [properties_none, hlink]
  rw [link?]
  simp [properties_none, linkEntries?, hkey, hvalue]

/-- **The document** of a written sheet. -/
theorem readDocument?_writeYaml (cases : List TestCase) :
    ∃ d, readDocument? (writeYaml cases) = some d ∧ IsSheet cases d.root := by
  obtain ⟨ts, htokens, hkinds⟩ := tokens?_writeYaml cases
  obtain ⟨n, hread, hn⟩ := documentOf?_sheetKinds hkinds
  obtain ⟨n', hlink, hn'⟩ := link?_of_isSheet hn
  refine ⟨{ root := n', anchors := n'.anchored.reverse }, ?_, hn'⟩
  simp [readDocument?, document?, htokens, hread, Document.ofNode?, hlink]

end CaseSheet.Sheet

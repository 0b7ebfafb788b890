import CaseSheet.Json.Read
import Mathlib.Data.List.TakeWhile
/-!
# What is a JSON text

The grammar of JSON, by which a text is a value with blanks around it, whatever a reader makes
of it. The reader takes nothing else: each of its parts takes from the front of a text what the
grammar has at that place and leaves the rest.

* `IsNumeral`, `IsString`, `IsValue`, `IsText`: the grammar.
* `isNumeral_of_read?`, `isString_of_stringBody?`, `exists_of_items?`: the parts of the reader.
* `takesValue_of_value?`, `isText_of_parse?`: what is read is a JSON text.
* `not_isText_of_mem`: outside its strings a JSON text has few characters.
-/
namespace CaseSheet.Json

variable {cs r ds : List Char} {c : Char}

/-! ## The grammar -/

/-- One or more digits. -/
def IsDigits (ds : List Char) : Prop := ds ≠ [] ∧ ∀ d ∈ ds, Digits.isDigit d = true

/-- A zero alone, or digits that do not start with one. -/
inductive IsWhole : List Char → Prop
  | zero : IsWhole ['0']
  | digits {d : Char} {ds : List Char} (hd : d ≠ '0') (h : IsDigits (d :: ds)) : IsWhole (d :: ds)

inductive IsFraction : List Char → Prop
  | absent : IsFraction []
  | digits {ds : List Char} (h : IsDigits ds) : IsFraction ('.' :: ds)

inductive IsExponent : List Char → Prop
  | absent : IsExponent []
  | digits {mark : Char} {sign ds : List Char} (hmark : mark = 'e' ∨ mark = 'E')
      (hsign : sign = [] ∨ sign = ['+'] ∨ sign = ['-']) (h : IsDigits ds) :
    IsExponent (mark :: (sign ++ ds))

inductive IsNumeral : List Char → Prop
  | parts {sign whole fraction exponent : List Char} (hsign : sign = [] ∨ sign = ['-'])
      (hwhole : IsWhole whole) (hfraction : IsFraction fraction) (hexponent : IsExponent exponent) :
    IsNumeral (sign ++ (whole ++ (fraction ++ exponent)))

/-- A hexadecimal digit, of either case. -/
def IsHexDigit (c : Char) : Prop :=
  ('0' ≤ c ∧ c ≤ '9') ∨ ('a' ≤ c ∧ c ≤ 'f') ∨ ('A' ≤ c ∧ c ≤ 'F')

/-- What stands for one character of a string, or for half of one. -/
inductive IsUnit : List Char → Prop
  | plain {c : Char} (hcontrol : 0x20 ≤ c.toNat) (hquote : c ≠ '"') (hback : c ≠ '\\') : IsUnit [c]
  | letter {c : Char} (h : c ∈ ['"', '\\', '/', 'b', 'f', 'n', 'r', 't']) : IsUnit ['\\', c]
  | hex {c₁ c₂ c₃ c₄ : Char} (h₁ : IsHexDigit c₁) (h₂ : IsHexDigit c₂) (h₃ : IsHexDigit c₃)
      (h₄ : IsHexDigit c₄) : IsUnit ['\\', 'u', c₁, c₂, c₃, c₄]

/-- Units between quotes. -/
inductive IsString : List Char → Prop
  | quoted {units : List (List Char)} (h : ∀ u ∈ units, IsUnit u) :
    IsString ('"' :: (units.flatten ++ ['"']))

/-- Space, tab, line feed and carriage return. -/
def IsBlanks (cs : List Char) : Prop := ∀ c ∈ cs, c = ' ' ∨ c = '\t' ∨ c = '\n' ∨ c = '\r'

/-- A part of a text with blanks around it. -/
structure Spaced where
  before : List Char
  inner : List Char
  after : List Char
  isBlanks_before : IsBlanks before
  isBlanks_after : IsBlanks after

def Spaced.text (p : Spaced) : List Char := p.before ++ (p.inner ++ p.after)

/-- A member of an object: its key, a colon and its value. -/
def memberText (m : Spaced × Spaced) : List Char := m.1.text ++ ':' :: m.2.text

inductive IsValue : List Char → Prop
  | null : IsValue ['n', 'u', 'l', 'l']
  | true : IsValue ['t', 'r', 'u', 'e']
  | false : IsValue ['f', 'a', 'l', 's', 'e']
  | number {cs : List Char} (h : IsNumeral cs) : IsValue cs
  | string {cs : List Char} (h : IsString cs) : IsValue cs
  | emptyArray {blanks : List Char} (h : IsBlanks blanks) : IsValue ('[' :: (blanks ++ [']']))
  | array {items : List Spaced} (hne : items ≠ []) (each : ∀ p ∈ items, IsValue p.inner) :
    IsValue ('[' :: (List.intercalate [','] (items.map Spaced.text) ++ [']']))
  | emptyObject {blanks : List Char} (h : IsBlanks blanks) :
    IsValue ('\x7b' :: (blanks ++ ['\x7d']))
  | object {members : List (Spaced × Spaced)} (hne : members ≠ [])
      (keys : ∀ m ∈ members, IsString m.1.inner) (values : ∀ m ∈ members, IsValue m.2.inner) :
    IsValue ('\x7b' :: (List.intercalate [','] (members.map memberText) ++ ['\x7d']))

/-- A value, with blanks around it. -/
def IsText (cs : List Char) : Prop := ∃ p : Spaced, IsValue p.inner ∧ cs = p.text

/-! ## Numerals -/

namespace Numeral

theorem spanDigits_eq (cs : List Char) : cs = (spanDigits cs).1 ++ (spanDigits cs).2 :=
  List.takeWhile_append_dropWhile.symm

theorem isDigit_of_mem_spanDigits (cs : List Char) :
    ∀ d ∈ (spanDigits cs).1, Digits.isDigit d = true := fun _ hd => List.mem_takeWhile_imp hd

/-- The digits in front of a text, if it has any. -/
theorem of_spanDigits (h : spanDigits cs = (ds, r)) (hne : ds ≠ []) :
    IsDigits ds ∧ cs = ds ++ r := by
  have heq := spanDigits_eq cs
  have hall := isDigit_of_mem_spanDigits cs
  rw [h] at heq hall
  exact ⟨⟨hne, hall⟩, heq⟩

theorem isWhole_of_wholePart? (h : wholePart? cs = some (ds, r)) : IsWhole ds ∧ cs = ds ++ r := by
  unfold wholePart? at h
  split at h
  · cases h
  · cases h
  · next ds' r' hnil hzero heq =>
    cases h
    cases ds with
    | nil => exact absurd rfl hnil
    | cons d ds =>
      obtain ⟨hdigits, hcs⟩ := of_spanDigits heq (by simp)
      refine ⟨?_, hcs⟩
      by_cases hd : d = '0'
      · subst hd
        cases ds with
        | nil => exact .zero
        | cons e ds => exact absurd rfl (hzero e ds)
      · exact .digits hd hdigits

theorem isFraction_of_fractionPart? (h : fractionPart? cs = some (ds, r)) :
    ∃ taken, IsFraction taken ∧ cs = taken ++ r := by
  unfold fractionPart? at h
  split at h
  · next cs' =>
    split at h
    · cases h
    · next ds' r' hnil heq =>
      cases h
      obtain ⟨hdigits, hcs⟩ := of_spanDigits heq hnil
      exact ⟨'.' :: ds, .digits hdigits, by rw [hcs, List.cons_append]⟩
  · cases h
    exact ⟨[], .absent, rfl⟩

theorem exists_exponentSign (cs : List Char) :
    ∃ sign, (sign = [] ∨ sign = ['+'] ∨ sign = ['-']) ∧ cs = sign ++ (exponentSign cs).2 := by
  unfold exponentSign
  split
  · exact ⟨['+'], by simp, rfl⟩
  · exact ⟨['-'], by simp, rfl⟩
  · exact ⟨[], by simp, rfl⟩

theorem isExponent_of_exponentPart? {e : Option (Bool × List Char)}
    (h : exponentPart? cs = some (e, r)) : ∃ taken, IsExponent taken ∧ cs = taken ++ r := by
  unfold exponentPart? at h
  split at h
  · next mark cs' =>
    split at h
    · next hmark =>
      obtain ⟨sign, hsign, hcs'⟩ := exists_exponentSign cs'
      dsimp only at h
      split at h
      · cases h
      · next ds r' hnil heq =>
        cases h
        obtain ⟨hdigits, hrest⟩ := of_spanDigits heq hnil
        refine ⟨mark :: (sign ++ ds), .digits hmark hsign hdigits, ?_⟩
        rw [List.cons_append, List.append_assoc, ← hrest, ← hcs']
    · cases h
      exact ⟨[], .absent, rfl⟩
  · cases h
    exact ⟨[], .absent, rfl⟩

theorem exists_leadingSign (cs : List Char) :
    ∃ sign, (sign = [] ∨ sign = ['-']) ∧ cs = sign ++ (leadingSign cs).2 := by
  unfold leadingSign
  split
  · exact ⟨['-'], by simp, rfl⟩
  · exact ⟨[], by simp, rfl⟩

theorem isNumeral_of_read? {n : Numeral} (h : read? cs = some (n, r)) :
    ∃ taken, IsNumeral taken ∧ cs = taken ++ r := by
  obtain ⟨sign, hsign, hcs⟩ := exists_leadingSign cs
  simp only [read?, Option.bind_eq_bind, Option.bind_eq_some_iff, Prod.exists, Option.pure_def,
    Option.some.injEq, Prod.mk.injEq] at h
  obtain ⟨whole, r₁, hwhole, ds, r₂, hfraction, e, r₃, hexponent, -, rfl⟩ := h
  obtain ⟨hw, h₁⟩ := isWhole_of_wholePart? hwhole
  obtain ⟨fraction, hf, h₂⟩ := isFraction_of_fractionPart? hfraction
  obtain ⟨exponent, he, h₃⟩ := isExponent_of_exponentPart? hexponent
  refine ⟨_, .parts hsign hw hf he, ?_⟩
  calc cs = sign ++ (leadingSign cs).2 := hcs
    _ = sign ++ (whole ++ (fraction ++ (exponent ++ r₃))) := by rw [h₁, h₂, h₃]
    _ = sign ++ (whole ++ (fraction ++ exponent)) ++ r₃ := by simp only [List.append_assoc]

end Numeral

/-! ## Strings -/

theorem isHexDigit_of_value? {n : Nat} (h : Hex.value? c = some n) : IsHexDigit c := by
  unfold Hex.value? at h
  split at h
  · next hc => exact Or.inl hc
  · split at h
    · next hc => exact Or.inr (Or.inl hc)
    · split at h
      · next hc => exact Or.inr (Or.inr hc)
      · cases h

theorem isUnit_of_codeUnit? {n : Nat} (h : codeUnit? cs = some (n, r)) :
    ∃ taken, IsUnit ('\\' :: 'u' :: taken) ∧ cs = taken ++ r := by
  unfold codeUnit? at h
  split at h
  · next c₁ c₂ c₃ c₄ cs' =>
    simp only [Option.bind_eq_bind, Option.bind_eq_some_iff, Option.pure_def, Option.some.injEq,
      Prod.mk.injEq] at h
    obtain ⟨_, h₁, _, h₂, _, h₃, _, h₄, -, rfl⟩ := h
    exact ⟨[c₁, c₂, c₃, c₄], .hex (isHexDigit_of_value? h₁) (isHexDigit_of_value? h₂)
      (isHexDigit_of_value? h₃) (isHexDigit_of_value? h₄), rfl⟩
  · cases h

/-- What is read of a string is a run of units: two of them for a character that is escaped as a
pair, and one for every other. -/
def TakesUnits (cs r : List Char) : Prop :=
  ∃ units : List (List Char), (∀ u ∈ units, IsUnit u) ∧ cs = units.flatten ++ r

theorem TakesUnits.of_isUnit {taken : List Char} (h : IsUnit taken) (r : List Char) :
    TakesUnits (taken ++ r) r := ⟨[taken], by simpa using h, by simp⟩

theorem TakesUnits.trans {cs r r' : List Char} (h : TakesUnits cs r) (h' : TakesUnits r r') :
    TakesUnits cs r' := by
  obtain ⟨units, hunits, rfl⟩ := h
  obtain ⟨units', hunits', rfl⟩ := h'
  refine ⟨units ++ units', List.forall_mem_append.2 ⟨hunits, hunits'⟩, ?_⟩
  rw [List.flatten_append, List.append_assoc]

theorem takesUnits_of_codeUnit? {n : Nat} (h : codeUnit? cs = some (n, r)) :
    TakesUnits ('\\' :: 'u' :: cs) r := by
  obtain ⟨taken, htaken, rfl⟩ := isUnit_of_codeUnit? h
  exact .of_isUnit htaken r

theorem takesUnits_of_escapedUnit? (h : escapedUnit? cs = some (c, r)) :
    TakesUnits ('\\' :: 'u' :: cs) r := by
  unfold escapedUnit? at h
  simp only [Option.bind_eq_bind, Option.bind_eq_some_iff, Prod.exists] at h
  obtain ⟨u, r₁, hu, h⟩ := h
  have hfirst := takesUnits_of_codeUnit? hu
  split at h
  · cases h
  · split at h
    · split at h
      · next r₂ =>
        simp only [Option.bind_eq_some_iff, Prod.exists] at h
        obtain ⟨t, r₃, ht, h⟩ := h
        split at h
        · simp only [Option.pure_def, Option.some.injEq, Prod.mk.injEq] at h
          rw [← h.2]
          exact hfirst.trans (takesUnits_of_codeUnit? ht)
        · cases h
      · cases h
    · simp only [Option.pure_def, Option.some.injEq, Prod.mk.injEq] at h
      rw [← h.2]
      exact hfirst

theorem takesUnits_of_escape? (h : escape? cs = some (c, r)) : TakesUnits ('\\' :: cs) r := by
  unfold escape? at h
  split at h
  case h_9 => exact takesUnits_of_escapedUnit? h
  case h_10 => cases h
  all_goals
    cases h
    exact .of_isUnit (.letter (by decide)) r

theorem takesUnits_of_stringBody? {s : List Char} (h : stringBody? cs = some (s, r)) :
    TakesUnits cs ('"' :: r) := by
  fun_induction stringBody? cs generalizing s with
  | case1 => cases h
  | case2 r' =>
    cases h
    exact ⟨[], by simp, rfl⟩
  | case3 => cases h
  | case4 cs' c r' hescape hlength ih =>
    obtain ⟨⟨s', r''⟩, hbody, heq⟩ := Option.map_eq_some_iff.1 h
    cases heq
    exact (takesUnits_of_escape? hescape).trans (ih hbody)
  | case5 => cases h
  | case6 c cs' hquote hback hcontrol ih =>
    obtain ⟨⟨s', r''⟩, hbody, heq⟩ := Option.map_eq_some_iff.1 h
    cases heq
    have hunit : IsUnit [c] := by
      refine .plain (Nat.le_of_not_lt hcontrol) ?_ ?_
      · rintro rfl; exact hquote rfl
      · rintro rfl; exact hback rfl
    exact (TakesUnits.of_isUnit hunit cs').trans (ih hbody)

theorem isString_of_stringBody? {s : List Char} (h : stringBody? cs = some (s, r)) :
    ∃ taken, IsString taken ∧ '"' :: cs = taken ++ r := by
  obtain ⟨units, hunits, rfl⟩ := takesUnits_of_stringBody? h
  exact ⟨_, .quoted hunits, by simp⟩

/-! ## Values -/

theorem isBlanks_of_isBlank (h : ∀ c ∈ cs, isBlank c = true) : IsBlanks cs := by
  intro c hc
  have hblank := h c hc
  simp only [isBlank, Bool.or_eq_true, beq_iff_eq, or_assoc] at hblank
  exact hblank

theorem isBlanks_nil : IsBlanks [] := List.forall_mem_nil _

theorem exists_skipBlanks (cs : List Char) :
    ∃ blanks, IsBlanks blanks ∧ cs = blanks ++ skipBlanks cs :=
  ⟨cs.takeWhile isBlank, isBlanks_of_isBlank fun _ hc => List.mem_takeWhile_imp hc,
    List.takeWhile_append_dropWhile.symm⟩

theorem isValue_of_word? {v : Value} (h : word? cs = some (v, r)) :
    ∃ taken, IsValue taken ∧ cs = taken ++ r := by
  unfold word? at h
  split at h
  · next hnull =>
    cases h
    exact ⟨_, .null, Text.stripStart?_eq_some_iff.1 hnull⟩
  · split at h
    · next htrue =>
      cases h
      exact ⟨_, .true, Text.stripStart?_eq_some_iff.1 htrue⟩
    · obtain ⟨r', hfalse, heq⟩ := Option.map_eq_some_iff.1 h
      cases heq
      exact ⟨_, .false, Text.stripStart?_eq_some_iff.1 hfalse⟩

theorem isValue_of_number? {v : Value} (h : number? cs = some (v, r)) :
    ∃ taken, IsValue taken ∧ cs = taken ++ r := by
  simp only [number?, Option.bind_eq_bind, Option.bind_eq_some_iff, Prod.exists, Option.pure_def,
    Option.some.injEq, Prod.mk.injEq] at h
  obtain ⟨n, r', hread, _, -, -, rfl⟩ := h
  obtain ⟨taken, htaken, heq⟩ := Numeral.isNumeral_of_read? hread
  exact ⟨taken, .number htaken, heq⟩

theorem isValue_of_scalar? {v : Value} (h : scalar? cs = some (v, r)) :
    ∃ taken, IsValue taken ∧ cs = taken ++ r := by
  unfold scalar? at h
  split at h
  · obtain ⟨⟨s, r'⟩, hbody, heq⟩ := Option.map_eq_some_iff.1 h
    cases heq
    obtain ⟨taken, htaken, heq⟩ := isString_of_stringBody? hbody
    exact ⟨taken, .string htaken, heq⟩
  · rcases Option.or_eq_some_iff.1 h with h | ⟨-, h⟩
    · exact isValue_of_word? h
    · exact isValue_of_number? h

section Items

variable {α β : Type} {item? : List Char → Option (α × List Char)} {close : Char} {q : β → Prop}
  {front : List Char}

/-- The reader of items takes texts of items with commas between them and the closing character, if
the reader of one takes the text of one, with the blanks on both sides. -/
theorem exists_of_items? (text : β → List Char)
    (hitem : ∀ {front cs behind r : List Char} {a : α}, IsBlanks front → IsBlanks behind →
      item? cs = some (a, behind ++ r) → ∃ b, q b ∧ front ++ cs = text b ++ r)
    {as : List α} (hfront : IsBlanks front) (h : items? item? close cs = some (as, r)) :
    ∃ bs : List β, bs ≠ [] ∧ (∀ b ∈ bs, q b) ∧
      front ++ cs = List.intercalate [','] (bs.map text) ++ close :: r := by
  fun_induction items? item? close cs generalizing as front with
  | case1 => cases h
  | case2 => cases h
  | case3 cs a r₁ hread r₂ hskip =>
    cases h
    obtain ⟨behind, hbehind, heq⟩ := exists_skipBlanks r₁
    rw [heq, hskip] at hread
    obtain ⟨b, hb, hcs⟩ := hitem hfront hbehind hread
    exact ⟨[b], by simp, by simpa using hb, by simpa using hcs⟩
  | case4 cs a r₁ hread r₂ hlength hskip hcomma ih =>
    obtain ⟨⟨as', r'⟩, hrest, heq⟩ := Option.map_eq_some_iff.1 h
    cases heq
    obtain ⟨behind, hbehind, heq⟩ := exists_skipBlanks r₁
    rw [heq, hskip] at hread
    obtain ⟨b, hb, hcs⟩ := hitem hfront hbehind hread
    -- Blanks behind a comma belong to the item that follows, as far as its reader takes them.
    obtain ⟨bs, hne, hbs, hr₂⟩ := ih isBlanks_nil hrest
    refine ⟨b :: bs, by simp, List.forall_mem_cons.2 ⟨hb, hbs⟩, ?_⟩
    rw [List.nil_append] at hr₂
    rw [hcs, List.map_cons, List.intercalate_cons_of_ne_nil (by simpa using hne), hr₂]
    simp
  | case5 => cases h
  | case6 => cases h

end Items

/-- What is read at the front of a text is a value, with blanks before it. -/
def TakesValue (cs r : List Char) : Prop :=
  ∃ before inner, IsBlanks before ∧ IsValue inner ∧ cs = before ++ (inner ++ r)

theorem TakesValue.exists_spaced {front behind : List Char} (hfront : IsBlanks front)
    (hbehind : IsBlanks behind) (h : TakesValue cs (behind ++ r)) :
    ∃ p : Spaced, IsValue p.inner ∧ front ++ cs = p.text ++ r := by
  obtain ⟨before, inner, hbefore, hinner, rfl⟩ := h
  refine ⟨⟨front ++ before, inner, behind, List.forall_mem_append.2 ⟨hfront, hbefore⟩, hbehind⟩,
    hinner, ?_⟩
  simp [Spaced.text]

section Depth

variable {value? : List Char → Option (Value × List Char)}

/-- A member is taken if its value is. -/
theorem exists_of_member? (hvalue : ∀ {cs r v}, value? cs = some (v, r) → TakesValue cs r)
    {front behind : List Char} {f : String × Value} (hfront : IsBlanks front)
    (hbehind : IsBlanks behind) (h : member? value? cs = some (f, behind ++ r)) :
    ∃ m : Spaced × Spaced, (IsString m.1.inner ∧ IsValue m.2.inner) ∧
      front ++ cs = memberText m ++ r := by
  unfold member? at h
  obtain ⟨before, hbefore, hcs⟩ := exists_skipBlanks cs
  split at h
  · next cs' hskip =>
    simp only [Option.bind_eq_bind, Option.bind_eq_some_iff, Prod.exists] at h
    obtain ⟨k, r₁, hbody, h⟩ := h
    obtain ⟨key, hkey, hquoted⟩ := isString_of_stringBody? hbody
    obtain ⟨after, hafter, hr₁⟩ := exists_skipBlanks r₁
    split at h
    · next r₂ hcolon =>
      simp only [Option.bind_eq_some_iff, Prod.exists, Option.pure_def, Option.some.injEq,
        Prod.mk.injEq] at h
      obtain ⟨v, r₃, hv, -, rfl⟩ := h
      obtain ⟨p, hp, hr₂⟩ := (hvalue hv).exists_spaced isBlanks_nil hbehind
      have hspaced : IsBlanks (front ++ before) := List.forall_mem_append.2 ⟨hfront, hbefore⟩
      refine ⟨(⟨front ++ before, key, after, hspaced, hafter⟩, p), ⟨hkey, hp⟩, ?_⟩
      rw [List.nil_append] at hr₂
      rw [hcs, hskip, hquoted, hr₁, hcolon, hr₂]
      simp [memberText, Spaced.text]
    · cases h
  · cases h

theorem isValue_of_items? (hvalue : ∀ {cs r v}, value? cs = some (v, r) → TakesValue cs r)
    {items : List Value} (h : items? value? ']' (skipBlanks cs) = some (items, r)) :
    ∃ taken, IsValue taken ∧ '[' :: cs = taken ++ r := by
  obtain ⟨front, hfront, hcs⟩ := exists_skipBlanks cs
  obtain ⟨ps, hne, hps, heq⟩ := exists_of_items? Spaced.text
    (fun hf hb hread => (hvalue hread).exists_spaced hf hb) hfront h
  exact ⟨_, .array hne hps, by rw [hcs, heq]; simp⟩

theorem isValue_of_members? (hvalue : ∀ {cs r v}, value? cs = some (v, r) → TakesValue cs r)
    {fields : List (String × Value)}
    (h : items? (member? value?) '\x7d' (skipBlanks cs) = some (fields, r)) :
    ∃ taken, IsValue taken ∧ '\x7b' :: cs = taken ++ r := by
  obtain ⟨front, hfront, hcs⟩ := exists_skipBlanks cs
  obtain ⟨ms, hne, hms, heq⟩ := exists_of_items? memberText
    (fun hf hb hread => exists_of_member? hvalue hf hb hread) hfront h
  refine ⟨_, .object hne (fun m hm => (hms m hm).1) (fun m hm => (hms m hm).2), ?_⟩
  rw [hcs, heq]
  simp

end Depth

/-- What is read with some depth of nesting is a value; by induction on the depth. -/
theorem takesValue_of_value? {depth : Nat} {v : Value} (h : value? depth cs = some (v, r)) :
    TakesValue cs r := by
  induction depth generalizing cs r v with
  | zero =>
    obtain ⟨before, hbefore, hcs⟩ := exists_skipBlanks cs
    rw [value?.eq_3] at h
    · obtain ⟨taken, htaken, hskip⟩ := isValue_of_scalar? h
      exact ⟨before, taken, hbefore, htaken, by rw [← hskip, ← hcs]⟩
    · rintro _ _ - ⟨⟩
    · rintro _ _ - ⟨⟩
  | succ depth ih =>
    obtain ⟨before, hbefore, hcs⟩ := exists_skipBlanks cs
    suffices hinner : ∃ taken, IsValue taken ∧ skipBlanks cs = taken ++ r by
      obtain ⟨taken, htaken, hskip⟩ := hinner
      exact ⟨before, taken, hbefore, htaken, by rw [← hskip, ← hcs]⟩
    unfold value? at h
    split at h
    · next r₁ d hskip hd =>
      cases hd
      rw [hskip]
      obtain ⟨blanks, hblanks, hr₁⟩ := exists_skipBlanks r₁
      split at h
      · next r₂ hclose =>
        cases h
        exact ⟨_, .emptyArray hblanks, by rw [hr₁, hclose]; simp⟩
      · obtain ⟨⟨items, r₂⟩, hitems, heq⟩ := Option.map_eq_some_iff.1 h
        cases heq
        exact isValue_of_items? ih hitems
    · next r₁ d hskip hd =>
      cases hd
      rw [hskip]
      obtain ⟨blanks, hblanks, hr₁⟩ := exists_skipBlanks r₁
      split at h
      · next r₂ hclose =>
        cases h
        exact ⟨_, .emptyObject hblanks, by rw [hr₁, hclose]; simp⟩
      · obtain ⟨⟨fields, r₂⟩, hfields, heq⟩ := Option.map_eq_some_iff.1 h
        cases heq
        exact isValue_of_members? ih hfields
    · exact isValue_of_scalar? h

/-- **What is read is a JSON text.** -/
theorem isText_of_parse? {v : Value} (h : parse? cs = some v) : IsText cs := by
  unfold parse? at h
  split at h
  · next w r hvalue =>
    obtain ⟨before, inner, hbefore, hinner, rfl⟩ := takesValue_of_value? hvalue
    split at h
    · next hend =>
      obtain ⟨after, hafter, hr⟩ := exists_skipBlanks r
      rw [List.isEmpty_iff.1 hend, List.append_nil] at hr
      subst hr
      exact ⟨⟨before, inner, r, hbefore, hafter⟩, hinner, rfl⟩
    · cases h
  · cases h

/-! ## What is no JSON text -/

/-- The characters that a text can have outside its strings. -/
def isBare (c : Char) : Bool :=
  Digits.isDigit c || "[]\x7b\x7d,: \t\n\r+-.eEnulltruefalse".toList.contains c

/-- A text has a string in it, or such characters alone. -/
def IsBare (cs : List Char) : Prop := '"' ∈ cs ∨ ∀ c ∈ cs, isBare c = true

theorem IsBare.nil : IsBare [] := Or.inr (List.forall_mem_nil _)

theorem IsBare.append {a b : List Char} (ha : IsBare a) (hb : IsBare b) : IsBare (a ++ b) := by
  rcases ha with ha | ha
  · exact Or.inl (List.mem_append_left b ha)
  · rcases hb with hb | hb
    · exact Or.inl (List.mem_append_right a hb)
    · exact Or.inr (List.forall_mem_append.2 ⟨ha, hb⟩)

theorem IsBare.cons (hc : isBare c = true) (h : IsBare cs) : IsBare (c :: cs) := by
  have hsingle : IsBare [c] := Or.inr (by simpa using hc)
  exact hsingle.append h

theorem IsBare.intercalate {ls : List (List Char)} (h : ∀ l ∈ ls, IsBare l) :
    IsBare (List.intercalate [','] ls) := by
  induction ls with
  | nil => exact .nil
  | cons l ls ih =>
    cases ls with
    | nil => simpa using h l (by simp)
    | cons l' ls =>
      rw [List.intercalate_cons_cons, List.append_assoc, List.singleton_append]
      exact (h l (by simp)).append (.cons (by decide) (ih fun m hm => h m (by simp [hm])))

theorem IsBare.of_isBlanks (h : IsBlanks cs) : IsBare cs := by
  refine Or.inr fun c hc => ?_
  rcases h c hc with rfl | rfl | rfl | rfl <;> decide

theorem IsBare.spaced {p : Spaced} (h : IsBare p.inner) : IsBare p.text :=
  (of_isBlanks p.isBlanks_before).append (h.append (of_isBlanks p.isBlanks_after))

theorem IsBare.of_isDigits (h : IsDigits ds) : IsBare ds :=
  Or.inr fun d hd => by simp [isBare, h.2 d hd]

theorem IsBare.of_isNumeral (h : IsNumeral cs) : IsBare cs := by
  obtain ⟨hsign, hwhole, hfraction, hexponent⟩ := h
  refine .append ?_ (.append ?_ (.append ?_ ?_))
  · rcases hsign with rfl | rfl
    · exact .nil
    · exact .cons (by decide) .nil
  · cases hwhole with
    | zero => exact .cons (by decide) .nil
    | digits hd h => exact .of_isDigits h
  · cases hfraction with
    | absent => exact .nil
    | digits h => exact .cons (by decide) (.of_isDigits h)
  · cases hexponent with
    | absent => exact .nil
    | digits hmark hsign h =>
      refine .cons ?_ (.append ?_ (.of_isDigits h))
      · rcases hmark with rfl | rfl <;> decide
      · rcases hsign with rfl | rfl | rfl
        · exact .nil
        · exact .cons (by decide) .nil
        · exact .cons (by decide) .nil

theorem IsBare.of_isString (h : IsString cs) : IsBare cs := by
  obtain ⟨-⟩ := h
  exact Or.inl (by simp)

theorem IsBare.of_isValue (h : IsValue cs) : IsBare cs := by
  have hclose {c : Char} (hc : isBare c = true) : IsBare [c] := .cons hc .nil
  induction h with
  | null | true | false => exact Or.inr (by simp [isBare])
  | number h => exact .of_isNumeral h
  | string h => exact .of_isString h
  | emptyArray h | emptyObject h =>
    exact .cons (by decide) ((of_isBlanks h).append (hclose (by decide)))
  | array hne each ih =>
    refine .cons (by decide) (.append (.intercalate fun l hl => ?_) (hclose (by decide)))
    obtain ⟨p, hp, rfl⟩ := List.mem_map.1 hl
    exact (ih p hp).spaced
  | object hne keys values ih =>
    refine .cons (by decide) (.append (.intercalate fun l hl => ?_) (hclose (by decide)))
    obtain ⟨m, hm, rfl⟩ := List.mem_map.1 hl
    exact (of_isString (keys m hm)).spaced.append (.cons (by decide) (ih m hm).spaced)

/-- A character that no word and no number has makes a text without strings no JSON text. -/
theorem not_isText_of_mem (hc : c ∈ cs) (hbare : isBare c = false) (hquote : '"' ∉ cs) :
    ¬ IsText cs := by
  rintro ⟨p, hp, rfl⟩
  rcases (IsBare.of_isValue hp).spaced with h | h
  · exact hquote h
  · rw [h c hc] at hbare
    cases hbare

end CaseSheet.Json

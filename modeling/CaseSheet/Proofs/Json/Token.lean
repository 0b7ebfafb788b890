import CaseSheet.Json.Read
import CaseSheet.Json.Write
import CaseSheet.Proofs.Digits
import Mathlib.Data.List.TakeWhile
import Mathlib.Tactic.ByContra
/-!
# Parts of a JSON text

What the writer puts down for a string, a whole number or a word, the reader takes for the same, with
anything behind it: a string ends at its quote, and a numeral where no more of it can follow.

* `stringBody?_flatMap`: a string with its escapes is read back.
* `number?_signed`: a whole number of 64 bits is read back.
* `number?_append`, `scalar?_number`: a numeral is read up to its end.
-/
namespace CaseSheet.Json

/-! ## Blanks -/

variable {cs rest blanks : List Char}

theorem skipBlanks_append (h : ∀ c ∈ blanks, isBlank c = true) (cs : List Char) :
    skipBlanks (blanks ++ cs) = skipBlanks cs :=
  List.dropWhile_append_of_pos h

theorem skipBlanks_cons {c : Char} (h : isBlank c = false) (cs : List Char) :
    skipBlanks (c :: cs) = c :: cs := by
  rw [skipBlanks, List.dropWhile_cons_of_neg (by simp [h])]

/-! ## Strings -/

/-- An escape of two letters, or of six, is read as the character that it stands for. -/
theorem stringBody?_escape {c : Char} {escaped : List Char}
    (h : escape? escaped = some (c, rest)) :
    stringBody? ('\\' :: escaped) = (stringBody? rest).map fun p => (c :: p.1, p.2) := by
  rw [stringBody?]
  split
  · next hnone => rw [h] at hnone; cases hnone
  · next c' r hsome =>
    rw [h] at hsome
    cases hsome
    rfl

theorem codeUnit?_control {c : Char} (h : c.toNat < 0x20) (rest : List Char) :
    codeUnit? ('0' :: '0' :: Hex.lowerDigit (c.toNat / 16) :: Hex.lowerDigit (c.toNat % 16) ::
      rest) = some (c.toNat, rest) := by
  have hzero : Hex.value? '0' = some 0 := by decide
  have hhigh := Hex.value?_lowerDigit (n := c.toNat / 16) (by omega)
  have hlow := Hex.value?_lowerDigit (n := c.toNat % 16) (by omega)
  simp only [codeUnit?, hzero, hhigh, hlow, Option.bind_eq_bind, Option.bind_some,
    Option.pure_def, Option.some.injEq, Prod.mk.injEq, and_true]
  omega

theorem escape?_control {c : Char} (h : c.toNat < 0x20) (rest : List Char) :
    escape? ('u' :: '0' :: '0' :: Hex.lowerDigit (c.toNat / 16) ::
      Hex.lowerDigit (c.toNat % 16) :: rest) = some (c, rest) := by
  have htrailing : isTrailing c.toNat = false := by simp [isTrailing]; omega
  have hleading : isLeading c.toNat = false := by simp [isLeading]; omega
  simp [escape?, escapedUnit?, codeUnit?_control h, htrailing, hleading]

theorem stringBody?_escapeChar (c : Char) (rest : List Char) :
    stringBody? (escapeChar c ++ rest) = (stringBody? rest).map fun p => (c :: p.1, p.2) := by
  unfold escapeChar
  split
  case h_8 c hquote hback _ _ _ _ _ =>
    split
    · next h => exact stringBody?_escape (escape?_control h rest)
    · next h =>
      rw [List.singleton_append, stringBody?]
      · rw [if_neg h]
      · exact hquote
      · exact hback
  all_goals exact stringBody?_escape rfl

/-- A written string is read back, whatever stands behind it. -/
theorem stringBody?_flatMap (cs rest : List Char) :
    stringBody? (cs.flatMap escapeChar ++ '"' :: rest) = some (cs, rest) := by
  induction cs with
  | nil => rw [List.flatMap_nil, List.nil_append, stringBody?]
  | cons c cs ih => rw [List.flatMap_cons, List.append_assoc, stringBody?_escapeChar, ih]; rfl

/-! ## Numerals -/

/-- What can stand behind a numeral: the text ends, or goes on with a character that no numeral
has at that place. -/
def EndsNumeral (rest : List Char) : Prop :=
  ∀ c ∈ rest.head?, Digits.isDigit c = false ∧ c ≠ '.' ∧ c ≠ 'e' ∧ c ≠ 'E'

/-- The characters with which numerals start. -/
def startsNumeral (c : Char) : Bool := c == '-' || Digits.isDigit c

theorem ne_of_startsNumeral {c d : Char} (hc : startsNumeral c = true)
    (hd : startsNumeral d = false) : c ≠ d := by
  rintro rfl
  rw [hc] at hd
  cases hd

theorem isBlank_of_startsNumeral {c : Char} (hc : startsNumeral c = true) : isBlank c = false := by
  simp [isBlank, ne_of_startsNumeral hc (d := ' ') rfl, ne_of_startsNumeral hc (d := '\t') rfl,
    ne_of_startsNumeral hc (d := '\n') rfl, ne_of_startsNumeral hc (d := '\r') rfl]

namespace Numeral

theorem spanDigits_append (hrest : EndsNumeral rest) (cs : List Char) :
    spanDigits (cs ++ rest) = ((spanDigits cs).1, (spanDigits cs).2 ++ rest) := by
  induction cs with
  | nil =>
    cases rest with
    | nil => rfl
    | cons c rest => simp [spanDigits, (hrest c rfl).1]
  | cons c cs ih =>
    simp only [spanDigits, Prod.mk.injEq] at ih ⊢
    by_cases hc : Digits.isDigit c <;> simp [hc, ih]

theorem wholePart?_append {ds r : List Char} (hrest : EndsNumeral rest)
    (h : wholePart? cs = some (ds, r)) : wholePart? (cs ++ rest) = some (ds, r ++ rest) := by
  rw [wholePart?] at h ⊢
  rw [spanDigits_append hrest]
  generalize spanDigits cs = span at *
  split at h
  · cases h
  · cases h
  · next ds r hnil hzero =>
    cases h
    simp only

theorem fractionPart?_append {ds r : List Char} (hrest : EndsNumeral rest)
    (h : fractionPart? cs = some (ds, r)) :
    fractionPart? (cs ++ rest) = some (ds, r ++ rest) := by
  unfold fractionPart? at h
  split at h
  · next cs =>
    rw [List.cons_append, fractionPart?, spanDigits_append hrest]
    generalize spanDigits cs = span at *
    split at h
    · cases h
    · next ds r hnil =>
      cases h
      simp only
  · next hpoint =>
    cases h
    rw [fractionPart?]
    rintro r' heq
    cases cs with
    | nil => exact (hrest '.' (by rw [← List.nil_append rest, heq]; rfl)).2.1 rfl
    | cons c cs =>
      obtain ⟨rfl, -⟩ := List.cons.inj heq
      exact hpoint _ rfl

theorem exponentSign_append {negative : Bool} {r : List Char} (hcs : cs ≠ [])
    (h : exponentSign cs = (negative, r)) : exponentSign (cs ++ rest) = (negative, r ++ rest) := by
  unfold exponentSign at h
  split at h
  · cases h; rfl
  · cases h; rfl
  · next hplus hminus =>
    cases h
    cases cs with
    | nil => exact absurd rfl hcs
    | cons c cs =>
      rw [List.cons_append, exponentSign]
      · rintro r heq
        obtain ⟨rfl, -⟩ := List.cons.inj heq
        exact hplus _ rfl
      · rintro r heq
        obtain ⟨rfl, -⟩ := List.cons.inj heq
        exact hminus _ rfl

theorem exponentPart?_append {e : Option (Bool × List Char)} {r : List Char}
    (hrest : EndsNumeral rest) (h : exponentPart? cs = some (e, r)) :
    exponentPart? (cs ++ rest) = some (e, r ++ rest) := by
  cases cs with
  | nil =>
    cases h
    cases rest with
    | nil => rfl
    | cons c rest =>
      obtain ⟨-, -, he, hE⟩ := hrest c rfl
      simp [exponentPart?, he, hE]
  | cons c cs =>
    rw [exponentPart?] at h
    rw [List.cons_append, exponentPart?]
    by_cases hc : c = 'e' ∨ c = 'E'
    · rw [if_pos hc] at h ⊢
      cases hsign : exponentSign cs with
      | mk negative r =>
        have hcs : cs ≠ [] := by
          rintro rfl
          cases hsign
          cases h
        rw [exponentSign_append hcs hsign]
        simp only [hsign] at h ⊢
        rw [spanDigits_append hrest]
        generalize spanDigits r = span at *
        split at h
        · cases h
        · next ds r hnil =>
          cases h
          simp only
    · rw [if_neg hc] at h ⊢
      cases h
      rfl

theorem leadingSign_append (hcs : cs ≠ []) :
    leadingSign (cs ++ rest) = ((leadingSign cs).1, (leadingSign cs).2 ++ rest) := by
  cases cs with
  | nil => exact absurd rfl hcs
  | cons c cs =>
    by_cases hc : c = '-'
    · subst hc; rfl
    · have hleft (r : List Char) : leadingSign (c :: r) = (false, c :: r) := by
        rw [leadingSign]
        rintro r heq
        exact hc (List.cons.inj heq).1
      rw [List.cons_append, hleft, hleft]
      rfl

/-- A numeral is read up to its end. -/
theorem read?_append {n : Numeral} (hrest : EndsNumeral rest) (h : read? cs = some (n, [])) :
    read? (cs ++ rest) = some (n, rest) := by
  have hcs : cs ≠ [] := by
    rintro rfl
    cases h
  rw [read?] at h ⊢
  rw [leadingSign_append hcs]
  cases hsign : leadingSign cs with
  | mk negative r =>
    simp only [hsign, Option.bind_eq_bind, Option.bind_eq_some_iff, Prod.exists] at h ⊢
    obtain ⟨whole, r, hwhole, fraction, r, hfraction, exponent, r, hexponent, h⟩ := h
    cases h
    exact ⟨whole, _, wholePart?_append hrest hwhole, fraction, _,
      fractionPart?_append hrest hfraction, exponent, _, exponentPart?_append hrest hexponent, rfl⟩

theorem exists_cons_of_read? {n : Numeral} {r : List Char} (h : read? cs = some (n, r)) :
    ∃ c cs', cs = c :: cs' ∧ startsNumeral c = true := by
  cases cs with
  | nil => cases h
  | cons c cs =>
    refine ⟨c, cs, rfl, ?_⟩
    by_contra hc
    obtain ⟨hminus, hdigit⟩ : c ≠ '-' ∧ Digits.isDigit c = false := by
      simpa [startsNumeral] using hc
    have hsign : leadingSign (c :: cs) = (false, c :: cs) := by
      rw [leadingSign]
      rintro r heq
      exact hminus (List.cons.inj heq).1
    rw [read?, hsign] at h
    simp [wholePart?, spanDigits, hdigit] at h

/-! ### Whole numbers -/

theorem wholePart?_ofNat (n : Nat) : wholePart? (Digits.ofNat n) = some (Digits.ofNat n, []) := by
  have hspan : spanDigits (Digits.ofNat n) = (Digits.ofNat n, []) := by
    rw [spanDigits, List.takeWhile_eq_self_iff.2 fun c => Digits.isDigit_of_mem_ofNat,
      List.dropWhile_eq_nil_iff.2 fun c => Digits.isDigit_of_mem_ofNat]
  rw [wholePart?, hspan]
  split
  · next heq => exact absurd (Prod.mk.inj heq).1 (Digits.ofNat_ne_nil n)
  · next heq => exact absurd (Prod.mk.inj heq).1 (Digits.ofNat_ne_zero_cons n)
  · next heq => rw [← heq]

theorem read?_ofNat (n : Nat) :
    read? (Digits.ofNat n) = some (⟨false, Digits.ofNat n, [], none⟩, []) := by
  have hsign : leadingSign (Digits.ofNat n) = (false, Digits.ofNat n) := by
    rw [leadingSign]
    rintro r heq
    have hdigit := Digits.isDigit_of_mem_ofNat (n := n) (c := '-') (heq ▸ List.mem_cons_self)
    revert hdigit
    decide
  rw [read?, hsign]
  simp only [wholePart?_ofNat]
  rfl

theorem read?_minus_ofNat (n : Nat) :
    read? ('-' :: Digits.ofNat n) = some (⟨true, Digits.ofNat n, [], none⟩, []) := by
  rw [read?, leadingSign]
  simp only [wholePart?_ofNat]
  rfl

end Numeral

/-- A whole number of 64 bits is read back. -/
theorem number?_signed {n : Int} (hlow : -2 ^ 63 ≤ n) (hhigh : n < 2 ^ 64) :
    number? (Digits.signed n) = some (.number (.whole n), []) := by
  cases n with
  | ofNat k =>
    rw [Int.ofNat_eq_natCast] at hhigh
    have hvalue : Numeral.value? ⟨false, Digits.ofNat k, [], none⟩ = some (.whole k) := by
      have hk : k < 2 ^ 64 := by omega
      simp [Numeral.value?, Numeral.isPlain, Digits.toNat_ofNat, hk]
    rw [number?, Digits.signed, Numeral.read?_ofNat]
    simp only [Option.bind_eq_bind, Option.bind_some, hvalue]
    rfl
  | negSucc k =>
    have hvalue : Numeral.value? ⟨true, Digits.ofNat (k + 1), [], none⟩ =
        some (.whole (Int.negSucc k)) := by
      have hk : k + 1 ≤ 2 ^ 63 := by omega
      simp [Numeral.value?, Numeral.isPlain, Digits.toNat_ofNat, hk]
      omega
    rw [number?, Digits.signed, Numeral.read?_minus_ofNat]
    simp only [Option.bind_eq_bind, Option.bind_some, hvalue]
    rfl

theorem exists_cons_of_number? {v : Value} {r : List Char} (h : number? cs = some (v, r)) :
    ∃ c cs', cs = c :: cs' ∧ startsNumeral c = true := by
  simp only [number?, Option.bind_eq_bind, Option.bind_eq_some_iff, Prod.exists] at h
  obtain ⟨n, r, hread, -⟩ := h
  exact Numeral.exists_cons_of_read? hread

/-- What is read as a number is read so up to its end. -/
theorem number?_append {v : Value} (hrest : EndsNumeral rest) (h : number? cs = some (v, [])) :
    number? (cs ++ rest) = some (v, rest) := by
  simp only [number?, Option.bind_eq_bind, Option.bind_eq_some_iff, Prod.exists] at h ⊢
  obtain ⟨n, r, hread, m, hvalue, h⟩ := h
  cases h
  exact ⟨n, rest, Numeral.read?_append hrest hread, m, hvalue, rfl⟩

/-! ## Values without brackets -/

theorem scalar?_string (s : String) (rest : List Char) :
    scalar? (writeString s ++ rest) = some (.string s, rest) := by
  rw [writeString, List.cons_append, List.append_assoc, List.singleton_append, scalar?,
    stringBody?_flatMap, Option.map_some]
  exact congrArg (fun t => some (Value.string t, rest)) String.ofList_toList

theorem scalar?_number {v : Value} (hrest : EndsNumeral rest) (h : number? cs = some (v, [])) :
    scalar? (cs ++ rest) = some (v, rest) := by
  obtain ⟨c, cs, rfl, hc⟩ := exists_cons_of_number? h
  have hword : word? (c :: cs ++ rest) = none := by
    have hn : ('n' == c) = false := beq_eq_false_iff_ne.2 (ne_of_startsNumeral hc rfl).symm
    have ht : ('t' == c) = false := beq_eq_false_iff_ne.2 (ne_of_startsNumeral hc rfl).symm
    have hf : ('f' == c) = false := beq_eq_false_iff_ne.2 (ne_of_startsNumeral hc rfl).symm
    simp [word?, Text.stripStart?, hn, ht, hf]
  rw [List.cons_append, scalar?, ← List.cons_append, hword, Option.none_or,
    number?_append hrest h]
  rintro r heq
  exact ne_of_startsNumeral hc rfl (List.cons.inj heq).1

end CaseSheet.Json

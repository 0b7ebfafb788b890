import CaseSheet.Text.Letters
import Mathlib
/-!
# Capitals in ASCII

What a text can be if its spelling in capitals is an ASCII word. ASCII letters are spelled with their
own capitals, but they are not alone: ten characters beyond ASCII are spelled with ASCII capitals
too. Of all the others that have a capital, each leaves something beyond ASCII in the spelling.

* `upperSpelling_eq_iff`: the characters that are spelled with ASCII characters.
* `upper_eq_append_iff`, `upper_eq_iff_of_plain`: capitals with which the spelling of none of the ten
  begins come from their own letters alone.
* `upper_eq_st_iff`: an S with a T behind it is the spelling of three more texts.
-/
namespace CaseSheet.Text

variable {a c : Char} {cs w : List Char}

/-- All characters of a text are ASCII. -/
def IsAscii (w : List Char) : Prop := ∀ c ∈ w, c.toNat < 0x80

instance (w : List Char) : Decidable (IsAscii w) := List.decidableBAll _ w

/-- The characters beyond ASCII that are spelled with ASCII capitals, and their spellings. -/
def asciiSpelled : List (Char × List Char) := [
  ('ß', ['S', 'S']), ('ı', ['I']), ('ſ', ['S']), ('ﬀ', ['F', 'F']), ('ﬁ', ['F', 'I']),
  ('ﬂ', ['F', 'L']), ('ﬃ', ['F', 'F', 'I']), ('ﬄ', ['F', 'F', 'L']), ('ﬅ', ['S', 'T']),
  ('ﬆ', ['S', 'T'])]

/-- Whether a character is an ASCII capital with which no spelling of the list begins. -/
def isPlainCapital (a : Char) : Bool :=
  a.isUpper && asciiSpelled.all fun e => e.2.head? != some a

/-! ## The runs of letters -/

/-- The image of a letter in a run stands as far from the first one as the letter does. -/
theorem CaseRun.toNat_image {r : CaseRun} {n : Nat} (h : r.holds n = true) :
    (Char.ofNat (r.image + (n - r.first))).toNat = r.image + (n - r.first) := by
  simp only [holds, Bool.and_eq_true, decide_eq_true_eq] at h
  have hvalid : (r.image + (n - r.first)).isValidChar := by
    have := r.isScalar
    unfold Nat.isValidChar
    omega
  rw [Char.toNat_ofNat, if_pos hvalid]

/-- A run with an ASCII capital and nothing beyond ASCII behind it is a single letter of the list. -/
theorem Capital.mem_asciiSpelled_of_mem_runs :
    ∀ r ∈ runs, r.image < 0x80 → IsAscii r.more →
      r.last = r.first ∧ (Char.ofNat r.first, Char.ofNat r.image :: r.more) ∈ asciiSpelled := by
  decide +kernel

theorem upperSpelling_of_mem_asciiSpelled :
    ∀ e ∈ asciiSpelled, upperSpelling e.1 = e.2 := by
  decide +kernel

theorem isPlainCapital_iff :
    isPlainCapital a = true ↔ a.isUpper = true ∧ ∀ e ∈ asciiSpelled, e.2.head? ≠ some a := by
  simp only [isPlainCapital, Bool.and_eq_true, List.all_eq_true, bne_iff_ne]

theorem upperSpelling_of_ascii (h : c.toNat < 0x80) : upperSpelling c = [c.toUpper] := if_pos h

theorem upperSpelling_ne_nil (c : Char) : upperSpelling c ≠ [] := by
  unfold upperSpelling
  split
  · exact List.cons_ne_nil _ _
  · rw [CaseRun.spellingBy]
    split
    · exact List.cons_ne_nil _ _
    · exact List.cons_ne_nil _ _

/-- Only the characters of the list come out as ASCII from beyond it. -/
theorem mem_asciiSpelled (hc : 0x80 ≤ c.toNat) (h : IsAscii (upperSpelling c)) :
    (c, upperSpelling c) ∈ asciiSpelled := by
  rw [upperSpelling, if_neg (Nat.not_lt.2 hc), CaseRun.spellingBy] at h ⊢
  cases hrun : Capital.runs.find? fun r => r.holds c.toNat with
  | none =>
    rw [hrun] at h
    exact absurd (h c List.mem_cons_self) (Nat.not_lt.2 hc)
  | some r =>
    rw [hrun] at h
    have hholds : r.holds c.toNat = true := by simpa using List.find?_some hrun
    have himage := h _ List.mem_cons_self
    rw [CaseRun.toNat_image hholds] at himage
    obtain ⟨hlast, hmem⟩ := Capital.mem_asciiSpelled_of_mem_runs r
      (List.mem_of_find?_eq_some hrun) (by omega) fun d hd => h d (List.mem_cons_of_mem _ hd)
    -- The run is a single letter, so the character is that one.
    have hfirst : c.toNat = r.first := by
      simp only [CaseRun.holds, Bool.and_eq_true, decide_eq_true_eq] at hholds
      omega
    rw [← hfirst, Char.ofNat_toNat] at hmem
    simpa only [CaseRun.spelling, hfirst, Nat.sub_self, Nat.add_zero] using hmem

/-- **The characters that are spelled with ASCII characters**: those of ASCII, each with one, and
the ten of the list. -/
theorem upperSpelling_eq_iff (hw : IsAscii w) :
    upperSpelling c = w ↔ c.toNat < 0x80 ∧ w = [c.toUpper] ∨ (c, w) ∈ asciiSpelled := by
  constructor
  · rintro rfl
    by_cases hc : c.toNat < 0x80
    · exact .inl ⟨hc, upperSpelling_of_ascii hc⟩
    · exact .inr (mem_asciiSpelled (Nat.not_lt.1 hc) hw)
  · rintro (⟨hc, rfl⟩ | hmem)
    · exact upperSpelling_of_ascii hc
    · exact upperSpelling_of_mem_asciiSpelled _ hmem

/-! ## ASCII letters -/

theorem foldAscii_eq_toLower (c : Char) : foldAscii c = c.toLower := by
  have hupper : c.isUpper = true ↔ 'A' ≤ c ∧ c ≤ 'Z' := by simp [Char.isUpper, Char.le_def]
  unfold foldAscii
  split
  · next h => exact (Char.toLower_eq_of_isUpper (hupper.2 h)).symm
  · next h => exact (Char.toLower_eq_of_not_isUpper (mt hupper.1 h)).symm

theorem toNat_lt_of_isAlpha (h : c.isAlpha = true) : c.toNat < 0x80 := by
  simp only [Char.isAlpha, Char.isUpper, Char.isLower, Bool.or_eq_true, Bool.and_eq_true,
    decide_eq_true_eq] at h
  have hrange : 65 ≤ c.toNat ∧ c.toNat ≤ 90 ∨ 97 ≤ c.toNat ∧ c.toNat ≤ 122 := h
  omega

/-- The characters that are a capital but for their case are those with this capital in ASCII. -/
theorem foldAscii_eq_iff (ha : a.isUpper = true) :
    foldAscii c = foldAscii a ↔ c.toNat < 0x80 ∧ c.toUpper = a := by
  rw [foldAscii_eq_toLower, foldAscii_eq_toLower]
  constructor
  · intro h
    have halpha : c.isAlpha = true := by
      rw [← Char.isAlpha_toLower_eq_isAlpha, h, Char.isAlpha_toLower_eq_isAlpha, Char.isAlpha, ha,
        Bool.true_or]
    refine ⟨toNat_lt_of_isAlpha halpha, ?_⟩
    rw [← Char.toUpper_toLower_eq_toUpper, h, Char.toUpper_toLower_eq_toUpper,
      Char.toUpper_eq_of_not_isLower (Char.not_isLower_of_isUpper ha)]
  · rintro ⟨-, rfl⟩
    exact (Char.toLower_toUpper_eq_toLower c).symm

/-- Beyond ASCII nothing is folded, and nothing is folded to there. -/
theorem foldAscii_eq_iff_eq (ha : 0x80 ≤ a.toNat) : foldAscii c = a ↔ c = a := by
  rw [foldAscii_eq_toLower]
  by_cases hc : c.isUpper = true
  · have halpha : c.isAlpha = true := by rw [Char.isAlpha, hc, Bool.true_or]
    have hlower := toNat_lt_of_isAlpha ((Char.isAlpha_toLower_eq_isAlpha c).trans halpha)
    have hself := toNat_lt_of_isAlpha halpha
    exact iff_of_false (by rintro rfl; omega) (by rintro rfl; omega)
  · rw [Char.toLower_eq_of_not_isUpper hc]

/-! ## Words in capitals -/

theorem upper_cons (c : Char) (cs : List Char) : upper (c :: cs) = upperSpelling c ++ upper cs :=
  List.flatMap_cons

theorem upper_eq_nil_iff : upper cs = [] ↔ cs = [] := by
  cases cs with
  | nil => exact iff_of_true rfl rfl
  | cons c cs => simp [upper_cons, upperSpelling_ne_nil]

/-- What is spelled with an ASCII word begins with an ASCII character or with one of the list. -/
theorem upper_cons_eq_iff (hw : IsAscii w) :
    upper (c :: cs) = w ↔
      c.toNat < 0x80 ∧ c.toUpper :: upper cs = w ∨
      ∃ s, (c, s) ∈ asciiSpelled ∧ s ++ upper cs = w := by
  rw [upper_cons]
  constructor
  · intro h
    have hc : IsAscii (upperSpelling c) := fun d hd => hw d (h ▸ List.mem_append_left _ hd)
    rcases (upperSpelling_eq_iff hc).1 rfl with ⟨hascii, hone⟩ | hmem
    · exact .inl ⟨hascii, by rwa [hone] at h⟩
    · exact .inr ⟨_, hmem, h⟩
  · rintro (⟨hascii, h⟩ | ⟨s, hmem, h⟩)
    · rwa [upperSpelling_of_ascii hascii]
    · rwa [upperSpelling_of_mem_asciiSpelled _ hmem]

/-- A plain capital in front is that of an ASCII letter. -/
theorem upper_cons_eq_cons_iff (ha : isPlainCapital a = true) (hw : IsAscii (a :: w)) :
    upper (c :: cs) = a :: w ↔ foldAscii c = foldAscii a ∧ upper cs = w := by
  obtain ⟨hupper, hplain⟩ := isPlainCapital_iff.1 ha
  rw [upper_cons_eq_iff hw, foldAscii_eq_iff hupper, List.cons.injEq, and_assoc, or_iff_left]
  rintro ⟨s, hmem, h⟩
  obtain rfl : upperSpelling c = s := upperSpelling_of_mem_asciiSpelled _ hmem
  refine hplain _ hmem ?_
  rw [← List.head?_append_of_ne_nil _ (upperSpelling_ne_nil c), h, List.head?_cons]

theorem isAscii_of_plain (hw : w.all isPlainCapital = true) : IsAscii w := by
  intro a ha
  have hupper := (isPlainCapital_iff.1 (List.all_eq_true.1 hw a ha)).1
  exact toNat_lt_of_isAlpha (by rw [Char.isAlpha, hupper, Bool.true_or])

/-- Plain capitals in front are those of as many ASCII letters. -/
theorem upper_eq_append_iff {w' : List Char} (hw : w.all isPlainCapital = true)
    (hw' : IsAscii w') :
    upper cs = w ++ w' ↔
      ∃ front back, cs = front ++ back ∧ front.map foldAscii = w.map foldAscii ∧
        upper back = w' := by
  induction w generalizing cs with
  | nil => simp
  | cons a w ih =>
    obtain ⟨ha, hrest⟩ : isPlainCapital a = true ∧ w.all isPlainCapital = true := by
      simpa only [List.all_cons, Bool.and_eq_true] using hw
    have hascii : IsAscii (a :: w ++ w') := fun d hd =>
      (List.mem_append.1 hd).elim (isAscii_of_plain hw d) (hw' d)
    constructor
    · intro h
      cases cs with
      | nil => cases h
      | cons c cs =>
        obtain ⟨hc, hcs⟩ := (upper_cons_eq_cons_iff ha hascii).1 h
        obtain ⟨front, back, rfl, hfront, hback⟩ := (ih hrest).1 hcs
        exact ⟨c :: front, back, rfl, by rw [List.map_cons, List.map_cons, hc, hfront], hback⟩
    · rintro ⟨front, back, rfl, hfront, hback⟩
      cases front with
      | nil => cases hfront
      | cons c front =>
        rw [List.map_cons, List.map_cons, List.cons.injEq] at hfront
        exact (upper_cons_eq_cons_iff ha hascii).2
          ⟨hfront.1, (ih hrest).2 ⟨front, back, rfl, hfront.2, hback⟩⟩

/-- **A word of plain capitals** is the spelling of its own letters, in any case, and of no other
text. -/
theorem upper_eq_iff_of_plain (hw : w.all isPlainCapital = true) :
    upper cs = w ↔ cs.map foldAscii = w.map foldAscii := by
  have hnil : IsAscii [] := by decide
  have h : upper cs = w ++ [] ↔ _ := upper_eq_append_iff hw hnil
  simpa [upper_eq_nil_iff] using h

/-- The texts that are spelled with an S and a T, ASCII letters in their small form. -/
def stForms : List (List Char) := [['s', 't'], ['ſ', 't'], ['ﬅ'], ['ﬆ']]

/-- **An S and a T** are the spelling of the two letters, in any case, of a long s in place of the
first, and of the two ligatures. -/
theorem upper_eq_st_iff : upper cs = ['S', 'T'] ↔ cs.map foldAscii ∈ stForms := by
  cases cs with
  | nil => decide
  | cons c cs =>
    have hst : IsAscii ['S', 'T'] := by decide
    have ht : upper cs = ['T'] ↔ cs.map foldAscii = ['t'] := upper_eq_iff_of_plain rfl
    have hspelled : (∃ s, (c, s) ∈ asciiSpelled ∧ s ++ upper cs = ['S', 'T']) ↔
        c = 'ſ' ∧ upper cs = ['T'] ∨ c = 'ﬅ' ∧ cs = [] ∨ c = 'ﬆ' ∧ cs = [] := by
      simp [asciiSpelled, or_and_right, exists_or, upper_eq_nil_iff]
    have hs : foldAscii c = 's' ↔ c.toNat < 0x80 ∧ c.toUpper = 'S' :=
      foldAscii_eq_iff (a := 'S') rfl
    have hlong : foldAscii c = 'ſ' ↔ c = 'ſ' := foldAscii_eq_iff_eq (by decide)
    have hjoined : foldAscii c = 'ﬅ' ↔ c = 'ﬅ' := foldAscii_eq_iff_eq (by decide)
    have hjoined' : foldAscii c = 'ﬆ' ↔ c = 'ﬆ' := foldAscii_eq_iff_eq (by decide)
    rw [upper_cons_eq_iff hst, hspelled]
    simp [stForms, ht, hs, hlong, hjoined, hjoined', and_assoc]

end CaseSheet.Text

import CaseSheet.Proofs.DigitRuns
import CaseSheet.Text.Blank
import Mathlib.Data.List.Infix
/-!
# Expected results of several clauses

An expected result often strings clauses together: codes, shapes and failures, with blanks, commas,
semicolons, slashes or line breaks between them. Nothing is read across such a gap and nothing is
lost at it, so what the whole says is told by what its clauses say, in any order.

* `Parted`: what holds around a separator exactly if it holds on one side of it.
* `Parted.holds_text_iff`: it holds of a text exactly if it holds of one of its clauses.
* `parted_digitRuns`, `parted_hasMarker`: runs of digits and markers are of that kind. A marker with
  a blank in it has another one within it that no separator can cut.
* `classify_clauses`: the expectation of the whole.
-/

namespace CaseSheet

namespace Text

variable {c : Char}

/-- The characters that set clauses apart: blanks, line breaks among them, commas, semicolons and
slashes. -/
def isSeparator (c : Char) : Bool := isBlank c || c == ',' || c == ';' || c == '/'

theorem isDigit_of_isSeparator (h : isSeparator c = true) : Digits.isDigit c = false := by
  simp only [isSeparator, isBlank, Bool.or_eq_true, Bool.and_eq_true, decide_eq_true_eq,
    beq_iff_eq] at h
  rcases h with ((h | rfl) | rfl) | rfl
  · by_contra hc
    have hrange : 48 ≤ c.toNat ∧ c.toNat ≤ 57 := by
      simpa [Digits.isDigit, Char.le_def, UInt32.le_iff_toNat_le] using hc
    omega
  all_goals decide

/-- The code points of separators. -/
def separatorCodes : List Nat :=
  List.range' 0x9 5 ++ [0x20, 0x2C, 0x2F, 0x3B, 0x85, 0xA0, 0x1680] ++ List.range' 0x2000 11 ++
    [0x2028, 0x2029, 0x202F, 0x205F, 0x3000]

/-- Separators have no letter case, and are not passed over when the ends of words are looked for. -/
theorem not_cased_of_isSeparator (h : isSeparator c = true) :
    c ≠ 'Σ' ∧ lowerSpelling c = [c] ∧ isIgnorable c = false ∧ isCased c = false := by
  have hcode : c.toNat ∈ separatorCodes := by
    simp only [isSeparator, isBlank, Bool.or_eq_true, Bool.and_eq_true, decide_eq_true_eq,
      beq_iff_eq] at h
    simp only [separatorCodes, List.mem_append, List.mem_range'_1, List.mem_cons, List.not_mem_nil]
    rcases h with ((h | rfl) | rfl) | rfl
    · omega
    all_goals decide
  have hall : ∀ n ∈ separatorCodes, Char.ofNat n ≠ 'Σ' ∧
      lowerSpelling (Char.ofNat n) = [Char.ofNat n] ∧ isIgnorable (Char.ofNat n) = false ∧
      isCased (Char.ofNat n) = false := by decide +kernel
  have hc := hall c.toNat hcode
  rwa [Char.ofNat_toNat] at hc

/-- A separator is seen from before it like the end of the text. -/
theorem goesOn_append_cons (h : isSeparator c = true) (a b : List Char) :
    goesOn (a ++ c :: b) = goesOn a := by
  obtain ⟨-, -, hignorable, hcased⟩ := not_cased_of_isSeparator h
  rw [goesOn, goesOn, List.find?_append]
  cases a.find? fun c => !isIgnorable c with
  | some d => rfl
  | none => simp [hignorable, hcased]

theorem lowerFrom_append_cons (h : isSeparator c = true) (inWord : Bool) (a b : List Char) :
    lowerFrom inWord (a ++ c :: b) = lowerFrom inWord a ++ c :: lower b := by
  induction a generalizing inWord with
  | nil =>
    obtain ⟨hsigma, hlower, hignorable, hcased⟩ := not_cased_of_isSeparator h
    simp [lowerFrom, hsigma, hlower, hignorable, hcased, lower]
  | cons d a ih =>
    rw [List.cons_append, lowerFrom, lowerFrom, ih, goesOn_append_cons h, List.append_assoc]

/-- No word goes on behind a separator, so the spelling does not either. -/
theorem lower_append_cons (h : isSeparator c = true) (a b : List Char) :
    lower (a ++ c :: b) = lower a ++ c :: lower b :=
  lowerFrom_append_cons h false a b

/-- A piece stands around a character that it does not have only if it stands on one side. -/
theorem infix_append_cons_iff {piece a b : List Char} (hne : piece ≠ []) (hc : c ∉ piece) :
    piece <:+: a ++ c :: b ↔ piece <:+: a ∨ piece <:+: b := by
  have hstart {l : List Char} (hl : l ≠ []) (h : l <+: c :: b) : c ∈ l := by
    cases l with
    | nil => exact absurd rfl hl
    | cons d l =>
      obtain ⟨rfl, -⟩ := List.cons_prefix_cons.1 h
      exact List.mem_cons_self
  constructor
  · intro h
    rcases List.infix_append_iff_ne_nil.1 h with h | h | ⟨front, back, -, hback, rfl, -, h⟩
    · exact Or.inl h
    · rcases List.infix_cons_iff.1 h with h | h
      · exact absurd (hstart hne h) hc
      · exact Or.inr h
    · exact absurd (List.mem_append_right front (hstart hback h)) hc
  · rintro (h | h)
    · exact List.infix_append_of_infix_left h
    · exact List.infix_append_of_infix_right (List.infix_cons h)

end Text

namespace Expectation

/-! ## Clauses and gaps -/

/-- What stands between two clauses: one or more separators. -/
structure Gap where
  text : String
  text_ne : text ≠ ""
  isSeparator : ∀ c ∈ text.toList, Text.isSeparator c = true

/-- The gap with a text that is checked to be one. -/
def Gap.ofText (text : String) (hne : text ≠ "") (h : text.toList.all Text.isSeparator = true) :
    Gap := ⟨text, hne, List.all_eq_true.1 h⟩

/-- Clauses, at least one, with a gap before each but the first. -/
structure Clauses where
  first : String
  more : List (Gap × String)

namespace Clauses

/-- The clauses alone. -/
def texts (clauses : Clauses) : List String := clauses.first :: clauses.more.map (·.2)

/-- The clauses with what stands between them. -/
def text (clauses : Clauses) : String :=
  clauses.first ++ String.join (clauses.more.map fun p => p.1.text ++ p.2)

theorem toList_text (first : String) (more : List (Gap × String)) :
    (text ⟨first, more⟩).toList =
      first.toList ++ more.flatMap fun p => p.1.text.toList ++ p.2.toList := by
  simp [text, String.toList_join, List.flatMap_map]

end Clauses

/-- What holds around a separator exactly if it holds on one side of it. -/
structure Parted (p : List Char → Prop) : Prop where
  not_nil : ¬ p []
  cut : ∀ a c b, Text.isSeparator c = true → (p (a ++ c :: b) ↔ p a ∨ p b)

namespace Parted

variable {p : List Char → Prop}

theorem gap_iff (h : Parted p) (gap : Gap) (a b : List Char) :
    p (a ++ (gap.text.toList ++ b)) ↔ p a ∨ p b := by
  have hskip {cs : List Char} (hcs : ∀ c ∈ cs, Text.isSeparator c = true) : p (cs ++ b) ↔ p b := by
    induction cs with
    | nil => simp
    | cons c cs ih =>
      have hcut := h.cut [] c (cs ++ b) (hcs c (by simp))
      rw [List.nil_append, ih fun d hd => hcs d (by simp [hd])] at hcut
      simp [hcut, h.not_nil]
  have hgap := gap.isSeparator
  cases hcs : gap.text.toList with
  | nil => exact absurd (String.toList_injective hcs) gap.text_ne
  | cons c cs =>
    rw [hcs] at hgap
    rw [List.cons_append, h.cut _ _ _ (hgap c (by simp)), hskip fun d hd => hgap d (by simp [hd])]

/-- **Nothing is read across a gap**, and nothing is lost at it. -/
theorem holds_text_iff (h : Parted p) (clauses : Clauses) :
    p clauses.text.toList ↔ ∃ t ∈ clauses.texts, p t.toList := by
  obtain ⟨first, more⟩ := clauses
  induction more generalizing first with
  | nil => simp [Clauses.toList_text, Clauses.texts]
  | cons next more ih =>
    obtain ⟨gap, second⟩ := next
    have ih := ih second
    rw [Clauses.toList_text] at ih ⊢
    rw [List.flatMap_cons, List.append_assoc, h.gap_iff, ih]
    simp [Clauses.texts]

end Parted

/-! ## Runs of digits and markers -/

theorem parted_digitRuns (run : List Char) : Parted fun cs => run ∈ Text.digitRuns cs where
  not_nil := by simp [Text.digitRuns]
  cut a c b hc := by
    rw [Text.digitRuns_append_cons (Text.isDigit_of_isSeparator hc), List.mem_append]

/-- Markers of which each has one within it that no separator can cut. -/
def Uncut (markers : List String) : Prop :=
  ∀ m ∈ markers, ∃ m' ∈ markers, m'.toList <:+: m.toList ∧ m'.toList ≠ [] ∧
    m'.toList.any Text.isSeparator = false

theorem uncut_arrayMarkers : Uncut arrayMarkers := by
  unfold Uncut; decide +kernel

theorem uncut_jsonMarker : Uncut [jsonMarker] := by
  unfold Uncut; decide +kernel

/-- A failure of the connection is a failure. -/
theorem uncut_failureMarkers : Uncut failureMarkers := by
  unfold Uncut; decide +kernel

theorem parted_hasMarker {markers : List String} (h : Uncut markers) :
    Parted fun cs => ∃ m ∈ markers, m.toList <:+: Text.lower cs where
  not_nil := by
    rintro ⟨m, hm, hinfix⟩
    obtain ⟨m', -, hsub, hne, -⟩ := h m hm
    exact hne (List.eq_nil_of_infix_nil (hsub.trans hinfix))
  cut a c b hc := by
    rw [Text.lower_append_cons hc]
    constructor
    · -- The marker itself may lie across the cut, but not the one within it.
      rintro ⟨m, hm, hinfix⟩
      obtain ⟨m', hm', hsub, hne, hplain⟩ := h m hm
      have hcm : c ∉ m'.toList := by
        intro hmem
        exact List.any_eq_false.1 hplain c hmem hc
      rcases (Text.infix_append_cons_iff hne hcm).1 (hsub.trans hinfix) with hl | hr
      · exact Or.inl ⟨m', hm', hl⟩
      · exact Or.inr ⟨m', hm', hr⟩
    · rintro (⟨m, hm, hl⟩ | ⟨m, hm, hr⟩)
      · exact ⟨m, hm, List.infix_append_of_infix_left hl⟩
      · exact ⟨m, hm, List.infix_append_of_infix_right (List.infix_cons hr)⟩

theorem hasMarker_text_iff {markers : List String} (h : Uncut markers) (clauses : Clauses) :
    HasMarker markers clauses.text ↔ ∃ t ∈ clauses.texts, HasMarker markers t :=
  (parted_hasMarker h).holds_text_iff clauses

/-! ## The expectation of the whole -/

theorem mem_codes_text_iff {clauses : Clauses} {t : StatusToken} :
    t ∈ (classify clauses.text).codes ↔ ∃ c ∈ clauses.texts, t ∈ (classify c).codes := by
  simp only [mem_codes_classify_iff_mem_digitRuns]
  exact (parted_digitRuns (Digits.ofNat t.code)).holds_text_iff clauses

theorem array_text_iff {clauses : Clauses} :
    (classify clauses.text).array = true ↔ ∃ c ∈ clauses.texts, (classify c).array = true := by
  simp only [array_classify_iff]
  exact hasMarker_text_iff uncut_arrayMarkers clauses

theorem failure_text_iff {clauses : Clauses} :
    (classify clauses.text).failure = true ↔ ∃ c ∈ clauses.texts, (classify c).failure = true := by
  simp only [failure_classify_iff]
  exact hasMarker_text_iff uncut_failureMarkers clauses

/-- A clause with a marker of JSON asks for JSON as such where no clause asks for an array. -/
theorem json_text_iff {clauses : Clauses} :
    (classify clauses.text).json = true ↔
      (∀ c ∈ clauses.texts, (classify c).array = false) ∧
        ∃ c ∈ clauses.texts, (classify c).json = true := by
  have harray : ¬ HasMarker arrayMarkers clauses.text ↔
      ∀ c ∈ clauses.texts, (classify c).array = false := by
    rw [← array_classify_iff, array_text_iff]
    simp
  rw [json_classify_iff, harray, hasMarker_text_iff uncut_jsonMarker]
  constructor
  · rintro ⟨⟨c, hc, hjson⟩, hnone⟩
    refine ⟨hnone, c, hc, json_classify_iff.2 ⟨hjson, ?_⟩⟩
    rw [← array_classify_iff, hnone c hc]
    simp
  · rintro ⟨hnone, c, hc, hjson⟩
    exact ⟨⟨c, hc, (json_classify_iff.1 hjson).1⟩, hnone⟩

/-- Texts that name the same codes and have the same flags are read the same. -/
theorem classify_eq_of_iff {s t : String}
    (hcodes : ∀ k, k ∈ (classify s).codes ↔ k ∈ (classify t).codes)
    (harray : (classify s).array = true ↔ (classify t).array = true)
    (hjson : (classify s).json = true ↔ (classify t).json = true)
    (hfailure : (classify s).failure = true ↔ (classify t).failure = true) :
    classify s = classify t := by
  have hc : (classify s).codes = (classify t).codes := by
    rw [codes_classify, codes_classify]
    apply List.filter_congr
    intro k hk
    have hiff := hcodes k
    rw [codes_classify, codes_classify, List.mem_filter, List.mem_filter] at hiff
    exact Bool.eq_iff_iff.2 (by simpa [hk] using hiff)
  cases hs : classify s with
  | mk codes array json failure =>
    cases ht : classify t with
    | mk codes' array' json' failure' =>
      rw [hs, ht] at hc harray hjson hfailure
      rw [Expectation.mk.injEq]
      exact ⟨hc, Bool.eq_iff_iff.2 harray, Bool.eq_iff_iff.2 hjson, Bool.eq_iff_iff.2 hfailure⟩

/-- **Clauses combine.** The codes of the whole are those of its clauses in increasing order; it
asks for an array, or expects a failure, where a clause does; and for JSON as such where a clause
does and none asks for an array. So neither the order of the clauses nor how often each is said nor
what stands between them has a part in what is expected. -/
theorem classify_clauses (clauses : Clauses) :
    ((classify clauses.text).codes.Pairwise (fun s t => s.code < t.code) ∧
      ∀ t, t ∈ (classify clauses.text).codes ↔ ∃ c ∈ clauses.texts, t ∈ (classify c).codes) ∧
    ((classify clauses.text).array = true ↔ ∃ c ∈ clauses.texts, (classify c).array = true) ∧
    ((classify clauses.text).failure = true ↔ ∃ c ∈ clauses.texts, (classify c).failure = true) ∧
    ((classify clauses.text).json = true ↔
      (∀ c ∈ clauses.texts, (classify c).array = false) ∧
        ∃ c ∈ clauses.texts, (classify c).json = true) ∧
    ∀ others : Clauses, (∀ c, c ∈ others.texts ↔ c ∈ clauses.texts) →
      classify others.text = classify clauses.text ∧
        ∀ ofStep, (classify others.text).statusOr ofStep =
          (classify clauses.text).statusOr ofStep := by
  refine ⟨⟨codes_classify_sorted _, fun t => mem_codes_text_iff⟩, array_text_iff, failure_text_iff,
    json_text_iff, ?_⟩
  intro others hsame
  have hall (p : String → Prop) : (∀ c ∈ others.texts, p c) ↔ ∀ c ∈ clauses.texts, p c := by
    simp only [hsame]
  have hsome (p : String → Prop) : (∃ c ∈ others.texts, p c) ↔ ∃ c ∈ clauses.texts, p c := by
    simp only [hsame]
  have heq : classify others.text = classify clauses.text := by
    apply classify_eq_of_iff
    · intro t; rw [mem_codes_text_iff, mem_codes_text_iff, hsome]
    · rw [array_text_iff, array_text_iff, hsome]
    · rw [json_text_iff, json_text_iff, hall, hsome]
    · rw [failure_text_iff, failure_text_iff, hsome]
  exact ⟨heq, fun ofStep => by rw [heq]⟩

/-- Three clauses in a row. -/
def refusal : Clauses where
  first := "Connection refused"
  more :=
    [(.ofText ", " (by decide) (by decide), "HTTP 503"),
      (.ofText " / " (by decide) (by decide), "JSON error")]

/-- The same clauses on lines of their own, in another order and one of them twice. -/
def refusalAgain : Clauses where
  first := "HTTP 503"
  more :=
    [(.ofText "\n" (by decide) (by decide), "JSON error"),
      (.ofText ";\n" (by decide) (by decide), "Connection refused"),
      (.ofText "\n" (by decide) (by decide), "HTTP 503")]

theorem classify_refusalAgain :
    refusal.text = "Connection refused, HTTP 503 / JSON error" ∧
      refusalAgain.text = "HTTP 503\nJSON error;\nConnection refused\nHTTP 503" ∧
      classify refusalAgain.text = classify refusal.text ∧
      (classify refusalAgain.text).statusOr 200 = (classify refusal.text).statusOr 200 := by
  obtain ⟨-, -, -, -, hsame⟩ := classify_clauses refusal
  obtain ⟨hclassify, hstatus⟩ := hsame refusalAgain fun c => by
    simp only [Clauses.texts, refusal, refusalAgain, List.map_cons, List.map_nil, List.mem_cons,
      List.not_mem_nil, or_false]
    tauto
  exact ⟨by decide +kernel, by decide +kernel, hclassify, hstatus 200⟩

end Expectation
end CaseSheet

import CaseSheet.Expectation
import Mathlib.Order.Bounds.Defs
/-!
# What an expected result says

The prose of an expected result, read without the reader: which codes stand in it on their own,
which status that makes the expected one, and which markers stand in its lower-case spelling.

* `Text.standsAlone_iff`: the search for a word finds it exactly where the text splits around it
  with no digit on either side.
* `statusOr_classify_eq_iff`: the expected status is the least code named, and the status of the
  step where none is.
* `array_classify_iff`, `json_classify_iff`, `failure_classify_iff`: the three flags.
-/

namespace CaseSheet

namespace Text

theorem contains_iff_isInfix {piece l : List Char} : contains piece l = true ↔ piece <:+: l := by
  rw [contains_iff]
  constructor
  · rintro ⟨before, after, rfl⟩; exact ⟨before, after, rfl⟩
  · rintro ⟨before, after, rfl⟩; exact ⟨before, after, rfl⟩

theorem mentions_iff_isInfix {text piece : String} :
    mentions text piece = true ↔ piece.toList <:+: text.toList := contains_iff_isInfix

/-- The text splits around `word`, with no digit directly before and none directly behind it. -/
def AtDigitBoundaries (word cs : List Char) : Prop :=
  ∃ before after, cs = before ++ word ++ after ∧
    (∀ c ∈ before.getLast?, Digits.isDigit c = false) ∧
    (∀ c ∈ after.head?, Digits.isDigit c = false)

theorem startsOutsideNumber_iff {cs : List Char} :
    startsOutsideNumber cs = true ↔ ∀ c ∈ cs.head?, Digits.isDigit c = false := by
  cases cs <;> simp [startsOutsideNumber]

/-- Only a piece that starts at the very front depends on what stood before the text. -/
theorem standsAlone_iff_split {word cs : List Char} {fresh : Bool} :
    standsAlone word fresh cs = true ↔
      ∃ before after, cs = before ++ word ++ after ∧ (before = [] → fresh = true) ∧
        (∀ c ∈ before.getLast?, Digits.isDigit c = false) ∧
        (∀ c ∈ after.head?, Digits.isDigit c = false) := by
  induction cs generalizing fresh with
  | nil =>
    simp only [standsAlone, Bool.and_eq_true, List.isEmpty_iff]
    constructor
    · rintro ⟨hf, rfl⟩; exact ⟨[], [], rfl, fun _ => hf, by simp, by simp⟩
    · rintro ⟨before, after, h, hf, -, -⟩
      obtain ⟨rfl, rfl, rfl⟩ : before = [] ∧ word = [] ∧ after = [] := by simpa using h.symm
      exact ⟨hf rfl, rfl⟩
  | cons a r ih =>
    rw [standsAlone, Bool.or_eq_true, Bool.and_eq_true, ih]
    constructor
    · rintro (⟨hf, h⟩ | ⟨before, after, rfl, hf, hb, ha⟩)
      · split at h
        · rename_i rest hrest
          exact ⟨[], rest, stripStart?_eq_some_iff.1 hrest, fun _ => hf, by simp,
            startsOutsideNumber_iff.1 h⟩
        · cases h
      · refine ⟨a :: before, after, rfl, by simp, ?_, ha⟩
        cases before with
        | nil => simpa using hf rfl
        | cons b bs => rwa [List.getLast?_cons_cons]
    · rintro ⟨before, after, h, hf, hb, ha⟩
      cases before with
      | nil =>
        refine Or.inl ⟨hf rfl, ?_⟩
        rw [stripStart?_eq_some_iff.2 (by simpa using h)]
        exact startsOutsideNumber_iff.2 ha
      | cons b bs =>
        obtain ⟨rfl, rfl⟩ : a = b ∧ r = bs ++ word ++ after := by simpa using h
        refine Or.inr ⟨bs, after, rfl, ?_, ?_, ha⟩
        · rintro rfl; simpa using hb
        · intro c hc
          cases bs with
          | nil => simp at hc
          | cons d ds => exact hb c (by rwa [List.getLast?_cons_cons])

/-- **`standsAlone`** searches for a word between digit boundaries. -/
theorem standsAlone_iff {word cs : List Char} :
    standsAlone word true cs = true ↔ AtDigitBoundaries word cs := by
  rw [standsAlone_iff_split]
  simp [AtDigitBoundaries]

end Text

namespace Expectation

/-! ## The codes that a text names -/

/-- The codes that an expected result can name. -/
def recognisedCodes : List Nat := [200, 201, 400, 401, 404, 409, 413]

/-- A recognised code stands in the text on its own. -/
def NamesCode (text : String) (n : Nat) : Prop :=
  n ∈ recognisedCodes ∧ Text.AtDigitBoundaries (Digits.ofNat n) text.toList

/-- The status that counts for a text: the least code that it names or, where it names none, the
one of the step. -/
def IsDueStatus (text : String) (ofStep status : Nat) : Prop :=
  IsLeast {n | NamesCode text n} status ∨ (∀ n, ¬ NamesCode text n) ∧ status = ofStep

theorem mem_recognisedCodes_iff {n : Nat} :
    n ∈ recognisedCodes ↔ ∃ t : StatusToken, t.code = n := by
  constructor
  · intro h
    have h' : n ∈ StatusToken.all.map StatusToken.code := h
    obtain ⟨t, -, ht⟩ := List.mem_map.1 h'
    exact ⟨t, ht⟩
  · rintro ⟨t, rfl⟩; cases t <;> decide

theorem codes_classify (text : String) :
    (classify text).codes =
      StatusToken.all.filter fun t => Text.standsAlone (Digits.ofNat t.code) true text.toList := rfl

theorem mem_codes_classify {text : String} {t : StatusToken} :
    t ∈ (classify text).codes ↔ NamesCode text t.code := by
  have hr : t.code ∈ recognisedCodes := mem_recognisedCodes_iff.2 ⟨t, rfl⟩
  rw [codes_classify, List.mem_filter, Text.standsAlone_iff]
  exact and_congr_left' (iff_of_true (StatusToken.mem_all t) hr)

theorem namesCode_iff {text : String} {n : Nat} :
    NamesCode text n ↔ ∃ t ∈ (classify text).codes, t.code = n := by
  constructor
  · intro h
    obtain ⟨t, rfl⟩ := mem_recognisedCodes_iff.1 h.1
    exact ⟨t, mem_codes_classify.2 h, rfl⟩
  · rintro ⟨t, ht, rfl⟩; exact mem_codes_classify.1 ht

theorem codes_classify_eq_nil_iff {text : String} :
    (classify text).codes = [] ↔ ∀ n, ¬ NamesCode text n := by
  simp only [List.eq_nil_iff_forall_not_mem, namesCode_iff]
  constructor
  · rintro h n ⟨t, ht, -⟩; exact h t ht
  · intro h t ht; exact h t.code ⟨t, ht, rfl⟩

/-- The codes of an expectation are in increasing order. -/
theorem codes_classify_sorted (text : String) :
    (classify text).codes.Pairwise fun s t => s.code < t.code := by
  have h : StatusToken.all.Pairwise fun s t => s.code < t.code := by decide
  rw [codes_classify]
  exact h.filter _

/-- The first of the codes is the least one named. -/
theorem primary?_classify_eq_some_iff {text : String} {n : Nat} :
    (classify text).primary? = some n ↔ IsLeast {m | NamesCode text m} n := by
  have hs := codes_classify_sorted text
  have hn : ∀ m, NamesCode text m ↔ ∃ t ∈ (classify text).codes, t.code = m :=
    fun _ => namesCode_iff
  unfold primary?
  revert hs hn
  generalize (classify text).codes = codes
  intro hs hn
  cases codes with
  | nil =>
    have hno : ∀ m, ¬ NamesCode text m := fun m hm => by simpa using (hn m).1 hm
    simp only [List.head?_nil, Option.map_none, reduceCtorEq, false_iff]
    exact fun h => hno n h.1
  | cons t ts =>
    have hmin : IsLeast {m | NamesCode text m} t.code := by
      refine ⟨(hn _).2 ⟨t, by simp, rfl⟩, fun m hm => ?_⟩
      obtain ⟨u, hu, rfl⟩ := (hn m).1 hm
      rcases List.mem_cons.1 hu with rfl | hu
      · exact Nat.le_refl _
      · exact Nat.le_of_lt ((List.pairwise_cons.1 hs).1 u hu)
    simp only [List.head?_cons, Option.map_some, Option.some.injEq]
    constructor
    · rintro rfl; exact hmin
    · intro h; exact Nat.le_antisymm (hmin.2 h.1) (h.2 hmin.1)

/-- **The expected status** is the due one. -/
theorem statusOr_classify_eq_iff {text : String} {ofStep status : Nat} :
    (classify text).statusOr ofStep = status ↔ IsDueStatus text ofStep status := by
  unfold statusOr IsDueStatus
  rw [← primary?_classify_eq_some_iff, ← codes_classify_eq_nil_iff]
  unfold primary?
  cases (classify text).codes with
  | nil => simp [eq_comm]
  | cons t ts => simp

theorem accepts_classify_iff {text : String} {status : Nat} :
    (classify text).accepts status = true ↔
      (∀ n, ¬ NamesCode text n) ∨ NamesCode text status := by
  rw [← codes_classify_eq_nil_iff, namesCode_iff]
  simp [accepts]

/-- The due status is among those accepted. -/
theorem accepts_of_isDueStatus {text : String} {ofStep status : Nat}
    (h : IsDueStatus text ofStep status) : (classify text).accepts status = true := by
  rw [accepts_classify_iff]
  rcases h with h | h
  · exact Or.inr h.1
  · exact Or.inl h.1

/-! ## Markers -/

/-- One of the markers stands in the lower-case spelling of the text. -/
def HasMarker (markers : List String) (text : String) : Prop :=
  ∃ m ∈ markers, m.toList <:+: Text.lower text.toList

theorem anyMarker_iff {markers : List String} {text : String} :
    anyMarker markers (Text.lower text.toList) = true ↔ HasMarker markers text := by
  simp [anyMarker, HasMarker, Text.contains_iff_isInfix]

theorem array_classify_iff {text : String} :
    (classify text).array = true ↔ HasMarker arrayMarkers text := anyMarker_iff

theorem failure_classify_iff {text : String} :
    (classify text).failure = true ↔ HasMarker failureMarkers text := anyMarker_iff

/-- JSON as such is asked for only where no array is. -/
theorem json_classify_iff {text : String} :
    (classify text).json = true ↔
      HasMarker [jsonMarker] text ∧ ¬ HasMarker arrayMarkers text := by
  rw [← array_classify_iff]
  simp [classify, HasMarker, Text.contains_iff_isInfix, and_comm]

end Expectation
end CaseSheet

/-!
# Searching in a text

Where a piece stands in a text, and what is left of the text around it.
-/

namespace CaseSheet.Text

/-- What follows `piece` at the start of a list, if it stands there. -/
def stripStart? {α : Type} [BEq α] : (piece l : List α) → Option (List α)
  | [], l => some l
  | _ :: _, [] => none
  | p :: ps, a :: l => if p == a then stripStart? ps l else none

/-- Whether `piece` stands at the start of a list. -/
def startsWith {α : Type} [BEq α] (piece l : List α) : Bool := (stripStart? piece l).isSome

/-- Whether `piece` stands at the end of a list. -/
def endsWith {α : Type} [BEq α] (piece l : List α) : Bool := startsWith piece.reverse l.reverse

/-- Whether `piece` stands anywhere in a list. -/
def contains {α : Type} [BEq α] (piece : List α) : List α → Bool
  | [] => piece.isEmpty
  | a :: l => startsWith piece (a :: l) || contains piece l

theorem stripStart?_eq_some_iff {α : Type} [BEq α] [LawfulBEq α] {piece l rest : List α} :
    stripStart? piece l = some rest ↔ l = piece ++ rest := by
  induction piece generalizing l with
  | nil => simp [stripStart?, eq_comm]
  | cons p ps ih =>
    cases l with
    | nil => simp [stripStart?]
    | cons a l =>
      by_cases h : p = a
      · simp [stripStart?, h, ih]
      · simp [stripStart?, h, Ne.symm h]

theorem startsWith_iff {α : Type} [BEq α] [LawfulBEq α] {piece l : List α} :
    startsWith piece l = true ↔ ∃ rest, l = piece ++ rest := by
  simp [startsWith, Option.isSome_iff_exists, stripStart?_eq_some_iff]

/-- A piece stands in a list exactly when the list splits around it. -/
theorem contains_iff {α : Type} [BEq α] [LawfulBEq α] {piece l : List α} :
    contains piece l = true ↔ ∃ before after, l = before ++ piece ++ after := by
  induction l with
  | nil => simp [contains]
  | cons a l ih =>
    simp only [contains, Bool.or_eq_true, startsWith_iff, ih]
    constructor
    · rintro (⟨rest, h⟩ | ⟨before, after, h⟩)
      · exact ⟨[], rest, by simp [h]⟩
      · exact ⟨a :: before, after, by simp [h]⟩
    · rintro ⟨before, after, h⟩
      cases before with
      | nil => exact .inl ⟨after, by simpa using h⟩
      | cons b before =>
        simp only [List.cons_append, List.cons.injEq] at h
        exact .inr ⟨before, after, h.2⟩

end CaseSheet.Text

namespace CaseSheet

/-- Whether `piece` stands anywhere in the text. -/
def mentions (text piece : String) : Bool := Text.contains piece.toList text.toList

end CaseSheet

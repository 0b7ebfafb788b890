import CaseSheet.Text.Blank
/-!
# Lines

A text is cut at its line feeds; a carriage return that stands directly before the cut belongs to
the line end. A text that ends in a line feed has no further line after it.
-/

namespace CaseSheet.Text

/-- The pieces between the occurrences of `sep`: one more than there are occurrences. -/
def splitAll {α : Type} [BEq α] (sep : α) : List α → List (List α)
  | [] => [[]]
  | a :: r =>
    if a == sep then [] :: splitAll sep r
    else match splitAll sep r with
      | [] => [[a]]
      | p :: ps => (a :: p) :: ps

theorem splitAll_ne_nil {α : Type} [BEq α] (sep : α) (l : List α) : splitAll sep l ≠ [] := by
  cases l with
  | nil => simp [splitAll]
  | cons a r =>
    unfold splitAll
    split
    · simp
    · split <;> simp

/-- The pieces put together again, with `sep` between each two. -/
def joinWith {α : Type} (sep : List α) : List (List α) → List α
  | [] => []
  | [p] => p
  | p :: q :: ps => p ++ sep ++ joinWith sep (q :: ps)

/-- A line without the carriage return of its line end. -/
def dropReturn (l : List Char) : List Char :=
  match l.reverse with
  | '\r' :: r => r.reverse
  | _ => l

/-- Drops the empty piece behind a final line feed. -/
def dropFinalEmpty : List (List Char) → List (List Char)
  | [] => []
  | [[]] => []
  | l :: ls => l :: dropFinalEmpty ls

/-- The lines of a text. -/
def lines (cs : List Char) : List (List Char) :=
  (dropFinalEmpty (splitAll '\n' cs)).map dropReturn

/-- The lines with something on them, each trimmed. -/
def filledLines (cs : List Char) : List (List Char) :=
  ((lines (trim cs)).map trim).filter fun l => !l.isEmpty

end CaseSheet.Text

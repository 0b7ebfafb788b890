/-!
# Blank characters and trimming

The blank characters are those with the Unicode property `White_Space`. Trimming drops them
from the ends of a text and nowhere else: what is left starts and ends with a character that is
not blank, and a text that already does so is left alone.
-/

namespace CaseSheet.Text

/-- The characters with the Unicode property `White_Space`. -/
def isBlank (c : Char) : Bool :=
  let n := c.toNat
  (0x9 ≤ n && n ≤ 0xD) || n == 0x20 || n == 0x85 || n == 0xA0 || n == 0x1680 ||
    (0x2000 ≤ n && n ≤ 0x200A) || n == 0x2028 || n == 0x2029 || n == 0x202F || n == 0x205F ||
    n == 0x3000

theorem isBlank_of_isWhitespace {c : Char} (h : c.isWhitespace = true) : isBlank c = true := by
  simp only [Char.isWhitespace, Bool.or_eq_true, decide_eq_true_eq] at h
  rcases h with ((rfl | rfl) | rfl) | rfl <;> decide

/-- Drops the longest tail whose members all satisfy `p`. -/
def dropEndWhile {α : Type} (p : α → Bool) (l : List α) : List α :=
  (l.reverse.dropWhile p).reverse

/-- The text without the blanks at its start. -/
def trimStart (cs : List Char) : List Char := cs.dropWhile isBlank

/-- The text without the blanks at its end. -/
def trimEnd (cs : List Char) : List Char := dropEndWhile isBlank cs

/-- The text without the blanks at either end. -/
def trim (cs : List Char) : List Char := trimEnd (trimStart cs)

/-- A text with no character other than blanks. -/
def isAllBlank (cs : List Char) : Bool := cs.all isBlank

@[simp] theorem trim_nil : trim [] = [] := rfl

theorem dropEndWhile_append_of_forall {α : Type} {p : α → Bool} {l r : List α}
    (h : ∀ a ∈ r, p a = true) : dropEndWhile p (l ++ r) = dropEndWhile p l := by
  have h' : ∀ a ∈ r.reverse, p a = true := by simpa using h
  simp [dropEndWhile, List.reverse_append, List.dropWhile_append_of_pos h']

theorem trimEnd_append_of_isAllBlank {l r : List Char} (h : isAllBlank r = true) :
    trimEnd (l ++ r) = trimEnd l :=
  dropEndWhile_append_of_forall (List.all_eq_true.1 h)

end CaseSheet.Text

namespace CaseSheet

/-- A text without the blanks at either end. -/
def trimmed (s : String) : String := String.ofList (Text.trim s.toList)

/-- A text with no character other than blanks. -/
def isBlankText (s : String) : Bool := Text.isAllBlank s.toList

@[simp] theorem toList_trimmed (s : String) : (trimmed s).toList = Text.trim s.toList := by
  simp [trimmed]

end CaseSheet

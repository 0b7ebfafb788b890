import CaseSheet.Proofs.Json.Value
/-!
# JSON texts of one line

A value that is written without blanks stands on one line, whatever its strings hold, since a string
has its line feeds escaped. The text of an object is between braces.

* `newline_notMem_compact`: the text has no line feed.
* `exists_inner_write`: the text of an object starts and ends with a brace.
-/
namespace CaseSheet.Json

variable {depth level : Nat} {v : Value}

theorem newline_notMem_ofNat (n : Nat) : '\n' ∉ Digits.ofNat n := by
  intro h
  have hdigit := Digits.isDigit_of_mem_ofNat h
  revert hdigit
  decide

theorem newline_notMem_signed (n : Int) : '\n' ∉ Digits.signed n := by
  cases n with
  | ofNat n => exact newline_notMem_ofNat n
  | negSucc n =>
    intro h
    rcases List.mem_cons.1 h with h | h
    · revert h; decide
    · exact newline_notMem_ofNat (n + 1) h

theorem newline_notMem_escapeChar (c : Char) : '\n' ∉ escapeChar c := by
  have hdigit : ∀ n < 16, Hex.lowerDigit n ≠ '\n' := by decide
  unfold escapeChar
  split
  case h_8 _ _ _ _ _ hc _ _ =>
    split
    · next hcontrol =>
      have hhigh := hdigit (c.toNat / 16) (by omega)
      have hlow := hdigit (c.toNat % 16) (by omega)
      simp [hhigh.symm, hlow.symm]
    · intro h
      exact hc (List.mem_singleton.1 h).symm
  all_goals decide

theorem newline_notMem_writeString (s : String) : '\n' ∉ writeString s := by
  have hbody : '\n' ∉ s.toList.flatMap escapeChar := by
    intro h
    obtain ⟨c, -, hc⟩ := List.mem_flatMap.1 h
    exact newline_notMem_escapeChar c hc
  simp [writeString, hbody]

theorem newline_notMem_tailOf {β : Type} {text : β → List Char} {bs : List β} {ending : List Char}
    {close : Char} (htext : ∀ b ∈ bs, '\n' ∉ text b) (hending : '\n' ∉ ending)
    (hclose : '\n' ≠ close) :
    '\n' ∉ tailOf text bs ending close := by
  have hbs : '\n' ∉ bs.flatMap fun b => ',' :: text b := by
    intro h
    obtain ⟨b, hb, hmem⟩ := List.mem_flatMap.1 h
    rcases List.mem_cons.1 hmem with hc | hc
    · revert hc; decide
    · exact htext b hb hc
  simp [tailOf, hbs, hending, hclose]

@[simp] theorem oneLine_before (depth : Nat) : oneLine.before depth = [] := rfl

@[simp] theorem oneLine_gap : oneLine.gap = [] := rfl

/-- **A value stands on one line**, by induction on the value; its numbers are whole. -/
theorem newline_notMem_write (h : v.IsExact) (level : Nat) : '\n' ∉ write oneLine level v := by
  induction h generalizing level with
  | null => simp [write]
  | bool b => cases b <;> simp [write]
  | @whole n low high =>
    rw [write, writeNumber]
    exact newline_notMem_signed n
  | string s =>
    rw [write]
    exact newline_notMem_writeString s
  | @array items each ih =>
    cases items with
    | nil => simp [write]
    | cons v items =>
      have hv := ih v (by simp) (level + 1)
      have hitems :
          '\n' ∉ tailOf (writeItem oneLine (level + 1)) items (oneLine.before level) ']' := by
        apply newline_notMem_tailOf _ (by simp) (by decide)
        intro w hw
        simpa [writeItem] using ih w (by simp [hw]) (level + 1)
      rw [oneLine_before] at hitems
      rw [write, writeItems_eq]
      simp [hv, hitems]
  | @object fields order each ih =>
    cases fields with
    | nil => simp [write]
    | cons f fields =>
      obtain ⟨k, v⟩ := f
      have hv := ih (k, v) (by simp) (level + 1)
      have hfields :
          '\n' ∉ tailOf (writeField oneLine (level + 1)) fields (oneLine.before level) '\x7d' := by
        apply newline_notMem_tailOf _ (by simp) (by decide)
        intro g hg
        have hvalue := ih g (by simp [hg]) (level + 1)
        simp [writeField, newline_notMem_writeString, hvalue]
      rw [oneLine_before] at hfields
      rw [write, writeFields_eq]
      simp [newline_notMem_writeString, hv, hfields]

theorem newline_notMem_compact (h : v.IsExact) : '\n' ∉ v.compact.toList := by
  rw [Value.compact, String.toList_ofList]
  exact newline_notMem_write h 0

/-- The text of an object is between braces. -/
theorem exists_inner_write (f : Layout) (level : Nat) (fields : List (String × Value)) :
    ∃ inner, write f level (.object fields) = '\x7b' :: (inner ++ ['\x7d']) := by
  cases fields with
  | nil => exact ⟨[], rfl⟩
  | cons g fields =>
    obtain ⟨k, v⟩ := g
    refine ⟨writeField f (level + 1) (k, v) ++
      (fields.flatMap (fun g => ',' :: writeField f (level + 1) g) ++ f.before level), ?_⟩
    rw [write, writeFields_eq, tailOf, writeField]
    simp

end CaseSheet.Json

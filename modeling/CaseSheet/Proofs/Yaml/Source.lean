import CaseSheet.Yaml.Write
/-!
# Written characters and their places

Everything that is written into a YAML source is printable, and a printable text is located
character by character: no line ends have to be made uniform. So the places of a written text are
`located`, and the place behind it is `Mark.pastAll`.

* `isAllowed_of_isPrintable`, `locate_eq`: a printable text is a source and is located as it is.
* `located_append`: the parts of a text lie one behind the other.
* `column_pastAll`: on one line, columns advance with the characters.
-/

namespace CaseSheet.Yaml

/-! ## Printable characters -/

section Printable

variable {c d : Char}

theorem isAllowed_of_isPrintable (h : isPrintable c = true) : isAllowed c = true := by
  simp only [isPrintable, isAllowed, Bool.or_eq_true, Bool.and_eq_true, beq_iff_eq,
    decide_eq_true_eq, bne_iff_ne] at h ⊢
  rcases h with ((rfl | h) | h) | h
  · decide
  · omega
  · omega
  · omega

/-- A printable character is none of those that are not. -/
theorem ne_of_isPrintable (hc : isPrintable c = true) (hd : isPrintable d = false) : c ≠ d := by
  rintro rfl
  rw [hc] at hd
  cases hd

theorem eq_space_of_isGap (hc : isPrintable c = true) (h : isGap c = true) : c = ' ' := by
  simp only [isGap, Bool.or_eq_true, beq_iff_eq] at h
  exact h.resolve_right (ne_of_isPrintable hc (by decide))

theorem isGap_eq_false (hc : isPrintable c = true) (h : c ≠ ' ') : isGap c = false := by
  rw [← Bool.not_eq_true]
  exact fun hg => h (eq_space_of_isGap hc hg)

/-- A line end is no gap. -/
theorem isGap_of_isBreak (h : isBreak c = true) : isGap c = false := by
  simp only [isBreak, Bool.or_eq_true, beq_iff_eq] at h
  rcases h with (rfl | rfl) | rfl <;> decide

end Printable

/-! ## Places -/

/-- The place behind a character. -/
def Mark.past (m : Mark) (c : Char) : Mark := if isBreak c then m.down 1 else m.right

/-- The place behind a text. -/
def Mark.pastAll (m : Mark) (cs : List Char) : Mark := cs.foldl Mark.past m

/-- The characters of a text from a place on. -/
def located : Mark → List Char → List Located
  | _, [] => []
  | m, c :: r => ⟨c, m⟩ :: located (m.past c) r

namespace Mark

@[simp] theorem pastAll_nil (m : Mark) : m.pastAll [] = m := rfl

@[simp] theorem pastAll_cons (m : Mark) (c : Char) (cs : List Char) :
    m.pastAll (c :: cs) = (m.past c).pastAll cs := rfl

@[simp] theorem pastAll_append (m : Mark) (a b : List Char) :
    m.pastAll (a ++ b) = (m.pastAll a).pastAll b := List.foldl_append

theorem past_of_not_break {c : Char} (m : Mark) (h : isBreak c = false) : m.past c = m.right := by
  simp [past, h]

theorem column_past_of_not_break {c : Char} (m : Mark) (h : isBreak c = false) :
    (m.past c).column = m.column + 1 := by
  rw [past_of_not_break m h]
  rfl

@[simp] theorem column_past_of_break {c : Char} (m : Mark) (h : isBreak c = true) :
    (m.past c).column = 0 := by
  simp [past, h, down]

/-- On one line, each character is a place further than the one before. -/
theorem pastAll_of_not_break {cs : List Char} (m : Mark) (h : ∀ c ∈ cs, isBreak c = false) :
    m.pastAll cs = ⟨m.index + cs.length, m.line, m.column + cs.length⟩ := by
  induction cs generalizing m with
  | nil => rfl
  | cons c cs ih =>
    rw [pastAll_cons, past_of_not_break m (h c List.mem_cons_self),
      ih _ fun d hd => h d (List.mem_cons_of_mem c hd)]
    simp only [right, List.length_cons, Mark.mk.injEq, true_and]
    omega

theorem column_pastAll {cs : List Char} (m : Mark) (h : ∀ c ∈ cs, isBreak c = false) :
    (m.pastAll cs).column = m.column + cs.length := by
  rw [pastAll_of_not_break m h]

end Mark

/-- The parts of a text lie one behind the other. -/
theorem located_append (m : Mark) (a b : List Char) :
    located m (a ++ b) = located m a ++ located (m.pastAll a) b := by
  induction a generalizing m with
  | nil => rfl
  | cons c a ih => simp only [List.cons_append, located, ih, Mark.pastAll_cons]

/-- A text starts where it was located. -/
@[simp] theorem placeOf_located (m : Mark) (cs : List Char) :
    placeOf (m.pastAll cs) (located m cs) = m := by
  cases cs <;> rfl

theorem locateFrom_eq {cs : List Char} (m : Mark) (h : ∀ c ∈ cs, isPrintable c = true) :
    locateFrom m cs = (located m cs, m.pastAll cs) := by
  induction cs generalizing m with
  | nil => rfl
  | cons c cs ih =>
    have hc := h c List.mem_cons_self
    have hreturn : c ≠ '\r' := ne_of_isPrintable hc (by decide)
    have hnext : c ≠ '\u0085' := ne_of_isPrintable hc (by decide)
    have hcs := fun m => ih m fun d hd => h d (List.mem_cons_of_mem c hd)
    rw [locateFrom]
    · by_cases hfeed : c = '\n'
      · subst hfeed
        simp only [or_true, true_or, if_true, hcs]
        rfl
      · simp only [hreturn, hfeed, hnext, or_false, if_false, hcs, located, Mark.pastAll_cons,
          Mark.past]
    · exact fun r hr _ => hreturn hr

/-- **A printable text is located as it is.** -/
theorem locate_eq {cs : List Char} (h : ∀ c ∈ cs, isPrintable c = true) :
    locate cs = (located .start cs, Mark.start.pastAll cs) := by
  cases cs with
  | nil => rfl
  | cons c cs =>
    have hc : c ≠ byteOrderMark := ne_of_isPrintable (h c List.mem_cons_self) (by decide)
    rw [locate, if_neg hc]
    exact locateFrom_eq .start h

/-- Documents are only parted at the start of a line. -/
theorem atDocumentMarker_eq_false (d c : Char) {m : Mark} (r : List Located)
    (h : m.column ≠ 0) : atDocumentMarker d (⟨c, m⟩ :: r) = false := by
  match r with
  | [] => rfl
  | [_] => rfl
  | _ :: _ :: _ => simp [atDocumentMarker, h]

theorem atAnyMarker_eq_false (c : Char) {m : Mark} (r : List Located) (h : m.column ≠ 0) :
    atAnyMarker (⟨c, m⟩ :: r) = false := by
  rw [atAnyMarker, atDocumentMarker_eq_false '-' c r h, atDocumentMarker_eq_false '.' c r h,
    Bool.or_false]

/-- A marker consists of one character. -/
theorem atDocumentMarker_of_ne {c d : Char} (m : Mark) (r : List Located) (h : c ≠ d) :
    atDocumentMarker d (⟨c, m⟩ :: r) = false := by
  match r with
  | [] => rfl
  | [_] => rfl
  | _ :: _ :: _ => simp [atDocumentMarker, h]

/-! ## Neighbours and margins -/

namespace ScalarText

theorem hasPair_cons (p q : Char → Bool) (c : Char) (r : List Char) :
    hasPair p q (c :: r) = (p c && startsIn q r || hasPair p q r) := by
  cases r <;> simp [hasPair, startsIn]

theorem startsIn_cons (p : Char → Bool) (c : Char) (r : List Char) :
    startsIn p (c :: r) = p c := rfl

theorem endsIn_singleton (p : Char → Bool) (c : Char) : endsIn p [c] = p c := rfl

theorem endsIn_append_singleton (p : Char → Bool) (cs : List Char) (c : Char) :
    endsIn p (cs ++ [c]) = p c := by
  simp [endsIn]

theorem endsIn_cons_cons (p : Char → Bool) (c d : Char) (r : List Char) :
    endsIn p (c :: d :: r) = endsIn p (d :: r) := by
  rw [endsIn, List.getLast?_cons_cons]
  rfl

theorem margin_succ (n : Nat) : margin (n + 1) = ' ' :: margin n := rfl

theorem isBreak_of_mem_margin {n : Nat} {c : Char} (h : c ∈ margin n) : isBreak c = false := by
  rw [List.eq_of_mem_replicate h]
  decide

theorem column_pastAll_margin (m : Mark) (n : Nat) :
    (m.pastAll (margin n)).column = m.column + n := by
  rw [Mark.column_pastAll m fun c hc => isBreak_of_mem_margin hc, margin, List.length_replicate]

end ScalarText
end CaseSheet.Yaml

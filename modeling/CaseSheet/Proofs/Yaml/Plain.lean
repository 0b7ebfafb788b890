import CaseSheet.Proofs.Yaml.Source
/-!
# Plain scalars read back

A plain scalar goes on, word by word, as long as no colon stands before a gap and no comment sign
behind one. It ends at the colon of a key, or where a further line stands left of its own.

* `plainScalar?_append`, `plainScalar?_word`: the characters of a scalar, whatever comes behind it.
* `plainScalar?_key`, `plainScalar?_line`: the two ends of a scalar.
-/

namespace CaseSheet.Yaml

open ScalarText

/-- A text that a plain scalar can have on its line: it holds nothing that would cut it short, and
has no gap at its end. -/
structure PlainText (cs : List Char) : Prop where
  printable : ∀ c ∈ cs, isPrintable c = true
  oneLine : ∀ c ∈ cs, isBreak c = false
  noKey : hasPair (· == ':') isGap cs = false
  noColon : endsIn (· == ':') cs = false
  noComment : hasPair isGap (· == '#') cs = false
  noGap : endsIn isSpace cs = false

theorem PlainText.tail {c : Char} {cs : List Char} (h : PlainText (c :: cs)) : PlainText cs where
  printable d hd := h.printable d (List.mem_cons_of_mem c hd)
  oneLine d hd := h.oneLine d (List.mem_cons_of_mem c hd)
  noKey := (Bool.or_eq_false_iff.1 (hasPair_cons _ _ c cs ▸ h.noKey)).2
  noComment := (Bool.or_eq_false_iff.1 (hasPair_cons _ _ c cs ▸ h.noComment)).2
  noColon := by
    cases cs with
    | nil => rfl
    | cons d cs => exact endsIn_cons_cons _ c d cs ▸ h.noColon
  noGap := by
    cases cs with
    | nil => rfl
    | cons d cs => exact endsIn_cons_cons _ c d cs ▸ h.noGap

/-- Behind a character of a plain text stands no gap and no line end if the character is a colon. -/
theorem PlainText.atGap_of_colon {c : Char} {cs : List Char} (h : PlainText (c :: cs))
    (hc : c = ':') (m : Mark) (tail : List Char) : atGap (located m (cs ++ tail)) = false := by
  subst hc
  cases cs with
  | nil =>
    have hcolon := h.noColon
    rw [endsIn_singleton] at hcolon
    cases hcolon
  | cons d cs =>
    have hkey := h.noKey
    rw [hasPair_cons, startsIn_cons] at hkey
    have hgap : isGap d = false := by simpa using (Bool.or_eq_false_iff.1 hkey).1
    have hbreak := h.oneLine d (List.mem_cons_of_mem _ List.mem_cons_self)
    simp [located, atGap, hgap, hbreak]

section

variable {least : Nat} {m : Mark} {text g tail : List Char}

/-- A character of a word. Behind a gap it must neither stand too far left nor be a comment sign. -/
theorem plainScalar?_char {c : Char} (hgap : isGap c = false) (hbreak : isBreak c = false)
    (hcolon : c = ':' → atGap (located (m.past c) tail) = false)
    (hg : g ≠ [] → least ≤ m.column ∧ m.column ≠ 0 ∧ c ≠ '#') :
    plainScalar? false least text (.gaps g) (located m (c :: tail)) =
      plainScalar? false least (c :: (g.reverse ++ text)) .nothing
        (located (m.past c) tail) := by
  have hstays : (Pending.gaps g != .nothing && (!false && decide (m.column < least) ||
      atAnyMarker (⟨c, m⟩ :: located (m.past c) tail) || c == '#')) = false := by
    by_cases hnil : g = []
    · subst hnil
      rfl
    · obtain ⟨hleast, hcolumn, hhash⟩ := hg hnil
      have hright : ¬ m.column < least := Nat.not_lt.2 hleast
      simp [atAnyMarker_eq_false c _ hcolumn, hright, hhash]
  have hgoesOn : plainNext false c (located (m.past c) tail) = .goesOn := by
    simp only [plainNext, Bool.false_and, Bool.false_eq_true, if_false]
    by_cases hc : c = ':'
    · simp [hcolon hc]
    · simp [hc]
  rw [located, plainScalar?]
  simp only [hgap, hbreak, hstays, hgoesOn, Bool.false_eq_true, if_false, Pending.fold]

/-- **The characters of a plain scalar**, whatever stands behind them. -/
theorem plainScalar?_append {cs : List Char} (h : PlainText cs) (hleast : least ≠ 0)
    (hm : least ≤ m.column) (hgaps : cs = [] → g = [])
    (hcomment : g ≠ [] → startsIn (· == '#') cs = false) :
    plainScalar? false least text (.gaps g) (located m (cs ++ tail)) =
      plainScalar? false least (cs.reverse ++ (g.reverse ++ text)) .nothing
        (located (m.pastAll cs) tail) := by
  induction cs generalizing m text g with
  | nil =>
    rw [hgaps rfl]
    rfl
  | cons c cs ih =>
    have hbreak := h.oneLine c List.mem_cons_self
    have hm' : least ≤ (m.past c).column := by
      rw [Mark.column_past_of_not_break m hbreak]
      omega
    rw [List.cons_append]
    by_cases hspace : c = ' '
    · -- A gap, with something behind it that is no comment.
      subst hspace
      have hgap : isGap ' ' = true := by decide
      have hnext : startsIn (· == '#') cs = false := by
        have hpair := h.noComment
        rw [hasPair_cons] at hpair
        simpa [hgap] using (Bool.or_eq_false_iff.1 hpair).1
      have hsome : cs = [] → g ++ [' '] = [] := by
        rintro rfl
        have hlast := h.noGap
        rw [endsIn_singleton] at hlast
        cases hlast
      rw [located, plainScalar?]
      simp only [hgap, if_true, Pending.hasBreak, Bool.false_and, Bool.false_eq_true, if_false,
        Pending.addGap]
      rw [ih h.tail hm' hsome fun _ => hnext]
      simp
    · -- A character of a word.
      have hgap := isGap_eq_false (h.printable c List.mem_cons_self) hspace
      have hbehind : g ≠ [] → least ≤ m.column ∧ m.column ≠ 0 ∧ c ≠ '#' := fun hg =>
        ⟨hm, by omega, by simpa [startsIn_cons] using hcomment hg⟩
      rw [plainScalar?_char hgap hbreak (fun hc => h.atGap_of_colon hc _ tail) hbehind,
        Pending.nothing, ih h.tail hm' (fun _ => rfl) fun hg => absurd rfl hg]
      simp [Pending.nothing]

/-- The characters of a word, which may stand anywhere. -/
theorem plainScalar?_word {cs : List Char} (hgap : ∀ c ∈ cs, isGap c = false)
    (hbreak : ∀ c ∈ cs, isBreak c = false) (hcolon : ':' ∉ cs) :
    plainScalar? false least text .nothing (located m (cs ++ tail)) =
      plainScalar? false least (cs.reverse ++ text) .nothing (located (m.pastAll cs) tail) := by
  induction cs generalizing m text with
  | nil => rfl
  | cons c cs ih =>
    rw [List.mem_cons, not_or] at hcolon
    rw [List.cons_append, Pending.nothing, plainScalar?_char (hgap c List.mem_cons_self)
      (hbreak c List.mem_cons_self) (fun hc => absurd hc.symm hcolon.1) fun h => absurd rfl h,
      ← Pending.nothing, ih (fun d hd => hgap d (List.mem_cons_of_mem c hd))
        (fun d hd => hbreak d (List.mem_cons_of_mem c hd)) hcolon.2]
    simp

/-- A scalar ends where a colon makes it a key. -/
theorem plainScalar?_key {d : Char} (hd : isGap d = true ∨ isBreak d = true) :
    plainScalar? false least text .nothing (located m (':' :: d :: tail)) =
      some (text.reverse, .nothing, located m (':' :: d :: tail)) := by
  have hgap : isGap ':' = false := by decide
  have hbreak : isBreak ':' = false := by decide
  have hends : plainNext false ':' (located (m.past ':') (d :: tail)) = .ends := by
    have hat : atGap (located (m.past ':') (d :: tail)) = true := by
      rcases hd with hd | hd <;> simp [located, atGap, hd]
    simp [plainNext, hat]
  rw [located, plainScalar?]
  simp only [hgap, hbreak, hends, Bool.false_eq_true, if_false, bne_self_eq_false, Bool.false_and]

/-- Behind a line end, the margin of the next line does not count. -/
theorem plainScalar?_margin (first : Option Char) (more : List Char) (n : Nat) :
    plainScalar? false least text (.breaks first more) (located m (margin n ++ tail)) =
      plainScalar? false least text (.breaks first more)
        (located (m.pastAll (margin n)) tail) := by
  induction n generalizing m with
  | zero => rfl
  | succ n ih =>
    have hgap : isGap ' ' = true := by decide
    rw [margin_succ, List.cons_append, located, plainScalar?, Mark.pastAll_cons, ← ih]
    simp [hgap, Pending.addGap]

/-- What a line starts with behind its margin: something that is neither a gap nor a line end nor a
comment, unless the source ends there. -/
structure LineStart (body : List Char) : Prop where
  noGap : startsIn isGap body = false
  noBreak : startsIn isBreak body = false
  noComment : startsIn (· == '#') body = false
  noMark : startsIn (· == byteOrderMark) body = false

/-- A scalar ends with its line if the next one starts further to the left than the scalar may. -/
theorem plainScalar?_line {n : Nat} {body : List Char} (hn : n < least) (hbody : LineStart body) :
    plainScalar? false least text .nothing (located m ('\n' :: (margin n ++ body))) =
      some (text.reverse, .breaks (some '\n') [],
        located (m.pastAll ('\n' :: margin n)) body) := by
  have hgap : isGap '\n' = false := by decide
  have hbreak : isBreak '\n' = true := by decide
  have hcolumn : ((m.past '\n').pastAll (margin n)).column = n := by
    rw [column_pastAll_margin, Mark.column_past_of_break m hbreak, Nat.zero_add]
  rw [located, plainScalar?]
  simp only [hgap, hbreak, Bool.false_eq_true, if_false, if_true, Pending.nothing,
    Pending.addBreak, plainScalar?_margin, Mark.pastAll_cons]
  cases body with
  | nil => rfl
  | cons c body =>
    have hc : isGap c = false := hbody.noGap
    have hc' : isBreak c = false := hbody.noBreak
    have hleft : ((m.past '\n').pastAll (margin n)).column < least := by omega
    have hbehind : (Pending.breaks (some '\n') [] != .gaps []) = true := rfl
    rw [located, plainScalar?]
    simp only [hc, hc', hbehind, hleft, Pending.nothing, Bool.false_eq_true, if_false,
      decide_true, Bool.not_false, Bool.and_self, Bool.true_or, Bool.and_true, if_true]

end

end CaseSheet.Yaml

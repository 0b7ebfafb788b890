import CaseSheet.Proofs.Yaml.Source
/-!
# Quoted scalars read back

Between double quotes any text reads back: what stands there is on one line, and every character
that is not written as itself has an escape that names it. Between single quotes a text reads back
that has no line feed and no space beside a line end: the margin of a further line is dropped, and
the line end in front of it stands for itself.

* `hexNumber?_upperPadded`, `escape?_of_shortEscape?`: escapes name the characters they are for.
* `doubleQuoted?_write`, `singleQuoted?_write`: the text between the quotes, and what is left of the
  source behind them.
-/

namespace CaseSheet.Yaml

open ScalarText

/-! ## Escapes -/

/-- The last digit of a number is read behind the others. -/
theorem hexNumber?_succ (count acc : Nat) (ls : List Located) :
    hexNumber? (count + 1) acc ls =
      (hexNumber? count acc ls).bind fun x => hexNumber? 1 x.1 x.2 := by
  induction count generalizing acc ls with
  | zero => rfl
  | succ count ih =>
    cases ls with
    | nil => rfl
    | cons l r =>
      rw [hexNumber?, hexNumber?]
      cases Hex.value? l.char with
      | none => rfl
      | some d => exact ih (acc * 16 + d) r

theorem hexNumber?_upperPadded (count n acc : Nat) (m : Mark) (rest : List Char) :
    hexNumber? count acc (located m (Hex.upperPadded count n ++ rest)) =
      some (acc * 16 ^ count + n % 16 ^ count,
        located (m.pastAll (Hex.upperPadded count n)) rest) := by
  induction count generalizing n m rest with
  | zero => simp [hexNumber?, Hex.upperPadded, Nat.mod_one]
  | succ count ih =>
    have hdigit : n % 16 < 16 := Nat.mod_lt n (by decide)
    have hvalue : (acc * 16 ^ count + n / 16 % 16 ^ count) * 16 + n % 16 =
        acc * 16 ^ (count + 1) + n % 16 ^ (count + 1) := by
      rw [Nat.pow_succ', Nat.mod_mul, Nat.mul_left_comm]
      omega
    rw [hexNumber?_succ, Hex.upperPadded, List.append_assoc, ih, Option.bind_some]
    simp only [List.cons_append, List.nil_append, located, hexNumber?,
      Hex.value?_upperDigit hdigit, hvalue, Mark.pastAll_append, Mark.pastAll_cons,
      Mark.pastAll_nil]

theorem charOfNumber?_toNat (c : Char) : charOfNumber? c.toNat = some c := by
  have hvalid : c.toNat < 0xD800 ∨ (0xDFFF < c.toNat ∧ c.toNat < 0x110000) := c.valid
  rw [charOfNumber?, if_pos (by omega), Char.ofNat_toNat]

/-- A short escape names the character that it is for. -/
theorem escape?_of_shortEscape? {c e : Char} (h : shortEscape? c = some e) (m : Mark)
    (r : List Located) : isBreak e = false ∧ escape? (⟨e, m⟩ :: r) = some (c, r) := by
  unfold shortEscape? at h
  split at h <;> cases h <;> exact ⟨by decide, rfl⟩

/-- A character without a short escape is none of those that have one. -/
theorem ne_of_shortEscape?_eq_none {c d : Char} (hc : shortEscape? c = none)
    (hd : (shortEscape? d).isSome = true) : c ≠ d := by
  rintro rfl
  rw [hc] at hd
  cases hd

theorem isBreak_of_shortEscape?_eq_none {c : Char} (h : shortEscape? c = none) :
    isBreak c = false := by
  have hfeed : c ≠ '\n' := ne_of_shortEscape?_eq_none h rfl
  have hline : c ≠ '\u2028' := ne_of_shortEscape?_eq_none h rfl
  have hparagraph : c ≠ '\u2029' := ne_of_shortEscape?_eq_none h rfl
  simp [isBreak, hfeed, hline, hparagraph]

/-- A numbered escape names the character with the number. -/
theorem escape?_of_number {c x : Char} {count : Nat} (hx : numberedEscape? x = some count)
    (hc : c.toNat < 16 ^ count) (m : Mark) (rest : List Char) :
    escape? (⟨x, m⟩ :: located (m.past x) (Hex.upperPadded count c.toNat ++ rest)) =
      some (c, located (m.pastAll (x :: Hex.upperPadded count c.toNat)) rest) := by
  simp only [escape?, hx, hexNumber?_upperPadded, Nat.mod_eq_of_lt hc, Nat.zero_mul, Nat.zero_add,
    Option.bind_eq_bind, Option.bind_some, charOfNumber?_toNat, Mark.pastAll_cons]
  rfl

/-- A character between double quotes is written as itself, or as a backslash and an escape that
names it. -/
theorem writeDouble_cases (c : Char) :
    (writeDouble c = [c] ∧ isPrintable c = true ∧ c ≠ '"' ∧ c ≠ '\\' ∧ isBreak c = false) ∨
      ∃ e es, writeDouble c = '\\' :: e :: es ∧ isBreak e = false ∧ ∀ m rest,
        escape? (located m (e :: es ++ rest)) = some (c, located (m.pastAll (e :: es)) rest) := by
  rw [writeDouble]
  cases hshort : shortEscape? c with
  | some e =>
    refine .inr ⟨e, [], rfl, (escape?_of_shortEscape? hshort .start []).1, fun m rest => ?_⟩
    exact (escape?_of_shortEscape? hshort m _).2
  | none =>
    by_cases hprint : isPrintable c = true
    · exact .inl ⟨by simp [hprint], hprint, ne_of_shortEscape?_eq_none hshort rfl,
        ne_of_shortEscape?_eq_none hshort rfl, isBreak_of_shortEscape?_eq_none hshort⟩
    · refine .inr ?_
      have hvalid : c.toNat < 0xD800 ∨ (0xDFFF < c.toNat ∧ c.toNat < 0x110000) := c.valid
      simp only [hprint]
      by_cases h2 : c.toNat < 0x100
      · refine ⟨'x', Hex.upperPadded 2 c.toNat, by simp [h2], by decide, fun m rest => ?_⟩
        exact escape?_of_number rfl h2 m rest
      · by_cases h4 : c.toNat < 0x10000
        · refine ⟨'u', Hex.upperPadded 4 c.toNat, by simp [h2, h4], by decide, fun m rest => ?_⟩
          exact escape?_of_number rfl h4 m rest
        · refine ⟨'U', Hex.upperPadded 8 c.toNat, by simp [h2, h4], by decide, fun m rest => ?_⟩
          exact escape?_of_number rfl (by omega) m rest

theorem of_mem_upperPadded {count n : Nat} {d : Char} (h : d ∈ Hex.upperPadded count n) :
    isPrintable d = true ∧ isBreak d = false := by
  induction count generalizing n with
  | zero => cases h
  | succ count ih =>
    rcases List.mem_append.1 h with h | h
    · exact ih h
    · have hdigit : ∀ k < 16, isPrintable (Hex.upperDigit k) = true ∧
          isBreak (Hex.upperDigit k) = false := by decide
      rw [List.mem_singleton.1 h]
      exact hdigit _ (Nat.mod_lt n (by decide))

/-- What stands between double quotes is printable, and on one line. -/
theorem of_mem_writeDouble {c d : Char} (h : d ∈ writeDouble c) :
    isPrintable d = true ∧ isBreak d = false := by
  have hslash : isPrintable '\\' = true ∧ isBreak '\\' = false := by decide
  have hnumbered {x : Char} {count : Nat} (hx : isPrintable x = true ∧ isBreak x = false)
      (h : d ∈ '\\' :: x :: Hex.upperPadded count c.toNat) :
      isPrintable d = true ∧ isBreak d = false := by
    rcases List.mem_cons.1 h with rfl | h
    · exact hslash
    · rcases List.mem_cons.1 h with rfl | h
      · exact hx
      · exact of_mem_upperPadded h
  rw [writeDouble] at h
  cases hshort : shortEscape? c with
  | some e =>
    have he : isPrintable e = true ∧ isBreak e = false := by
      unfold shortEscape? at hshort
      split at hshort <;> cases hshort <;> decide
    simp only [hshort, List.mem_cons, List.not_mem_nil, or_false] at h
    rcases h with rfl | rfl
    · exact hslash
    · exact he
  | none =>
    simp only [hshort] at h
    split at h
    · next hprint =>
      rw [List.mem_singleton.1 h]
      exact ⟨hprint, isBreak_of_shortEscape?_eq_none hshort⟩
    · split at h
      · exact hnumbered (by decide) h
      · split at h
        · exact hnumbered (by decide) h
        · exact hnumbered (by decide) h

/-! ## Double quotes -/

section DoubleQuoted

variable {m : Mark} {text : List Char} {pending : Pending} {g tail : List Char} {c : Char}

theorem doubleQuoted?_space :
    doubleQuoted? text (.gaps g) (located m (' ' :: tail)) =
      doubleQuoted? text (.gaps (g ++ [' '])) (located (m.past ' ') tail) := by
  rw [located, doubleQuoted?]
  rfl

theorem doubleQuoted?_quote (hm : m.column ≠ 0) :
    doubleQuoted? text pending (located m ('"' :: tail)) =
      some ((pending.fold.reverse ++ text).reverse, located (m.past '"') tail) := by
  have hgap : isGap '"' = false := by decide
  have hbreak : isBreak '"' = false := by decide
  rw [located, doubleQuoted?]
  simp only [atAnyMarker_eq_false _ _ hm, hgap, hbreak, Bool.false_eq_true, if_false, if_true]

/-- A character that is written as itself. -/
theorem doubleQuoted?_self (hm : m.column ≠ 0) (hgap : isGap c = false)
    (hbreak : isBreak c = false) (hquote : c ≠ '"') (hslash : c ≠ '\\') :
    doubleQuoted? text pending (located m (c :: tail)) =
      doubleQuoted? (c :: (pending.fold.reverse ++ text)) .nothing
        (located (m.past c) tail) := by
  rw [located, doubleQuoted?]
  simp only [atAnyMarker_eq_false _ _ hm, hgap, hbreak, hquote, hslash, Bool.false_eq_true,
    if_false]

theorem doubleQuoted?_escape {e : Char} {es : List Char} (hm : m.column ≠ 0)
    (hbreak : isBreak e = false)
    (hescape : ∀ m' rest, escape? (located m' (e :: es ++ rest)) =
      some (c, located (m'.pastAll (e :: es)) rest)) :
    doubleQuoted? text pending (located m ('\\' :: e :: es ++ tail)) =
      doubleQuoted? (c :: (pending.fold.reverse ++ text)) .nothing
        (located (m.pastAll ('\\' :: e :: es)) tail) := by
  have hgap : isGap '\\' = false := by decide
  have hbreak' : isBreak '\\' = false := by decide
  have hquote : ('\\' : Char) ≠ '"' := by decide
  have hnext := hescape (m.past '\\') tail
  rw [List.cons_append, located, doubleQuoted?]
  rw [List.cons_append, located] at hnext ⊢
  simp only [atAnyMarker_eq_false _ _ hm, hgap, hbreak, hbreak', hquote, Bool.false_eq_true,
    if_false, if_true]
  split
  · next h =>
    rw [hnext] at h
    cases h
    rfl
  · next h =>
    rw [hnext] at h
    cases h

/-- **Between double quotes** any text reads back. -/
theorem doubleQuoted?_write (cs : List Char) (hm : m.column ≠ 0) :
    doubleQuoted? text (.gaps g) (located m (cs.flatMap writeDouble ++ '"' :: tail)) =
      some (text.reverse ++ g ++ cs,
        located (m.pastAll (cs.flatMap writeDouble ++ ['"'])) tail) := by
  induction cs generalizing m text g with
  | nil =>
    rw [List.flatMap_nil, List.nil_append, doubleQuoted?_quote hm]
    simp [Pending.fold]
  | cons c cs ih =>
    rw [List.flatMap_cons, List.append_assoc, List.append_assoc, Mark.pastAll_append]
    rcases writeDouble_cases c with ⟨hself, hprint, hquote, hslash, hbreak⟩ |
      ⟨e, es, hescaped, hbreak, hescape⟩
    · have hm' : (m.past c).column ≠ 0 := by simp [Mark.column_past_of_not_break m hbreak]
      rw [hself, List.singleton_append]
      by_cases hspace : c = ' '
      · subst hspace
        rw [doubleQuoted?_space, ih hm']
        simp
      · rw [doubleQuoted?_self hm (isGap_eq_false hprint hspace) hbreak hquote hslash,
          Pending.nothing, ih hm']
        simp [Pending.fold]
    · have hm' : (m.pastAll ('\\' :: e :: es)).column ≠ 0 := by
        rw [← hescaped, Mark.column_pastAll m fun d hd => (of_mem_writeDouble hd).2]
        omega
      rw [hescaped, doubleQuoted?_escape hm hbreak hescape, Pending.nothing, ih hm']
      simp [Pending.fold]

end DoubleQuoted

/-! ## Single quotes -/

section SingleQuoted

variable {m : Mark} {text : List Char} {pending : Pending} {tail : List Char} {c : Char}

theorem singleQuoted?_gap (h : isGap c = true) :
    singleQuoted? text pending (located m (c :: tail)) =
      singleQuoted? text (pending.addGap c) (located (m.past c) tail) := by
  rw [located, singleQuoted?]
  simp only [h, if_true]

theorem singleQuoted?_break (h : isBreak c = true) :
    singleQuoted? text pending (located m (c :: tail)) =
      singleQuoted? text (pending.addBreak c) (located (m.past c) tail) := by
  rw [located, singleQuoted?]
  simp only [h, isGap_of_isBreak h, Bool.false_eq_true, if_false, if_true]

/-- Behind a line end, the margin of the next line does not count. -/
theorem singleQuoted?_margin (first : Option Char) (more : List Char) (n : Nat) :
    singleQuoted? text (.breaks first more) (located m (margin n ++ tail)) =
      singleQuoted? text (.breaks first more) (located (m.pastAll (margin n)) tail) := by
  induction n generalizing m with
  | zero => rfl
  | succ n ih =>
    rw [margin_succ, List.cons_append, singleQuoted?_gap (by decide), Mark.pastAll_cons, ← ih]
    rfl

/-- A character between single quotes: a quote is written twice. -/
def singleChar (c : Char) : List Char := if c = '\'' then ['\'', '\''] else [c]

theorem isBreak_of_mem_singleChar (h : isBreak c = false) :
    ∀ d ∈ singleChar c, isBreak d = false := by
  intro d hd
  unfold singleChar at hd
  split at hd
  · simp only [List.mem_cons, List.not_mem_nil, or_false, or_self] at hd
    subst hd
    decide
  · rw [List.mem_singleton.1 hd]
    exact h

theorem singleQuoted?_char (hm : m.column ≠ 0) (hgap : isGap c = false)
    (hbreak : isBreak c = false) :
    singleQuoted? text pending (located m (singleChar c ++ tail)) =
      singleQuoted? (c :: (pending.fold.reverse ++ text)) .nothing
        (located (m.pastAll (singleChar c)) tail) := by
  rw [singleChar]
  by_cases hquote : c = '\''
  · subst hquote
    rw [if_pos rfl, List.cons_append, located, singleQuoted?]
    simp only [hgap, hbreak, atAnyMarker_eq_false _ _ hm, Bool.false_eq_true, if_false, if_true]
    rfl
  · rw [if_neg hquote, List.singleton_append, located, singleQuoted?]
    simp only [hgap, hbreak, atAnyMarker_eq_false _ _ hm, hquote, Bool.false_eq_true, if_false]
    rfl

/-- The closing quote is one that no other follows. -/
theorem singleQuoted?_quote (hm : m.column ≠ 0) (htail : tail.head? ≠ some '\'') :
    singleQuoted? text pending (located m ('\'' :: tail)) =
      some ((pending.fold.reverse ++ text).reverse, located (m.past '\'') tail) := by
  have hgap : isGap '\'' = false := by decide
  have hbreak : isBreak '\'' = false := by decide
  rw [located, singleQuoted?]
  simp only [hgap, hbreak, atAnyMarker_eq_false _ _ hm, Bool.false_eq_true, if_false, if_true]
  cases tail with
  | nil => rfl
  | cons d tail =>
    have hd : d ≠ '\'' := fun hd => htail (by rw [hd]; rfl)
    simp only [located, if_neg hd]

/-- What has been read since the last character of a word, in front of a text: gaps, on a line that
has begun, and no line end behind them; or line ends, the first of them no line feed, and no space
behind them. -/
inductive Pending.Before (m : Mark) (cs : List Char) : Bool → Pending → Prop
  | gaps (g : List Char) : m.column ≠ 0 → (g ≠ [] → startsIn isBreak cs = false) →
      Before m cs false (.gaps g)
  | breaks (b : Char) (more : List Char) : b ≠ '\n' → startsIn isSpace cs = false →
      Before m cs true (.breaks (some b) more)

theorem Pending.fold_breaks {b : Char} (more : List Char) (h : b ≠ '\n') :
    (Pending.breaks (some b) more).fold = b :: more := by
  unfold Pending.fold
  split <;> simp_all

/-- A character of a word, with the margin of its line if it is the first there. -/
theorem singleQuoted?_word (text tail : List Char) {indent : Nat} (hindent : indent ≠ 0)
    {cs : List Char} {broken : Bool} (hbefore : pending.Before m cs broken)
    (hgap : isGap c = false) (hbreak : isBreak c = false) :
    let front := (if broken then margin indent else []) ++ singleChar c
    singleQuoted? text pending (located m (front ++ tail)) =
        singleQuoted? (c :: (pending.fold.reverse ++ text)) .nothing
          (located (m.pastAll front) tail) ∧
      (m.pastAll front).column ≠ 0 := by
  have hcolumn {m : Mark} (hm : m.column ≠ 0) : (m.pastAll (singleChar c)).column ≠ 0 := by
    rw [Mark.column_pastAll m (isBreak_of_mem_singleChar hbreak)]
    omega
  cases hbefore with
  | gaps g hm _ =>
    simp only [Bool.false_eq_true, if_false, List.nil_append]
    exact ⟨singleQuoted?_char hm hgap hbreak, hcolumn hm⟩
  | breaks b more _ _ =>
    have hm : (m.pastAll (margin indent)).column ≠ 0 := by
      rw [column_pastAll_margin]
      omega
    simp only [if_true, List.append_assoc, singleQuoted?_margin, singleQuoted?_char hm hgap hbreak,
      Mark.pastAll_append]
    exact ⟨trivial, hcolumn hm⟩

/-- **Between single quotes** a text reads back that has no line feed, and no space beside a line
end. -/
theorem singleQuoted?_write {indent : Nat} (hindent : indent ≠ 0) {cs : List Char} {broken : Bool}
    (hprint : ∀ c ∈ cs, isPrintable c = true) (hfeed : '\n' ∉ cs)
    (hspaceBreak : hasPair isSpace isBreak cs = false)
    (hbreakSpace : hasPair isBreak isSpace cs = false)
    (hbefore : pending.Before m cs broken) (htail : tail.head? ≠ some '\'') :
    singleQuoted? text pending (located m (writeSingle indent broken cs ++ '\'' :: tail)) =
      some (text.reverse ++ pending.fold ++ cs,
        located (m.pastAll (writeSingle indent broken cs ++ ['\''])) tail) := by
  induction cs generalizing m text pending broken with
  | nil =>
    cases hbefore with
    | gaps g hm _ =>
      simp only [writeSingle, Bool.false_eq_true, if_false, List.nil_append,
        singleQuoted?_quote hm htail]
      simp
    | breaks b more hb _ =>
      have hm : (m.pastAll (margin indent)).column ≠ 0 := by
        rw [column_pastAll_margin]
        omega
      simp only [writeSingle, if_true, singleQuoted?_margin, singleQuoted?_quote hm htail]
      simp
  | cons c cs ih =>
    have hc := hprint c List.mem_cons_self
    have hcs := fun d hd => hprint d (List.mem_cons_of_mem c hd)
    have hne : c ≠ '\n' := fun h => hfeed (h ▸ List.mem_cons_self)
    have hfeed' : '\n' ∉ cs := fun h => hfeed (List.mem_cons_of_mem c h)
    simp only [hasPair_cons, Bool.or_eq_false_iff] at hspaceBreak hbreakSpace
    by_cases hbreak : isBreak c = true
    · -- A line end: what comes next starts a line.
      have hnext : startsIn isSpace cs = false := by simpa [hbreak] using hbreakSpace.1
      have hstep : (pending.addBreak c).Before (m.past c) cs true ∧
          (pending.addBreak c).fold = pending.fold ++ [c] := by
        cases hbefore with
        | gaps g _ hg =>
          cases g with
          | nil => exact ⟨.breaks c [] hne hnext, Pending.fold_breaks [] hne⟩
          | cons d g =>
            have hstart := hg (List.cons_ne_nil d g)
            rw [startsIn_cons, hbreak] at hstart
            cases hstart
        | breaks b more hb _ =>
          refine ⟨.breaks b (more ++ [c]) hb hnext, ?_⟩
          rw [Pending.addBreak, Pending.fold_breaks _ hb, Pending.fold_breaks _ hb]
          rfl
      simp only [writeSingle, hbreak, if_true, List.cons_append, singleQuoted?_break hbreak,
        Mark.pastAll_cons, ih hcs hfeed' hspaceBreak.2 hbreakSpace.2 hstep.1, hstep.2]
      simp
    · rw [Bool.not_eq_true] at hbreak
      by_cases hspace : c = ' '
      · -- A space, which does not start a line.
        subst hspace
        cases hbefore with
        | breaks b more _ hstart => simp [startsIn_cons, isSpace] at hstart
        | gaps g hm _ =>
          have hgap : isGap ' ' = true := by decide
          have hquote : (' ' : Char) ≠ '\'' := by decide
          have hnext : startsIn isBreak cs = false := by simpa [isSpace] using hspaceBreak.1
          have hm' : (m.past ' ').column ≠ 0 := by simp [Mark.column_past_of_not_break m hbreak]
          simp only [writeSingle, hbreak, hquote, Bool.false_eq_true, if_false, List.nil_append,
            List.cons_append, singleQuoted?_gap hgap, Pending.addGap, Mark.pastAll_cons,
            ih hcs hfeed' hspaceBreak.2 hbreakSpace.2 (.gaps (g ++ [' ']) hm' fun _ => hnext)]
          simp [Pending.fold]
      · -- A character of a word.
        obtain ⟨hword, hm'⟩ := singleQuoted?_word text
          (writeSingle indent false cs ++ '\'' :: tail) hindent hbefore
          (isGap_eq_false hc hspace) hbreak
        have hwrite : writeSingle indent broken (c :: cs) =
            (if broken then margin indent else []) ++ singleChar c ++
              writeSingle indent false cs := by
          simp only [writeSingle, hbreak, Bool.false_eq_true, if_false, singleChar]
        rw [hwrite, List.append_assoc, hword, Pending.nothing,
          ih hcs hfeed' hspaceBreak.2 hbreakSpace.2 (.gaps [] hm' fun h => absurd rfl h),
          List.append_assoc _ _ ['\''], Mark.pastAll_append _ _ (_ ++ ['\''])]
        simp [Pending.fold]

end SingleQuoted

end CaseSheet.Yaml

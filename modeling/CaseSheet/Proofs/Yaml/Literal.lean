import CaseSheet.Proofs.Yaml.Plain
import Mathlib.Data.List.Basic
/-!
# Literal scalars read back

A literal keeps its lines as they are. Its lines stand behind a margin, which is given in the header
where the text does not show it; the header also says what becomes of the line ends behind the last
character, so that none is lost and none is added.

* `blockHeader?_write`: the header reads back.
* `blockLines?_write`: the lines of a literal are taken in without their margin.
* `blockScalar?_write`: so the whole literal reads back, up to the next line further left.
-/

namespace CaseSheet.Yaml

open ScalarText

/-- What a block has taken in: all of it together, and whether a line is still going on. Behind a
line that goes on there are no line ends. -/
structure Block.Holds (b : Block) (inLine : Bool) (text : List Char) : Prop where
  inLine_eq : b.inLine = inLine
  text_eq : b.text.reverse ++ b.lineEnd.toList ++ b.empties.reverse = text
  goesOn : inLine = true → b.lineEnd = none ∧ b.empties = []

namespace Block

variable {b : Block} {text : List Char} {c : Char}

theorem holds_start : start.Holds false [] := ⟨rfl, rfl, by rintro ⟨⟩⟩

theorem Holds.finish_keep {inLine : Bool} (h : b.Holds inLine text) : b.finish .keep = text :=
  h.text_eq

theorem Holds.text_of_inLine (h : b.Holds true text) : b.text.reverse = text := by
  have htext := h.text_eq
  rw [(h.goesOn rfl).1, (h.goesOn rfl).2] at htext
  simpa using htext

/-- A character of a line that has begun. -/
theorem Holds.add (h : b.Holds true text) :
    ({ b with text := c :: b.text } : Block).Holds true (text ++ [c]) := by
  refine ⟨h.inLine_eq, ?_, fun _ => h.goesOn rfl⟩
  simp [h.text_of_inLine, h.goesOn rfl]

/-- The first character of a line. -/
theorem Holds.startLine (h : b.Holds false text) :
    (b.startLine false c).Holds true (text ++ [c]) := by
  refine ⟨rfl, ?_, fun _ => ⟨rfl, rfl⟩⟩
  have hend : b.lineEnd.toList.reverse = b.lineEnd.toList := by cases b.lineEnd <;> rfl
  simp [Block.startLine, ← h.text_eq, hend]

/-- The end of a line. -/
theorem Holds.endLine (h : b.Holds true text) :
    ({ b with lineEnd := some c, inLine := false } : Block).Holds false (text ++ [c]) := by
  refine ⟨rfl, ?_, by rintro ⟨⟩⟩
  simp [h.text_of_inLine, h.goesOn rfl]

/-- The end of a line that is empty. -/
theorem Holds.addEmpty (h : b.Holds false text) :
    ({ b with empties := c :: b.empties } : Block).Holds false (text ++ [c]) := by
  refine ⟨h.inLine_eq, ?_, by rintro ⟨⟩⟩
  simp [← h.text_eq]

end Block

section

variable {indent : Nat} {b : Block} {m : Mark} {text tail : List Char} {c : Char}

/-- In front of a line, spaces left of the indentation do not count. -/
theorem blockLines?_margin {n : Nat} (hb : b.inLine = false) (hn : m.column + n ≤ indent) :
    blockLines? false indent b (located m (margin n ++ tail)) =
      blockLines? false indent b (located (m.pastAll (margin n)) tail) := by
  induction n generalizing m with
  | zero => rfl
  | succ n ih =>
    have hleft : m.column < indent := by omega
    have hnext : (m.past ' ').column + n ≤ indent := by
      rw [Mark.column_past_of_not_break m (by decide)]
      omega
    rw [margin_succ, List.cons_append, located, blockLines?, Mark.pastAll_cons, ← ih hnext]
    simp [hb, hleft]

theorem blockLines?_endLine (hb : b.inLine = true) (hc : isBreak c = true) :
    blockLines? false indent b (located m (c :: tail)) =
      blockLines? false indent { b with lineEnd := some c, inLine := false }
        (located (m.past c) tail) := by
  rw [located, blockLines?]
  simp only [hb, hc, if_true]

theorem blockLines?_addEmpty (hb : b.inLine = false) (hc : isBreak c = true) :
    blockLines? false indent b (located m (c :: tail)) =
      blockLines? false indent { b with empties := c :: b.empties } (located (m.past c) tail) := by
  have hgap := isGap_of_isBreak hc
  simp only [isGap, Bool.or_eq_false_iff] at hgap
  rw [located, blockLines?]
  simp only [hb, hc, hgap, Bool.and_false, Bool.false_eq_true, if_false, if_true]

/-- A line end puts the block between two lines. -/
theorem blockLines?_break (indent : Nat) (m : Mark) (tail : List Char) {inLine : Bool}
    (hb : b.Holds inLine text) (hc : isBreak c = true) :
    ∃ b', b'.Holds false (text ++ [c]) ∧
      blockLines? false indent b (located m (c :: tail)) =
        blockLines? false indent b' (located (m.past c) tail) := by
  cases inLine with
  | true => exact ⟨_, hb.endLine, blockLines?_endLine hb.inLine_eq hc⟩
  | false => exact ⟨_, hb.addEmpty, blockLines?_addEmpty hb.inLine_eq hc⟩

/-- A character puts the block inside a line; the first of a line stands at the indentation. -/
theorem blockLines?_char (tail : List Char) {inLine : Bool} (hb : b.Holds inLine text)
    (hc : isBreak c = false) (hm : inLine = false → m.column = indent) :
    ∃ b', b'.Holds true (text ++ [c]) ∧
      blockLines? false indent b (located m (c :: tail)) =
        blockLines? false indent b' (located (m.past c) tail) := by
  cases inLine with
  | true =>
    refine ⟨_, hb.add, ?_⟩
    rw [located, blockLines?]
    simp only [hb.inLine_eq, hc, Bool.false_eq_true, if_false, if_true]
  | false =>
    refine ⟨_, hb.startLine, ?_⟩
    have hcolumn := hm rfl
    have hright : ¬ indent < indent := Nat.lt_irrefl indent
    rw [located, blockLines?]
    simp only [hb.inLine_eq, hc, hcolumn, hright, decide_false, Bool.false_and,
      Bool.false_eq_true, if_false, if_true]

/-- Whether a line ends behind a text, given whether one has ended in front of it. -/
def brokenBehind (broken : Bool) (cs : List Char) : Bool :=
  (cs.getLast?.map isBreak).getD broken

theorem brokenBehind_cons (broken : Bool) (c : Char) (cs : List Char) :
    brokenBehind broken (c :: cs) = brokenBehind (isBreak c) cs := by
  cases cs with
  | nil => rfl
  | cons d cs =>
    rw [brokenBehind, brokenBehind, List.getLast?_cons_cons,
      List.getLast?_eq_some_getLast (List.cons_ne_nil d cs)]
    rfl

theorem brokenBehind_append_singleton (broken : Bool) (cs : List Char) (c : Char) :
    brokenBehind broken (cs ++ [c]) = isBreak c := by
  simp [brokenBehind]

/-- Where a line has ended, the next one starts at its first column. -/
theorem column_writeLiteral {cs : List Char} {broken : Bool}
    (hm : broken = true → m.column = 0) (h : brokenBehind broken cs = true) :
    (m.pastAll (writeLiteral indent broken cs)).column = 0 := by
  induction cs generalizing m broken with
  | nil => exact hm h
  | cons c cs ih =>
    rw [brokenBehind_cons] at h
    rw [writeLiteral]
    split
    · next hc => exact ih (fun _ => Mark.column_past_of_break m hc) (hc ▸ h)
    · next hc =>
      rw [Bool.not_eq_true] at hc
      rw [Mark.pastAll_append, Mark.pastAll_cons]
      exact ih (by rintro ⟨⟩) (hc ▸ h)

/-- **The lines of a literal** are taken in without their margin. -/
theorem blockLines?_write (indent : Nat) (cs tail : List Char) {inLine broken : Bool}
    (hb : b.Holds inLine text) (hflag : inLine = !broken) (hm : broken = true → m.column = 0) :
    ∃ b', b'.Holds (!brokenBehind broken cs) (text ++ cs) ∧
      blockLines? false indent b (located m (writeLiteral indent broken cs ++ tail)) =
        blockLines? false indent b'
          (located (m.pastAll (writeLiteral indent broken cs)) tail) := by
  induction cs generalizing b m text inLine broken with
  | nil =>
    rw [hflag] at hb
    exact ⟨b, by rw [List.append_nil]; exact hb, rfl⟩
  | cons c cs ih =>
    rw [brokenBehind_cons, List.append_cons, writeLiteral]
    by_cases hc : isBreak c = true
    · obtain ⟨b₁, hb₁, hstep⟩ :=
        blockLines?_break indent m (writeLiteral indent true cs ++ tail) hb hc
      rw [hc, if_pos rfl]
      have hbroken : false = !true := rfl
      obtain ⟨b', hb', hrest⟩ := ih hb₁ hbroken fun _ => Mark.column_past_of_break m hc
      exact ⟨b', hb', hstep.trans hrest⟩
    · rw [Bool.not_eq_true] at hc
      -- The margin in front of the first character of a line is passed over.
      have hmargin : let front := if broken then margin indent else []
          let rest := c :: (writeLiteral indent false cs ++ tail)
          blockLines? false indent b (located m (front ++ rest)) =
            blockLines? false indent b (located (m.pastAll front) rest) ∧
          (inLine = false → (m.pastAll front).column = indent) := by
        subst hflag
        cases broken with
        | false => exact ⟨rfl, by rintro ⟨⟩⟩
        | true =>
          have hstart := hm rfl
          refine ⟨blockLines?_margin hb.inLine_eq (by omega), fun _ => ?_⟩
          simp only [if_true, column_pastAll_margin]
          omega
      obtain ⟨b₁, hb₁, hstep⟩ :=
        blockLines?_char (writeLiteral indent false cs ++ tail) hb hc hmargin.2
      have hgoesOn : true = !false := rfl
      obtain ⟨b', hb', hrest⟩ := ih hb₁ hgoesOn (by rintro ⟨⟩)
      rw [hc, if_neg (by decide), List.append_assoc (if broken then margin indent else []),
        List.cons_append, Mark.pastAll_append, Mark.pastAll_cons]
      exact ⟨b', hb', hmargin.1.trans (hstep.trans hrest)⟩

/-- A literal ends with its lines if the next one starts further to the left than they do. -/
theorem blockLines?_end {n : Nat} {body : List Char} (hb : b.inLine = false)
    (hn : m.column + n < indent) (hbody : LineStart body) :
    blockLines? false indent b (located m (margin n ++ body)) =
      some (b, located (m.pastAll (margin n)) body) := by
  rw [blockLines?_margin hb (Nat.le_of_lt hn)]
  cases body with
  | nil => rfl
  | cons c body =>
    have hgap : isGap c = false := hbody.noGap
    have hbreak : isBreak c = false := hbody.noBreak
    simp only [isGap, Bool.or_eq_false_iff] at hgap
    have hcolumn : (m.pastAll (margin n)).column ≠ indent := by
      rw [column_pastAll_margin]
      omega
    rw [located, blockLines?]
    simp only [hb, hgap, hbreak, hcolumn, Bool.and_false, Bool.false_eq_true, if_false]

/-! ## The header -/

/-- What is kept of the line ends of a written literal. -/
def chompOf (cs : List Char) : Chomp :=
  if endsIn isBreak cs then
    if cs.dropLast = [] ∨ endsIn isBreak cs.dropLast then .keep else .clip
  else .strip

theorem chompOf_append_singleton (q : List Char) (c : Char) :
    chompOf (q ++ [c]) =
      if isBreak c then if q = [] ∨ endsIn isBreak q then .keep else .clip else .strip := by
  rw [chompOf, endsIn_append_singleton, List.dropLast_concat]

/-- The indentation that a written literal gives. -/
def incrementOf (cs : List Char) : Option Nat :=
  if startsIn (fun c => isSpace c || isBreak c) cs then some 2 else none

/-- The mark for what is kept of line ends. -/
def chompMarks : Chomp → List Char
  | .strip => ['-']
  | .keep => ['+']
  | .clip => []

theorem literalHeader_eq (cs : List Char) :
    literalHeader cs =
      (if startsIn (fun c => isSpace c || isBreak c) cs then ['2'] else []) ++
        chompMarks (chompOf cs) := by
  rw [literalHeader]
  congr 1
  rcases List.eq_nil_or_concat' cs with rfl | ⟨q, c, rfl⟩
  · rfl
  · rcases List.eq_nil_or_concat' q with rfl | ⟨q, d, rfl⟩
    · cases hc : isBreak c <;> simp [chompOf, endsIn, hc, chompMarks]
    · cases hc : isBreak c <;> cases hd : isBreak d <;>
        simp [chompOf, endsIn, hc, hd, chompMarks]

/-- **The header** reads back. -/
theorem blockHeader?_write (cs : List Char) (m : Mark) (tail : List Char) :
    blockHeader? (located m (literalHeader cs ++ '\n' :: tail)) =
      some (⟨chompOf cs, incrementOf cs⟩,
        located (m.pastAll (literalHeader cs ++ ['\n'])) tail) := by
  rw [literalHeader_eq, incrementOf]
  split <;> cases chompOf cs <;> rfl

/-- Where the first character shows the indentation, it is found behind the margin. -/
theorem leadingColumn?_margin (reached n : Nat) (hgap : isGap c = false)
    (hbreak : isBreak c = false) :
    leadingColumn? reached (located m (margin n ++ c :: tail)) =
      some (max reached (m.column + n)) := by
  simp only [isGap, Bool.or_eq_false_iff, beq_eq_false_iff_ne] at hgap
  induction n generalizing m reached with
  | zero => simp [margin, located, leadingColumn?, hgap, hbreak]
  | succ n ih =>
    have hspace : isBreak ' ' = false := by decide
    rw [margin_succ, List.cons_append, located, leadingColumn?]
    simp only [if_true, ih, Mark.column_past_of_not_break m hspace]
    congr 1
    omega

/-! ## Literals -/

theorem writeLiteral_append_break (broken : Bool) (cs : List Char) (hc : isBreak c = true) :
    writeLiteral indent broken (cs ++ [c]) = writeLiteral indent broken cs ++ [c] := by
  induction cs generalizing broken with
  | nil => simp [writeLiteral, hc]
  | cons d cs ih => simp only [List.cons_append, writeLiteral, ih]; split <;> simp

/-- The lines of a literal, each of them ended. -/
def literalLines (indent : Nat) (cs : List Char) : List Char :=
  writeLiteral indent true cs ++ if endsIn isBreak cs then [] else ['\n']

/-- **The lines of a literal** make up its text, when of the line ends behind its last character is
kept what the header says. -/
theorem blockLines?_literalLines (indent : Nat) {cs : List Char} (tail : List Char)
    (hne : cs ≠ []) (hm : m.column = 0) :
    ∃ b : Block, b.inLine = false ∧ b.finish (chompOf cs) = cs ∧
      (m.pastAll (literalLines indent cs)).column = 0 ∧
      blockLines? false indent .start (located m (literalLines indent cs ++ tail)) =
        blockLines? false indent b (located (m.pastAll (literalLines indent cs)) tail) := by
  obtain ⟨q, c, rfl⟩ := (List.eq_nil_or_concat' cs).resolve_left hne
  have hflag : false = !true := rfl
  cases hc : isBreak c with
  | false =>
    -- The line end behind the last character is added, and not kept.
    have hlines : literalLines indent (q ++ [c]) =
        writeLiteral indent true (q ++ [c]) ++ ['\n'] := by
      simp [literalLines, endsIn, hc]
    obtain ⟨b, hb, hread⟩ := blockLines?_write indent (q ++ [c]) ('\n' :: tail)
      Block.holds_start hflag fun _ => hm
    rw [brokenBehind_append_singleton, hc] at hb
    have hfeed : isBreak '\n' = true := by decide
    rw [hlines]
    refine ⟨{ b with lineEnd := some '\n', inLine := false }, rfl, ?_, ?_, ?_⟩
    · have hchomp : chompOf (q ++ [c]) = .strip := by simp [chompOf_append_singleton, hc]
      rw [hchomp]
      exact hb.text_of_inLine
    · rw [Mark.pastAll_append]
      exact Mark.column_past_of_break _ hfeed
    · rw [List.append_assoc, Mark.pastAll_append]
      exact hread.trans (blockLines?_endLine hb.inLine_eq hfeed)
  | true =>
    have hlines : literalLines indent (q ++ [c]) = writeLiteral indent true (q ++ [c]) := by
      simp [literalLines, endsIn, hc]
    have hcolumn : (m.pastAll (writeLiteral indent true (q ++ [c]))).column = 0 :=
      column_writeLiteral (fun _ => hm) (by rw [brokenBehind_append_singleton, hc])
    rw [hlines]
    by_cases hkeep : q = [] ∨ endsIn isBreak q = true
    · -- All line ends are kept.
      obtain ⟨b, hb, hread⟩ := blockLines?_write indent (q ++ [c]) tail
        Block.holds_start hflag fun _ => hm
      rw [brokenBehind_append_singleton, hc] at hb
      have hchomp : chompOf (q ++ [c]) = .keep := by
        simp [chompOf_append_singleton, hc, hkeep]
      refine ⟨b, hb.inLine_eq, ?_, hcolumn, hread⟩
      rw [hchomp]
      exact hb.finish_keep
    · -- The one line end behind the last character is kept.
      rw [not_or, Bool.not_eq_true] at hkeep
      obtain ⟨b, hb, hread⟩ := blockLines?_write indent q (c :: tail)
        Block.holds_start hflag fun _ => hm
      obtain ⟨q', d, rfl⟩ := (List.eq_nil_or_concat' q).resolve_left hkeep.1
      have hd := hkeep.2
      rw [endsIn_append_singleton] at hd
      rw [brokenBehind_append_singleton, hd] at hb
      rw [writeLiteral_append_break true _ hc] at hcolumn ⊢
      refine ⟨{ b with lineEnd := some c, inLine := false }, rfl, ?_, hcolumn, ?_⟩
      · have hchomp : chompOf (q' ++ [d] ++ [c]) = .clip := by
          rw [chompOf_append_singleton, if_pos hc, if_neg (by simp [hkeep])]
        rw [hchomp]
        exact congrArg (· ++ [c]) hb.text_of_inLine
      · rw [List.append_assoc, Mark.pastAll_append]
        exact hread.trans (blockLines?_endLine hb.inLine_eq hc)

/-- The lines of a literal whose header gives no indentation show it themselves. -/
theorem leadingColumn?_literalLines {cs : List Char} (hprint : ∀ c ∈ cs, isPrintable c = true)
    (hne : cs ≠ []) (hincrement : incrementOf cs = none) (hm : m.column = 0) :
    leadingColumn? 0 (located m (literalLines indent cs ++ tail)) = some indent := by
  cases cs with
  | nil => exact absurd rfl hne
  | cons c cs =>
    have hc : isSpace c = false ∧ isBreak c = false := by
      rw [incrementOf, startsIn_cons] at hincrement
      split at hincrement
      · cases hincrement
      · next h => simpa using h
    have hspace : c ≠ ' ' := by simpa [isSpace] using hc.1
    have hlines : literalLines indent (c :: cs) ++ tail = margin indent ++
        c :: (writeLiteral indent false cs ++
          ((if endsIn isBreak (c :: cs) then [] else ['\n']) ++ tail)) := by
      simp [literalLines, writeLiteral, hc.2]
    rw [hlines, leadingColumn?_margin 0 indent
      (isGap_eq_false (hprint c List.mem_cons_self) hspace) hc.2, hm]
    simp

/-- **A literal** inside a collection at column `outer` reads back, up to a line further left. -/
theorem blockScalar?_write {outer n : Nat} {cs body : List Char}
    (hprint : ∀ c ∈ cs, isPrintable c = true) (hne : cs ≠ []) (hn : n < outer + 2)
    (hbody : LineStart body) :
    let text := literalHeader cs ++ '\n' :: literalLines (outer + 2) cs
    (m.pastAll (text ++ margin n)).column = n ∧
      blockScalar? false (some outer) (located m (text ++ (margin n ++ body))) =
        some (cs, located (m.pastAll (text ++ margin n)) body) := by
  intro text
  have hfeed : isBreak '\n' = true := by decide
  have hstart : (m.pastAll (literalHeader cs ++ ['\n'])).column = 0 := by
    rw [Mark.pastAll_append]
    exact Mark.column_past_of_break _ hfeed
  obtain ⟨b, hb, hfinish, hcolumn, hread⟩ := blockLines?_literalLines
    (outer + 2) (margin n ++ body) hne hstart
  have hend := blockLines?_end hb (by rw [hcolumn]; omega : _ + n < outer + 2) hbody
  have hplace : m.pastAll (text ++ margin n) =
      ((m.pastAll (literalHeader cs ++ ['\n'])).pastAll
        (literalLines (outer + 2) cs)).pastAll (margin n) := by
    simp [text]
  refine ⟨by rw [hplace, column_pastAll_margin, hcolumn, Nat.zero_add], ?_⟩
  rw [hplace]
  simp only [text, List.append_assoc, List.cons_append, blockScalar?, blockHeader?_write,
    Option.bind_eq_bind, Option.bind_some]
  cases hincrement : incrementOf cs with
  | some k =>
    have hk : k = 2 := by
      rw [incrementOf] at hincrement
      split at hincrement <;> cases hincrement
      rfl
    subst hk
    simp only [Option.getD_some, Option.bind_some, hread, hend, hfinish]
    rfl
  | none =>
    have hmax : max (outer + 2) (outer + 1) = outer + 2 := by omega
    simp only [leadingColumn?_literalLines hprint hne hincrement hstart, Option.bind_some, hmax,
      hread, hend, hfinish]
    rfl

end

end CaseSheet.Yaml

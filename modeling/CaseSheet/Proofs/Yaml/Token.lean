import CaseSheet.Proofs.Yaml.Plain
import CaseSheet.Yaml.Token
/-!
# Steps of the scanner

How the scanner goes through what is written in block style, token by token. Between two tokens it
stands in front of a text, inside some collections (`Stands`); what a token does to these is said by
the columns alone (`Closes`, `Opens`).

* `run?_of_steps`: so many steps are one run.
* `Stands.next?_eq`: the next token is taken where the scanner stands.
* `Stands.key`, `Stands.entry`, `Stands.atEnd`: a key with its colon, a dash, the end of the source.
-/
namespace CaseSheet.Yaml

open ScalarText

namespace Scanner

/-! ## Steps -/

/-- So many tokens are taken, none of them behind the last. -/
inductive Steps : Nat → Scanner → Scanner → Prop
  | refl (s : Scanner) : Steps 0 s s
  | next {n : Nat} {s s₁ s' : Scanner} : s.isDone = false → s.next? = some s₁ → Steps n s₁ s' →
      Steps (n + 1) s s'

theorem Steps.single {s s' : Scanner} (hdone : s.isDone = false) (h : s.next? = some s') :
    Steps 1 s s' :=
  .next hdone h (.refl s')

theorem Steps.trans {n k : Nat} {s s₁ s' : Scanner} (h : Steps n s s₁) (h' : Steps k s₁ s') :
    Steps (n + k) s s' := by
  induction h with
  | refl s => rwa [Nat.zero_add]
  | next hdone hnext _ ih =>
    rw [Nat.add_right_comm]
    exact .next hdone hnext (ih h')

theorem run?_of_steps {n : Nat} {s s' : Scanner} (h : Steps n s s') (fuel : Nat) :
    run? (n + fuel) s = run? fuel s' := by
  induction h with
  | refl s => rw [Nat.zero_add]
  | next hdone hnext _ ih =>
    rw [Nat.add_right_comm, run?, hdone, hnext]
    exact ih

/-- Behind the last token nothing more is taken. -/
theorem run?_of_isDone {s : Scanner} (h : s.isDone = true) (fuel : Nat) : run? fuel s = some s := by
  cases fuel <;> rw [run?, if_pos h]

/-! ## Blanks -/

/-- In front of a text the scanner passes over blanks up to another, and whether a key may start is
then known. -/
structure Passes (allowed : Bool) (m : Mark) (text : List Char) (allowed' : Bool) (m' : Mark)
    (text' : List Char) : Prop where
  skip_eq : skipBlank false allowed false (located m text) = (allowed', located m' text')
  stop_eq : m'.pastAll text' = m.pastAll text

section Passes

variable {allowed allowed' : Bool} {m m' : Mark} {text text' : List Char}

/-- There are no blanks in front of what a line starts with. -/
theorem Passes.here (allowed : Bool) (m : Mark) (h : LineStart text) :
    Passes allowed m text allowed m text := by
  refine ⟨?_, rfl⟩
  cases text with
  | nil => rfl
  | cons c r =>
    have hgap : isGap c = false := h.noGap
    have hbreak : isBreak c = false := h.noBreak
    have hcomment : (c == '#') = false := h.noComment
    have hmark : (c == byteOrderMark) = false := h.noMark
    simp only [isGap, Bool.or_eq_false_iff, beq_eq_false_iff_ne] at hgap hcomment hmark
    rw [located, skipBlank]
    simp [hgap, hbreak, hcomment, hmark]

theorem Passes.space (h : Passes allowed (m.past ' ') text allowed' m' text') :
    Passes allowed m (' ' :: text) allowed' m' text' := by
  refine ⟨?_, h.stop_eq⟩
  have hbreak : isBreak ' ' = false := by decide
  have hmark : (' ' : Char) ≠ byteOrderMark := by decide
  rw [← h.skip_eq, located, skipBlank]
  simp [hbreak, hmark]

theorem Passes.margin {n : Nat} (h : Passes allowed (m.pastAll (margin n)) text allowed' m' text') :
    Passes allowed m (margin n ++ text) allowed' m' text' := by
  induction n generalizing m with
  | zero => exact h
  | succ n ih => exact (ih h).space

/-- Behind a line end a key may start. -/
theorem Passes.lineEnd (allowed : Bool) (h : Passes true (m.past '\n') text allowed' m' text') :
    Passes allowed m ('\n' :: text) allowed' m' text' := by
  refine ⟨?_, h.stop_eq⟩
  have hbreak : isBreak '\n' = true := by decide
  rw [← h.skip_eq, located, skipBlank]
  simp [hbreak]

/-- Up to what the next line starts with. -/
theorem Passes.nextLine (allowed : Bool) (m : Mark) (n : Nat) {body : List Char}
    (h : LineStart body) :
    Passes allowed m ('\n' :: (ScalarText.margin n ++ body)) true
      (m.pastAll ('\n' :: ScalarText.margin n)) body :=
  .lineEnd allowed (.margin (.here true _ h))

end Passes

/-! ## Where a scanner stands -/

/-- A scanner between two tokens in block style, with no possible key: the collections around it,
innermost first; whether a key may start there, and what stands in front of it once blanks are
passed over; and the kinds of its tokens, the latest first. -/
structure Stands (s : Scanner) (indent : Option Nat) (outer : List (Option Nat))
    (keyAllowed : Bool) (m : Mark) (text : List Char) (kinds : List TokenKind) : Prop where
  skip_eq : skipBlank false s.keyAllowed false s.rest = (keyAllowed, located m text)
  stop_eq : s.stop = m.pastAll text
  indent_eq : s.indent = indent
  outer_eq : s.outer = outer
  flow_eq : s.flow = 0
  keys_eq : s.keys = [none]
  kinds_eq : s.tokens.map (·.kind) = kinds
  isDone_eq : s.isDone = false

/-- A scanner in block style with no possible key, in front of a text. -/
def facing (m : Mark) (text : List Char) (tokens : List Token) (indent : Option Nat)
    (outer : List (Option Nat)) (keyAllowed : Bool) : Scanner :=
  { rest := located m text, stop := m.pastAll text, tokens, indent, outer, flow := 0, keyAllowed
    keys := [none] }

/-- A scanner with a possible key, or none. -/
def withKey (s : Scanner) (key : Option PossibleKey) : Scanner := { s with keys := [key] }

variable {s : Scanner} {indent indent' : Option Nat} {outer outer' : List (Option Nat)}
  {allowed keyAllowed : Bool} {m m' : Mark} {c : Char} {r text tail : List Char}
  {d : Char} {kinds : List TokenKind} {tokens : List Token}

@[simp] theorem here_facing : (facing m text tokens indent outer keyAllowed).here = m :=
  placeOf_located m text

theorem stands_facing (t : Token) (tokens : List Token) (ht : t.kind ≠ .streamEnd)
    (h : Passes allowed m text keyAllowed m' tail) :
    (facing m text (t :: tokens) indent outer allowed).Stands indent outer keyAllowed m' tail
      (t.kind :: tokens.map (·.kind)) :=
  ⟨h.skip_eq, h.stop_eq.symm, rfl, rfl, rfl, rfl, rfl, beq_eq_false_iff_ne.2 ht⟩

/-- In front of a printable source, outside any collection. -/
theorem stands_start (hprint : ∀ c ∈ text, isPrintable c = true) (h : LineStart text) :
    (Scanner.start text).Stands none [] true .start text [] := by
  have hskip := (Passes.here true .start h).skip_eq
  have hstart : Scanner.start text = facing .start text [] none [] true := by
    rw [Scanner.start, locate_eq hprint]
    rfl
  rw [hstart]
  exact ⟨hskip, rfl, rfl, rfl, rfl, rfl, rfl, rfl⟩

/-- A token that is taken reaches from one place to another. -/
theorem take_withKey (hstop : m'.pastAll tail = m.pastAll text) (kind : TokenKind)
    (key : Option PossibleKey) :
    ((facing m text tokens indent outer allowed).withKey key).take kind (located m' tail) =
      (facing m' tail (⟨kind, m, m'⟩ :: tokens) indent outer allowed).withKey key := by
  have hhere : Yaml.placeOf (m.pastAll text) (located m text) = m := placeOf_located m text
  have hplace : Yaml.placeOf (m.pastAll text) (located m' tail) = m' := by
    rw [← hstop, placeOf_located]
  simp only [take, push, here, facing, withKey, hhere, hplace, hstop]

/-- Tokens that are put in at one place, by their kinds. -/
theorem map_kind (kinds : List TokenKind) (m : Mark) :
    (kinds.map fun kind => Token.mk kind m m).map (·.kind) = kinds := by
  simp [Function.comp_def]

/-! ## Collections end -/

/-- The collections that are still open at a column, and the tokens for the ends of those further
right. -/
inductive Closes (column : Nat) : Option Nat → List (Option Nat) → Option Nat →
    List (Option Nat) → List TokenKind → Prop
  | stay {indent : Option Nat} (outer : List (Option Nat)) : (∀ n ∈ indent, n ≤ column) →
      Closes column indent outer indent outer []
  | close {n : Nat} {o indent' : Option Nat} {outer outer' : List (Option Nat)}
      {back : List TokenKind} : column < n → Closes column o outer indent' outer' back →
      Closes column (some n) (o :: outer) indent' outer' (back ++ [.blockEnd])

theorem unroll_of_closes {column : Nat} {back : List TokenKind}
    (h : Closes column indent outer indent' outer' back) (m : Mark) (tokens : List Token) :
    unroll (some column) m outer indent tokens =
      (indent', outer', back.map (⟨·, m, m⟩) ++ tokens) := by
  induction h generalizing tokens with
  | @stay indent outer hindent =>
    cases indent with
    | none => rw [unroll.eq_def]; rfl
    | some n =>
      have hn : ¬ column < n := Nat.not_lt.2 (hindent n rfl)
      rw [unroll.eq_def]
      simp [hn]
  | close hn _ ih =>
    rw [unroll.eq_def]
    simp [hn, ih]

/-- **The next token** is the one that starts where the scanner stands, behind the ends of
collections further right. -/
theorem Stands.next?_eq {back : List TokenKind}
    (h : s.Stands indent outer keyAllowed m (c :: r) kinds)
    (hcloses : Closes m.column indent outer indent' outer' back) :
    s.next? = (facing m (c :: r) (back.map (⟨·, m, m⟩) ++ s.tokens) indent' outer'
      keyAllowed).token? c (located (m.past c) r) := by
  obtain ⟨rest, stop, tokens, i, o, flow, k, keys⟩ := s
  obtain ⟨hskip, hstop, hi, ho, hf, hk, -, -⟩ := h
  subst hstop hi ho hf hk
  simp only [next?, inFlow, bne_self_eq_false, hskip]
  simp [dropStale?, here, placeOf, located, unrollTo, inFlow, unroll_of_closes hcloses, facing]

/-! ## Keys -/

/-- A word that may be a key without quotes. -/
structure KeyWord (cs : List Char) : Prop where
  ne_nil : cs ≠ []
  short : cs.length ≤ 1024
  noGap : ∀ c ∈ cs, isGap c = false
  oneLine : ∀ c ∈ cs, isBreak c = false
  noIndicator : ∀ c ∈ cs, isIndicator c = false
  noDot : ∀ c ∈ cs, c ≠ '.'

/-- A word can be a key if it is short and has no character that would end it. -/
theorem KeyWord.of_all {cs : List Char} (hne : cs.isEmpty = false)
    (hshort : decide (cs.length ≤ 1024) = true)
    (hall : cs.all (fun c => !isGap c && !isBreak c && !isIndicator c && c != '.') = true) :
    KeyWord cs := by
  have hmem : ∀ c ∈ cs, isGap c = false ∧ isBreak c = false ∧ isIndicator c = false ∧ c ≠ '.' := by
    intro c hc
    have hc' := List.all_eq_true.1 hall c hc
    simp only [Bool.and_eq_true, Bool.not_eq_true', bne_iff_ne] at hc'
    exact ⟨hc'.1.1.1, hc'.1.1.2, hc'.1.2, hc'.2⟩
  exact ⟨by simpa using hne, of_decide_eq_true hshort, fun c hc => (hmem c hc).1,
    fun c hc => (hmem c hc).2.1, fun c hc => (hmem c hc).2.2.1, fun c hc => (hmem c hc).2.2.2⟩

/-- What a key at a column does to the collections around it: it goes on with the mapping there, or
a mapping starts with it. -/
inductive Opens (column : Nat) : Option Nat → List (Option Nat) → Option Nat →
    List (Option Nat) → List TokenKind → Prop
  | within (outer : List (Option Nat)) : Opens column (some column) outer (some column) outer []
  | first {indent : Option Nat} (outer : List (Option Nat)) : (∀ n ∈ indent, n < column) →
      Opens column indent outer (some column) (indent :: outer) [.blockMapping]

section Key

variable {word : List Char}

theorem KeyWord.noColon (h : KeyWord word) : ':' ∉ word := fun hmem => by
  have hcolon := h.noIndicator ':' hmem
  cases hcolon

theorem atAnyMarker_of_ne (m : Mark) (ls : List Located) (hdash : c ≠ '-') (hdot : c ≠ '.') :
    atAnyMarker (⟨c, m⟩ :: ls) = false := by
  rw [atAnyMarker, atDocumentMarker_of_ne m ls hdash, atDocumentMarker_of_ne m ls hdot,
    Bool.or_false]

/-- A plain scalar is taken where no other token starts: there stands no gap and no indicator, or a
dash, question mark or colon in front of a character of a word. -/
theorem token?_plain {ls : List Located} (hflow : s.flow = 0) (hmarker : atAnyMarker s.rest = false)
    (hgap : isGap c = false)
    (hindicator : isIndicator c = true → (c = '-' ∨ c = '?' ∨ c = ':') ∧ atGap ls = false) :
    s.token? c ls = s.plain? := by
  rw [atAnyMarker, Bool.or_eq_false_iff] at hmarker
  cases hc : isIndicator c with
  | false =>
    have hstarts : startsPlain false c ls = true := by simp [startsPlain, hgap, hc]
    simp only [isIndicator, List.contains_eq_mem, decide_eq_false_iff_not, List.mem_cons,
      List.not_mem_nil, or_false, not_or] at hc
    simp only [token?, inFlow, hflow, bne_self_eq_false, hmarker, hc, hstarts, and_false,
      false_and, Bool.false_eq_true, if_false, if_true]
  | true =>
    obtain ⟨hcases, hat⟩ := hindicator hc
    have hstarts : startsPlain false c ls = true := by
      cases ls with
      | nil => cases hat
      | cons l ls =>
        have hnext : isGap l.char = false := (Bool.or_eq_false_iff.1 hat).1
        rcases hcases with rfl | rfl | rfl <;> simp [startsPlain, hnext, hat]
    rcases hcases with rfl | rfl | rfl <;>
      simp [token?, inFlow, hflow, hmarker, hat, hstarts]

/-- A plain scalar, which stands right of the collection around it, is noted as a possible key where
a key may start. -/
theorem plain?_facing {cs : List Char} {pending : Pending}
    (hread : plainScalar? false (indent.elim 0 (· + 1)) [] .nothing (located m text) =
      some (cs, pending, located m' tail))
    (hstop : m'.pastAll tail = m.pastAll text) :
    (facing m text tokens indent outer keyAllowed).plain? =
      some ((facing m' tail (⟨.scalar .plain cs, m, m'⟩ :: tokens) indent outer
        pending.hasBreak).withKey
          (if keyAllowed then some ⟨tokens.length, indent == some m.column, m⟩ else none)) := by
  have hplace : Yaml.placeOf (m.pastAll text) (located m' tail) = m' := by
    rw [← hstop, placeOf_located]
  have hsaved : (facing m text tokens indent outer keyAllowed).saveKey? =
      some ((facing m text tokens indent outer keyAllowed).withKey
        (if keyAllowed then some ⟨tokens.length, indent == some m.column, m⟩ else none)) := by
    cases keyAllowed with
    | true => simp [saveKey?, dropKey?, facing, withKey, here, inFlow]
    | false => rfl
  simp only [plain?, hsaved]
  cases indent <;> simp only [Option.elim] at hread <;>
    simp [facing, withKey, take, push, here, inFlow, hread, hplace, hstop]

/-- The scanner behind a word that may be a key. -/
theorem Stands.next?_keyWord (h : s.Stands indent outer true m (word ++ ':' :: d :: tail) kinds)
    (hword : KeyWord word) (hindent : ∀ n ∈ indent, n ≤ m.column)
    (hd : isGap d = true ∨ isBreak d = true) :
    s.next? = some ((facing (m.pastAll word) (':' :: d :: tail)
      (⟨.scalar .plain word, m, m.pastAll word⟩ :: s.tokens) indent outer false).withKey
        (some ⟨s.tokens.length, indent == some m.column, m⟩)) := by
  obtain ⟨c, r, rfl⟩ := List.exists_cons_of_ne_nil hword.ne_nil
  have hc : isIndicator c = false := hword.noIndicator c List.mem_cons_self
  have hmarker : atAnyMarker (located m (c :: (r ++ ':' :: d :: tail))) = false :=
    atAnyMarker_of_ne m _ (by rintro rfl; cases hc) (hword.noDot c List.mem_cons_self)
  have hread (least : Nat) : plainScalar? false least [] .nothing
      (located m (c :: r ++ ':' :: d :: tail)) = some (c :: r, .nothing,
        located (m.pastAll (c :: r)) (':' :: d :: tail)) := by
    rw [plainScalar?_word hword.noGap hword.oneLine hword.noColon, plainScalar?_key hd]
    simp
  rw [List.cons_append] at h hread
  rw [h.next?_eq (.stay outer hindent)]
  simp only [List.map_nil, List.nil_append]
  rw [token?_plain rfl hmarker (hword.noGap c List.mem_cons_self) (by rw [hc]; rintro ⟨⟩),
    plain?_facing (hread _) (by simp)]
  rfl

/-- The possible key of this line is not given up, and no collection ends behind it. -/
theorem next?_withKey {k : PossibleKey} (hstart : LineStart (c :: r))
    (hline : k.mark.line = m.line) (hnear : m.index ≤ k.mark.index + 1024)
    (hindent : ∀ n ∈ indent, n ≤ m.column) :
    ((facing m (c :: r) tokens indent outer allowed).withKey (some k)).next? =
      ((facing m (c :: r) tokens indent outer allowed).withKey (some k)).token? c
        (located (m.past c) r) := by
  have hskip := (Passes.here allowed m hstart).skip_eq
  have hsame : ¬ k.mark.line < m.line := by omega
  have hnear : ¬ k.mark.index + 1024 < m.index := by omega
  have hunroll : unroll (some m.column) m outer indent tokens = (indent, outer, tokens) :=
    unroll_of_closes (.stay outer hindent) m tokens
  simp only [next?, withKey, facing, inFlow, bne_self_eq_false, hskip]
  simp [dropStale?, here, placeOf, located, unrollTo, inFlow, hunroll, hsame, hnear]

/-- Where a mapping starts with a key, its token is put in in front of the key. -/
theorem roll_of_opens {column : Nat} {front : List TokenKind}
    (hopens : Opens column indent outer indent' outer' front) (m p : Mark) (text : List Char)
    (a b : Token) (tokens : List Token) (key : Option PossibleKey) :
    ((facing p text (a :: b :: tokens) indent outer allowed).withKey key).roll column tokens.length
        .blockMapping m =
      (facing p text (a :: b :: (front.map (⟨·, m, m⟩) ++ tokens)) indent' outer' allowed).withKey
        key := by
  cases hopens with
  | within => simp [roll, facing, withKey, inFlow, isInside]
  | first _ h =>
    have hcount : tokens.length + 1 + 1 - tokens.length = 2 := by omega
    cases indent with
    | none => simp [roll, facing, withKey, inFlow, isInside, putIn, hcount]
    | some n => simp [roll, facing, withKey, inFlow, isInside, putIn, hcount, h n rfl]

/-- At the colon, the token of the key is put in where it started. -/
theorem next?_value {p : Mark} {front : List TokenKind} (tokens : List Token) (t : Token)
    (tail : List Char) (required : Bool) (hline : m.line = p.line)
    (hnear : p.index ≤ m.index + 1024) (hcolumn : m.column ≤ p.column)
    (hopens : Opens m.column indent outer indent' outer' front)
    (hd : isGap d = true ∨ isBreak d = true) :
    next? ((facing p (':' :: d :: tail) (t :: tokens) indent outer false).withKey
        (some ⟨tokens.length, required, m⟩)) =
      some (facing (p.past ':') (d :: tail) (⟨.value, p, p.past ':'⟩ :: t :: ⟨.key, m, m⟩ ::
        (front.map (⟨·, m, m⟩) ++ tokens)) indent' outer' false) := by
  have hstart : LineStart (':' :: d :: tail) := ⟨rfl, rfl, rfl, rfl⟩
  have hindent : ∀ n ∈ indent, n ≤ p.column := fun n hn => by
    cases hopens with
    | within => cases hn; exact hcolumn
    | first _ h => exact Nat.le_trans (Nat.le_of_lt (h n hn)) hcolumn
  have hat : atGap (located (p.past ':') (d :: tail)) = true := by
    rcases hd with hd | hd <;> simp [located, atGap, hd]
  have hmarker : atAnyMarker (located p (':' :: d :: tail)) = false :=
    atAnyMarker_of_ne p _ (by decide) (by decide)
  rw [atAnyMarker, Bool.or_eq_false_iff] at hmarker
  let key : PossibleKey := ⟨tokens.length, required, m⟩
  let s := (facing p (':' :: d :: tail) (t :: tokens) indent outer false).withKey (some key)
  have htoken : s.token? ':' (located (p.past ':') (d :: tail)) =
      s.value? (located (p.past ':') (d :: tail)) := by
    simp [s, token?, facing, withKey, hmarker, hat]
  have hkey : s.putIn tokens.length .key m = (facing p (':' :: d :: tail)
      (t :: ⟨.key, m, m⟩ :: tokens) indent outer false).withKey (some key) := by
    have hcount : tokens.length + 1 - tokens.length = 1 := by omega
    simp [s, putIn, facing, withKey, hcount]
  have hvalue : s.value? (located (p.past ':') (d :: tail)) =
      some { ((s.putIn tokens.length .key m).roll m.column tokens.length .blockMapping m).take
        .value (located (p.past ':') (d :: tail)) with keys := [none], keyAllowed := false } := rfl
  have hstop : (p.past ':').pastAll (d :: tail) = p.pastAll (':' :: d :: tail) := rfl
  rw [next?_withKey hstart hline hnear hindent, htoken, hvalue, hkey, roll_of_opens hopens,
    take_withKey hstop]
  rfl

/-- **A key** without quotes, with its colon. -/
theorem Stands.key {front : List TokenKind}
    (h : s.Stands indent outer true m (word ++ ':' :: d :: tail) kinds) (hword : KeyWord word)
    (hopens : Opens m.column indent outer indent' outer' front)
    (hd : isGap d = true ∨ isBreak d = true)
    (hpasses : Passes false (m.pastAll (word ++ [':'])) (d :: tail) keyAllowed m' text) :
    ∃ s', Steps 2 s s' ∧ s'.Stands indent' outer' keyAllowed m' text
      (.value :: .scalar .plain word :: .key :: (front ++ kinds)) := by
  have hindent : ∀ n ∈ indent, n ≤ m.column := by
    cases hopens with
    | within => rintro n ⟨⟩; exact Nat.le_refl _
    | first _ h => exact fun n hn => Nat.le_of_lt (h n hn)
  have hplace := Mark.pastAll_of_not_break m hword.oneLine
  have hfirst := h.next?_keyWord hword hindent hd
  have hline : m.line = (m.pastAll word).line := by rw [hplace]
  have hnear : (m.pastAll word).index ≤ m.index + 1024 := by
    rw [hplace]
    exact Nat.add_le_add_left hword.short m.index
  have hcolumn : m.column ≤ (m.pastAll word).column := by
    rw [hplace]
    exact Nat.le_add_right m.column word.length
  have hsecond := next?_value s.tokens ⟨.scalar .plain word, m, m.pastAll word⟩ tail
    (indent == some m.column) hline hnear hcolumn hopens hd
  rw [Mark.pastAll_append] at hpasses
  refine ⟨_, .next h.isDone_eq hfirst (.single rfl hsecond), ?_⟩
  have hkinds : TokenKind.value :: .scalar .plain word :: .key :: (front ++ kinds) =
      .value :: (⟨.scalar .plain word, m, m.pastAll word⟩ :: ⟨.key, m, m⟩ ::
        (front.map (⟨·, m, m⟩) ++ s.tokens) : List Token).map (·.kind) := by
    simp only [List.map_cons, List.map_append, map_kind, h.kinds_eq]
  rw [hkinds]
  exact stands_facing _ _ (by rintro ⟨⟩) hpasses

end Key

/-! ## Entries, and the end of the source -/

/-- **The dash** of an entry in the list that has its column. -/
theorem Stands.entry {back : List TokenKind}
    (h : s.Stands indent outer true m ('-' :: ' ' :: tail) kinds)
    (hcloses : Closes m.column indent outer (some m.column) outer' back)
    (hpasses : Passes true (m.past '-') (' ' :: tail) keyAllowed m' text) :
    ∃ s', Steps 1 s s' ∧
      s'.Stands (some m.column) outer' keyAllowed m' text (.blockEntry :: (back ++ kinds)) := by
  have hmarker : atAnyMarker (located m ('-' :: ' ' :: tail)) = false := by
    have hmarker (d : Char) (hd : d ≠ ' ') :
        atDocumentMarker d (located m ('-' :: ' ' :: tail)) = false := by
      have hspace : (' ' == d) = false := beq_eq_false_iff_ne.2 hd.symm
      cases tail with
      | nil => rfl
      | cons c r => simp [located, atDocumentMarker, hspace]
    rw [atAnyMarker, hmarker '-' (by decide), hmarker '.' (by decide), Bool.or_false]
  rw [atAnyMarker, Bool.or_eq_false_iff] at hmarker
  let tokens := back.map (⟨·, m, m⟩) ++ s.tokens
  let s₁ := facing m ('-' :: ' ' :: tail) tokens (some m.column) outer' true
  have htoken : s₁.token? '-' (located (m.past '-') (' ' :: tail)) =
      s₁.blockItem? .blockEntry .blockSequence true (located (m.past '-') (' ' :: tail)) := by
    have hat : atGap (located (m.past '-') (' ' :: tail)) = true := rfl
    simp [s₁, token?, facing, hmarker, hat]
  have hitem : s₁.blockItem? .blockEntry .blockSequence true
      (located (m.past '-') (' ' :: tail)) =
      some ((s₁.withKey none).take .blockEntry (located (m.past '-') (' ' :: tail))) := by
    have hhere : s₁.here = m := here_facing
    have hroll : s₁.roll m.column s₁.tokens.length .blockSequence m = s₁ := by
      simp [s₁, roll, facing, inFlow, isInside]
    simp only [blockItem?, hhere, hroll]
    rfl
  have hstop : (m.past '-').pastAll (' ' :: tail) = m.pastAll ('-' :: ' ' :: tail) := rfl
  have hnext := h.next?_eq hcloses
  rw [htoken, hitem, take_withKey hstop] at hnext
  refine ⟨_, .single h.isDone_eq hnext, ?_⟩
  have hkinds : TokenKind.blockEntry :: (back ++ kinds) =
      .blockEntry :: tokens.map (·.kind) := by
    simp only [tokens, List.map_append, map_kind, h.kinds_eq]
  rw [hkinds]
  exact stands_facing _ _ (by rintro ⟨⟩) hpasses

/-- **The end** of a source, in a mapping inside an entry of a list outside any indentation. -/
theorem Stands.atEnd {n : Nat} (h : s.Stands (some n) [some 0, none] true m [] kinds)
    (hm : m.column = 0) (hn : 0 < n) :
    ∃ s', Steps 1 s s' ∧ s'.isDone = true ∧
      s'.tokens.map (·.kind) = .streamEnd :: .blockEnd :: .blockEnd :: kinds := by
  have hdone := h.isDone_eq
  obtain ⟨rest, stop, tokens, i, o, flow, k, keys⟩ := s
  obtain ⟨hskip, hstop, hi, ho, hf, hk, hkinds, -⟩ := h
  have hplace : m = stop := hstop.symm
  subst hplace hi ho hf hk hkinds
  have hcloses : Closes m.column (some n) [some 0, none] (some 0) [none] [.blockEnd] :=
    .close (by omega) (.stay [none] (by rintro k ⟨⟩; omega))
  have hright := unroll_of_closes hcloses m tokens
  rw [hm] at hright
  have hall : unroll none m [none] (some 0) (⟨.blockEnd, m, m⟩ :: tokens) =
      (none, [], ⟨.blockEnd, m, m⟩ :: ⟨.blockEnd, m, m⟩ :: tokens) := rfl
  let last : Scanner := { rest := [], stop := m, indent := none, outer := [], flow := 0
                          keyAllowed := true, keys := [none]
                          tokens := ⟨.streamEnd, m, m⟩ :: ⟨.blockEnd, m, m⟩ ::
                            ⟨.blockEnd, m, m⟩ :: tokens }
  have hnext : next? ⟨rest, m, tokens, some n, [some 0, none], 0, k, [none]⟩ =
      some last := by
    simp only [next?, inFlow, bne_self_eq_false, hskip]
    simp [dropStale?, here, Yaml.placeOf, located, unrollTo, inFlow, hright, streamEnd?,
      Mark.forceLine, hm, hall, dropKey?, push, last]
  exact ⟨last, .single hdone hnext, rfl, rfl⟩

end Scanner
end CaseSheet.Yaml

import CaseSheet.Proofs.Yaml.Literal
import CaseSheet.Proofs.Yaml.Quoted
import CaseSheet.Proofs.Yaml.Token
/-!
# Written scalars read back

Each style is chosen for texts that it can hold, and the scanner takes a written text as one scalar
token, whatever its style, up to the start of the next line.

* `suits_styleOf`: what a text is like that is written in a style.
* `isPrintable_of_mem_write`: all that is written is printable.
* `Scanner.Stands.scalar`: a written text is one token.
-/

namespace CaseSheet.Yaml

open ScalarText

/-! ## Styles -/

section Style

variable {cs : List Char}

/-- The texts that are written in a style. -/
def Suits (cs : List Char) : Style → Prop
  | .plain => needsEscape cs = false ∧ cs.contains '\n' = false ∧ meansOther cs = false ∧
      cs.any isBreak = false ∧ startsIn isSpace cs = false ∧ endsIn isSpace cs = false ∧
      hasIndicator cs = false
  | .singleQuoted => needsEscape cs = false ∧ cs.contains '\n' = false ∧
      hasPair isBreak isSpace cs = false
  | .doubleQuoted => True
  | .literal => needsEscape cs = false ∧ cs.contains '\n' = true
  | .folded => False

theorem suits_styleOf (cs : List Char) : Suits cs (styleOf cs) := by
  unfold styleOf
  by_cases hescape : needsEscape cs = true
  · simp [hescape, Suits]
  rw [Bool.not_eq_true] at hescape
  by_cases hlines : cs.contains '\n' = true
  · by_cases hend : endsIn isSpace cs = true
    · simp only [hescape, hlines, hend, Bool.false_eq_true, if_false, if_true, Suits]
    · simp only [hescape, hlines, hend, Bool.false_eq_true, if_false, if_true, Suits, and_self]
  rw [Bool.not_eq_true] at hlines
  by_cases hpair : hasPair isBreak isSpace cs = true
  · simp only [hescape, hlines, hpair, Bool.false_eq_true, if_false, if_true, Suits]
  rw [Bool.not_eq_true] at hpair
  by_cases hquote : (meansOther cs || cs.any isBreak || startsIn isSpace cs ||
      endsIn isSpace cs || hasIndicator cs) = true
  · simp only [hescape, hlines, hpair, hquote, Bool.false_eq_true, if_false, if_true, Suits,
      and_self]
  · rw [Bool.not_eq_true] at hquote
    simp only [hescape, hlines, hpair, hquote, Bool.false_eq_true, if_false, Suits, true_and]
    simpa only [Bool.or_eq_false_iff, and_assoc] using hquote

theorem styleOf_ne_folded (cs : List Char) : styleOf cs ≠ .folded := by
  intro h
  have hsuits := suits_styleOf cs
  rw [h] at hsuits
  exact hsuits

/-- A text without need of escapes is printable, and has no space in front of a line end. -/
theorem of_needsEscape_eq_false (h : needsEscape cs = false) :
    (∀ c ∈ cs, isPrintable c = true) ∧ hasPair isSpace isBreak cs = false := by
  rw [needsEscape, Bool.or_eq_false_iff] at h
  refine ⟨fun c hc => ?_, h.2⟩
  simpa using List.any_eq_false.1 h.1 c hc

/-- A literal has several lines. -/
theorem literal_of_styleOf (h : styleOf cs = .literal) :
    (∀ c ∈ cs, isPrintable c = true) ∧ cs ≠ [] := by
  have hsuits := suits_styleOf cs
  rw [h] at hsuits
  obtain ⟨hescape, hlines⟩ := hsuits
  refine ⟨(of_needsEscape_eq_false hescape).1, ?_⟩
  rintro rfl
  cases hlines

/-- A text between single quotes has one line, and no space beside a Unicode separator. -/
theorem single_of_styleOf (h : styleOf cs = .singleQuoted) :
    (∀ c ∈ cs, isPrintable c = true) ∧ '\n' ∉ cs ∧ hasPair isSpace isBreak cs = false ∧
      hasPair isBreak isSpace cs = false := by
  have hsuits := suits_styleOf cs
  rw [h] at hsuits
  obtain ⟨hescape, hlines, hbreakSpace⟩ := hsuits
  obtain ⟨hprint, hspaceBreak⟩ := of_needsEscape_eq_false hescape
  exact ⟨hprint, by simpa using hlines, hspaceBreak, hbreakSpace⟩

/-- A plain text can be one by its characters, and has no meaning other than the text. -/
theorem plain_of_styleOf (h : styleOf cs = .plain) :
    PlainText cs ∧ meansOther cs = false ∧ startsIn isSpace cs = false ∧
      hasIndicator cs = false := by
  have hsuits := suits_styleOf cs
  rw [h] at hsuits
  obtain ⟨hescape, -, hmeans, hbreak, hstart, hend, hindicator⟩ := hsuits
  have hline : ∀ c ∈ cs, isBreak c = false := by
    intro c hc
    simpa using List.any_eq_false.1 hbreak c hc
  have hparts := hindicator
  simp only [hasIndicator, Bool.or_eq_false_iff] at hparts
  obtain ⟨⟨⟨-, hkey⟩, hcolon⟩, hcomment⟩ := hparts
  exact ⟨⟨(of_needsEscape_eq_false hescape).1, hline, hkey, hcolon, hcomment, hend⟩, hmeans,
    hstart, hindicator⟩

/-- What a plain text starts with starts a plain scalar. -/
theorem start_of_styleOf_plain (h : styleOf cs = .plain) :
    ∃ c r, cs = c :: r ∧ isGap c = false ∧ isBreak c = false ∧
      (Scanner.isIndicator c = true → (c = '-' ∨ c = '?' ∨ c = ':') ∧
        ∀ m tail, atGap (located m (r ++ tail)) = false) := by
  obtain ⟨hplain, hmeans, hstart, hindicator⟩ := plain_of_styleOf h
  cases cs with
  | nil =>
    have hnull : meansOther [] = true := by decide
    rw [hnull] at hmeans
    cases hmeans
  | cons c r =>
    have hspace : c ≠ ' ' := by simpa [startsIn_cons, isSpace] using hstart
    have hgap := isGap_eq_false (hplain.printable c List.mem_cons_self) hspace
    refine ⟨c, r, rfl, hgap, hplain.oneLine c List.mem_cons_self, fun hc => ?_⟩
    simp only [hasIndicator, Bool.or_eq_false_iff, startsIn_cons] at hindicator
    obtain ⟨⟨⟨⟨⟨⟨-, -⟩, hlist⟩, hdash⟩, -⟩, -⟩, -⟩ := hindicator
    have hcases : c = '-' ∨ c = '?' ∨ c = ':' := by
      simp only [Scanner.isIndicator, List.contains_eq_mem, decide_eq_true_eq,
        decide_eq_false_iff_not, List.mem_cons, List.not_mem_nil, or_false, not_or] at hc hlist
      simp_all
    refine ⟨hcases, fun m tail => ?_⟩
    by_cases hcolon : c = ':'
    · exact hplain.atGap_of_colon hcolon m tail
    · have hmark : (c == '?' || c == '-') = true := by
        rcases hcases with rfl | rfl | rfl
        · decide
        · decide
        · exact absurd rfl hcolon
      cases r with
      | nil => simp [hmark] at hdash
      | cons d r =>
        have hnext : isGap d = false := by simpa [hmark] using hdash
        have hbreak : isBreak d = false :=
          hplain.oneLine d (List.mem_cons_of_mem c List.mem_cons_self)
        simp [located, atGap, hnext, hbreak]

end Style

/-! ## Written characters -/

section Written

variable {indent : Nat} {broken : Bool} {cs : List Char} {c : Char}

theorem of_mem_writeSingle (h : c ∈ writeSingle indent broken cs) :
    c ∈ cs ∨ c = ' ' ∨ c = '\'' := by
  have hmargin {broken : Bool} (h : c ∈ if broken then margin indent else []) : c = ' ' := by
    cases broken with
    | true => exact List.eq_of_mem_replicate h
    | false => cases h
  induction cs generalizing broken with
  | nil => exact .inr (.inl (hmargin h))
  | cons d cs ih =>
    rw [writeSingle] at h
    split at h
    · rcases List.mem_cons.1 h with rfl | h
      · exact .inl List.mem_cons_self
      · exact (ih h).imp_left (List.mem_cons_of_mem d)
    · rw [List.mem_append, List.mem_append] at h
      rcases h with (h | h) | h
      · exact .inr (.inl (hmargin h))
      · split at h <;> simp_all
      · exact (ih h).imp_left (List.mem_cons_of_mem d)

theorem of_mem_writeLiteral (h : c ∈ writeLiteral indent broken cs) : c ∈ cs ∨ c = ' ' := by
  induction cs generalizing broken with
  | nil => cases h
  | cons d cs ih =>
    rw [writeLiteral] at h
    split at h
    · rcases List.mem_cons.1 h with rfl | h
      · exact .inl List.mem_cons_self
      · exact (ih h).imp_left (List.mem_cons_of_mem d)
    · rw [List.mem_append, List.mem_cons] at h
      rcases h with h | rfl | h
      · cases broken with
        | true => exact .inr (List.eq_of_mem_replicate h)
        | false => cases h
      · exact .inl List.mem_cons_self
      · exact (ih h).imp_left (List.mem_cons_of_mem d)

theorem isPrintable_of_mem_literalHeader (h : c ∈ literalHeader cs) : isPrintable c = true := by
  rw [literalHeader_eq, List.mem_append] at h
  rcases h with h | h
  · split at h
    · rw [List.mem_singleton.1 h]
      decide
    · cases h
  · cases hchomp : chompOf cs with
    | clip =>
      rw [hchomp] at h
      cases h
    | strip =>
      rw [hchomp] at h
      rw [List.mem_singleton.1 h]
      decide
    | keep =>
      rw [hchomp] at h
      rw [List.mem_singleton.1 h]
      decide

/-- **All that is written** for a text is printable. -/
theorem isPrintable_of_mem_write (h : c ∈ write indent cs) : isPrintable c = true := by
  have hspace : isPrintable ' ' = true := by decide
  have hquote : isPrintable '\'' = true := by decide
  have hfeed : isPrintable '\n' = true := by decide
  rw [write] at h
  cases hstyle : styleOf cs with
  | plain =>
    simp only [hstyle, List.mem_append, List.mem_singleton] at h
    rcases h with h | rfl
    · exact (plain_of_styleOf hstyle).1.printable c h
    · exact hfeed
  | folded => exact absurd hstyle (styleOf_ne_folded cs)
  | singleQuoted =>
    simp only [hstyle, List.mem_append, List.mem_cons, List.not_mem_nil, or_false] at h
    rcases h with rfl | h | rfl | rfl
    · exact hquote
    · rcases of_mem_writeSingle h with h | rfl | rfl
      · exact (single_of_styleOf hstyle).1 c h
      · exact hspace
      · exact hquote
    · exact hquote
    · exact hfeed
  | doubleQuoted =>
    simp only [hstyle, List.mem_append, List.mem_cons, List.not_mem_nil, or_false,
      List.mem_flatMap] at h
    rcases h with rfl | ⟨d, -, h⟩ | rfl | rfl
    · decide
    · exact (of_mem_writeDouble h).1
    · decide
    · exact hfeed
  | literal =>
    simp only [hstyle, List.mem_append, List.mem_cons] at h
    rcases h with rfl | ⟨h | rfl | h⟩ | h
    · decide
    · exact isPrintable_of_mem_literalHeader h
    · exact hfeed
    · rcases of_mem_writeLiteral h with h | rfl
      · exact (literal_of_styleOf hstyle).1 c h
      · exact hspace
    · split at h
      · cases h
      · rw [List.mem_singleton.1 h]
        exact hfeed

/-- What is written for a text can be seen to start. -/
theorem lineStart_write (indent : Nat) (cs tail : List Char) :
    LineStart (write indent cs ++ tail) := by
  rw [write]
  cases hstyle : styleOf cs with
  | plain =>
    obtain ⟨c, r, rfl, hgap, hbreak, hindicator⟩ := start_of_styleOf_plain hstyle
    have hprint := (plain_of_styleOf hstyle).1.printable c List.mem_cons_self
    have hmark : c ≠ byteOrderMark := ne_of_isPrintable hprint (by decide)
    have hcomment : c ≠ '#' := by
      rintro rfl
      have hcases := (hindicator (by decide)).1
      revert hcases
      decide
    exact ⟨hgap, hbreak, beq_eq_false_iff_ne.2 hcomment, beq_eq_false_iff_ne.2 hmark⟩
  | folded => exact absurd hstyle (styleOf_ne_folded cs)
  | singleQuoted => exact ⟨rfl, rfl, rfl, rfl⟩
  | doubleQuoted => exact ⟨rfl, rfl, rfl, rfl⟩
  | literal => exact ⟨rfl, rfl, rfl, rfl⟩

end Written

/-! ## Scalars as tokens -/

namespace Scanner

variable {s : Scanner} {k n : Nat} {outer : List (Option Nat)} {m : Mark}
  {cs body : List Char} {kinds : List TokenKind}

theorem takeAsKey?_facing {text tail : List Char} {m' : Mark} {tokens : List Token}
    (kind : TokenKind) (hstop : m'.pastAll tail = m.pastAll text) :
    (facing m text tokens (some k) outer false).takeAsKey? kind (located m' tail) =
      some (facing m' tail (⟨kind, m, m'⟩ :: tokens) (some k) outer false) := by
  have htake : (facing m text tokens (some k) outer false).take kind (located m' tail) =
      facing m' tail (⟨kind, m, m'⟩ :: tokens) (some k) outer false :=
    take_withKey hstop kind none
  have hsaved : (facing m text tokens (some k) outer false).saveKey? =
      some (facing m text tokens (some k) outer false) := rfl
  simp only [takeAsKey?, hsaved, Option.bind_eq_bind, Option.bind_some, htake]
  rfl

/-- A scalar that the scanner takes, up to the start of the next line. -/
theorem Stands.take {allowed : Bool} {c : Char} {r t : List Char} {p m' : Mark} {style : Style}
    (h : s.Stands (some k) outer false m (c :: r) kinds) (hm : k < m.column)
    (htoken : (facing m (c :: r) s.tokens (some k) outer false).token? c (located (m.past c) r) =
      some (facing p t (⟨.scalar style cs, m, p⟩ :: s.tokens) (some k) outer allowed))
    (hpasses : Passes allowed p t true m' body) :
    ∃ s', Steps 1 s s' ∧ s'.Stands (some k) outer true m' body (.scalar style cs :: kinds) := by
  have hstay : ∀ i ∈ some k, i ≤ m.column := by
    rintro i ⟨⟩
    exact Nat.le_of_lt hm
  have hnext := h.next?_eq (.stay outer hstay)
  rw [List.map_nil, List.nil_append, htoken] at hnext
  refine ⟨_, .single h.isDone_eq hnext, ?_⟩
  rw [← h.kinds_eq]
  exact stands_facing _ _ (by rintro ⟨⟩) hpasses

theorem Stands.plain (h : s.Stands (some k) outer false m (cs ++ '\n' :: (margin n ++ body)) kinds)
    (hstyle : styleOf cs = .plain) (hm : k < m.column) (hn : n ≤ k) (hbody : LineStart body) :
    ∃ s', Steps 1 s s' ∧ s'.Stands (some k) outer true (m.pastAll (cs ++ '\n' :: margin n)) body
      (.scalar .plain cs :: kinds) := by
  obtain ⟨c, r, rfl, hgap, hbreak, hindicator⟩ := start_of_styleOf_plain hstyle
  have hplain := (plain_of_styleOf hstyle).1
  have hread : plainScalar? false ((some k).elim 0 (· + 1)) [] .nothing
      (located m (c :: r ++ '\n' :: (margin n ++ body))) =
      some (c :: r, .breaks (some '\n') [],
        located (m.pastAll (c :: r ++ '\n' :: margin n)) body) := by
    change plainScalar? false (k + 1) _ _ _ = _
    rw [Pending.nothing, plainScalar?_append hplain (by omega) hm (by rintro ⟨⟩)
      (fun h => absurd rfl h), plainScalar?_line (by omega) hbody]
    simp
  have hmarker : atAnyMarker (located m (c :: (r ++ '\n' :: (margin n ++ body)))) = false :=
    atAnyMarker_eq_false c _ (by omega)
  rw [List.cons_append] at h hread
  refine h.take hm ?_ (.here true _ hbody)
  rw [token?_plain rfl hmarker hgap fun hc => ⟨(hindicator hc).1, (hindicator hc).2 _ _⟩]
  exact plain?_facing hread (by simp)

/-- A scalar between quotes, given that it is taken up to its closing quote. -/
theorem Stands.quoted {q : Char} {inside : List Char} {style : Style}
    (h : s.Stands (some k) outer false m (q :: (inside ++ q :: '\n' :: (margin n ++ body))) kinds)
    (hm : k < m.column) (hbody : LineStart body)
    (htoken : (facing m (q :: (inside ++ q :: '\n' :: (margin n ++ body))) s.tokens (some k) outer
        false).token? q (located (m.past q) (inside ++ q :: '\n' :: (margin n ++ body))) =
      (facing m (q :: (inside ++ q :: '\n' :: (margin n ++ body))) s.tokens (some k) outer
        false).takeAsKey? (.scalar style cs)
          (located ((m.past q).pastAll (inside ++ [q])) ('\n' :: (margin n ++ body)))) :
    ∃ s', Steps 1 s s' ∧ s'.Stands (some k) outer true
      (m.pastAll (q :: (inside ++ q :: '\n' :: margin n))) body (.scalar style cs :: kinds) := by
  have hstop : ((m.past q).pastAll (inside ++ [q])).pastAll ('\n' :: (margin n ++ body)) =
      m.pastAll (q :: (inside ++ q :: '\n' :: (margin n ++ body))) := by simp
  have hplace : ((m.past q).pastAll (inside ++ [q])).pastAll ('\n' :: margin n) =
      m.pastAll (q :: (inside ++ q :: '\n' :: margin n)) := by simp
  have hpasses := Passes.nextLine false ((m.past q).pastAll (inside ++ [q])) n hbody
  rw [hplace] at hpasses
  exact h.take hm (htoken.trans (takeAsKey?_facing _ hstop)) hpasses

theorem Stands.singleQuoted (h : s.Stands (some k) outer false m
      ('\'' :: (writeSingle (k + 2) false cs ++ '\'' :: '\n' :: (margin n ++ body))) kinds)
    (hstyle : styleOf cs = .singleQuoted) (hm : k < m.column) (hbody : LineStart body) :
    ∃ s', Steps 1 s s' ∧ s'.Stands (some k) outer true
      (m.pastAll ('\'' :: (writeSingle (k + 2) false cs ++ '\'' :: '\n' :: margin n))) body
        (.scalar .singleQuoted cs :: kinds) := by
  obtain ⟨hprint, hfeed, hspaceBreak, hbreakSpace⟩ := single_of_styleOf hstyle
  have hindent : k + 2 ≠ 0 := Nat.succ_ne_zero _
  have hquote : (m.past '\'').column ≠ 0 := by
    rw [Mark.column_past_of_not_break m (by decide)]
    exact Nat.succ_ne_zero _
  have hbefore : Pending.nothing.Before (m.past '\'') cs false :=
    .gaps [] hquote fun h => absurd rfl h
  have htail : ('\n' :: (margin n ++ body)).head? ≠ some '\'' := by
    rintro ⟨⟩
  have hread : singleQuoted? [] .nothing (located (m.past '\'')
      (writeSingle (k + 2) false cs ++ '\'' :: '\n' :: (margin n ++ body))) =
      some (cs, located ((m.past '\'').pastAll (writeSingle (k + 2) false cs ++ ['\'']))
        ('\n' :: (margin n ++ body))) :=
    singleQuoted?_write hindent hprint hfeed hspaceBreak hbreakSpace hbefore htail
  have hmarker (d : Char) (text : List Char) :
      atDocumentMarker d (located m ('\'' :: text)) = false :=
    atDocumentMarker_eq_false d '\'' _ (Nat.ne_zero_of_lt hm)
  refine h.quoted hm hbody ?_
  simp [token?, facing, hmarker, hread]

theorem Stands.doubleQuoted (h : s.Stands (some k) outer false m
      ('"' :: (cs.flatMap writeDouble ++ '"' :: '\n' :: (margin n ++ body))) kinds)
    (hm : k < m.column) (hbody : LineStart body) :
    ∃ s', Steps 1 s s' ∧ s'.Stands (some k) outer true
      (m.pastAll ('"' :: (cs.flatMap writeDouble ++ '"' :: '\n' :: margin n))) body
        (.scalar .doubleQuoted cs :: kinds) := by
  have hquote : (m.past '"').column ≠ 0 := by
    rw [Mark.column_past_of_not_break m (by decide)]
    exact Nat.succ_ne_zero _
  have hread : doubleQuoted? [] .nothing (located (m.past '"')
      (cs.flatMap writeDouble ++ '"' :: '\n' :: (margin n ++ body))) =
      some (cs, located ((m.past '"').pastAll (cs.flatMap writeDouble ++ ['"']))
        ('\n' :: (margin n ++ body))) := doubleQuoted?_write cs hquote
  have hmarker (d : Char) (text : List Char) :
      atDocumentMarker d (located m ('"' :: text)) = false :=
    atDocumentMarker_eq_false d '"' _ (Nat.ne_zero_of_lt hm)
  refine h.quoted hm hbody ?_
  simp [token?, facing, hmarker, hread]

theorem Stands.literal
    (h : s.Stands (some k) outer false m
      ('|' :: (literalHeader cs ++ '\n' :: literalLines (k + 2) cs ++ (margin n ++ body))) kinds)
    (hstyle : styleOf cs = .literal) (hm : k < m.column) (hn : n ≤ k) (hbody : LineStart body) :
    ∃ s', Steps 1 s s' ∧ s'.Stands (some k) outer true
      (m.pastAll ('|' :: (literalHeader cs ++ '\n' :: literalLines (k + 2) cs ++ margin n))) body
        (.scalar .literal cs :: kinds) := by
  obtain ⟨hprint, hne⟩ := literal_of_styleOf hstyle
  let text := literalHeader cs ++ '\n' :: literalLines (k + 2) cs
  let s₁ := facing m ('|' :: (text ++ (margin n ++ body))) s.tokens (some k) outer false
  have hleft : n < k + 2 := by omega
  have hread : blockScalar? false (some k) (located (m.past '|') (text ++ (margin n ++ body))) =
      some (cs, located ((m.past '|').pastAll (text ++ margin n)) body) :=
    (blockScalar?_write hprint hne hleft hbody).2
  have hmarker (d : Char) (text : List Char) :
      atDocumentMarker d (located m ('|' :: text)) = false :=
    atDocumentMarker_eq_false d '|' _ (Nat.ne_zero_of_lt hm)
  have htoken : s₁.token? '|' (located (m.past '|') (text ++ (margin n ++ body))) =
      s₁.literal? false (located (m.past '|') (text ++ (margin n ++ body))) := by
    simp [s₁, token?, facing, inFlow, hmarker]
  have hstop : (m.pastAll ('|' :: (text ++ margin n))).pastAll body =
      m.pastAll ('|' :: (text ++ (margin n ++ body))) := by simp
  have htake : s₁.take (.scalar .literal cs) (located (m.pastAll ('|' :: (text ++ margin n))) body)
      = facing (m.pastAll ('|' :: (text ++ margin n))) body
        (⟨.scalar .literal cs, m, m.pastAll ('|' :: (text ++ margin n))⟩ :: s.tokens) (some k)
          outer false := take_withKey hstop (.scalar .literal cs) none
  have hliteral : s₁.literal? false (located (m.past '|') (text ++ (margin n ++ body))) =
      some { s₁.take (.scalar .literal cs) (located (m.pastAll ('|' :: (text ++ margin n))) body)
        with keyAllowed := true } := by
    have hindent : s₁.indent = some k := rfl
    have hkey : s₁.dropKey? = some s₁ := rfl
    simp only [literal?, hkey, hindent, hread, Option.bind_eq_bind, Option.bind_some]
    rfl
  rw [htake] at hliteral
  exact h.take hm (htoken.trans hliteral) (.here true _ hbody)

/-- Behind a line end stands the next line. -/
theorem column_nextLine (m : Mark) (text : List Char) (n : Nat) :
    (m.pastAll (text ++ '\n' :: margin n)).column = n := by
  have hfeed : isBreak '\n' = true := by decide
  rw [Mark.pastAll_append, Mark.pastAll_cons, column_pastAll_margin,
    Mark.column_past_of_break _ hfeed, Nat.zero_add]

/-- **A written text** is one token, up to the start of the next line. -/
theorem Stands.scalar
    (h : s.Stands (some k) outer false m (write (k + 2) cs ++ (margin n ++ body)) kinds)
    (hm : k < m.column) (hn : n ≤ k) (hbody : LineStart body) :
    ∃ s' m', Steps 1 s s' ∧ m'.column = n ∧
      s'.Stands (some k) outer true m' body (.scalar (styleOf cs) cs :: kinds) := by
  rw [write] at h
  cases hstyle : styleOf cs with
  | plain =>
    simp only [hstyle, List.append_assoc, List.cons_append, List.nil_append] at h
    obtain ⟨s', hsteps, hstands⟩ := h.plain hstyle hm hn hbody
    exact ⟨s', _, hsteps, column_nextLine m cs n, hstands⟩
  | folded => exact absurd hstyle (styleOf_ne_folded cs)
  | singleQuoted =>
    simp only [hstyle, List.append_assoc, List.cons_append, List.nil_append] at h
    obtain ⟨s', hsteps, hstands⟩ := h.singleQuoted hstyle hm hbody
    refine ⟨s', _, hsteps, ?_, hstands⟩
    rw [List.append_cons, ← List.cons_append]
    exact column_nextLine m _ n
  | doubleQuoted =>
    simp only [hstyle, List.append_assoc, List.cons_append, List.nil_append] at h
    obtain ⟨s', hsteps, hstands⟩ := h.doubleQuoted hm hbody
    refine ⟨s', _, hsteps, ?_, hstands⟩
    rw [List.append_cons, ← List.cons_append]
    exact column_nextLine m _ n
  | literal =>
    obtain ⟨hprint, hne⟩ := literal_of_styleOf hstyle
    have htext : '|' :: (literalHeader cs ++ '\n' :: writeLiteral (k + 2) true cs ++
        if endsIn isBreak cs then [] else ['\n']) =
        '|' :: (literalHeader cs ++ '\n' :: literalLines (k + 2) cs) := by
      simp [literalLines]
    simp only [hstyle] at h
    rw [htext, List.cons_append] at h
    obtain ⟨s', hsteps, hstands⟩ := h.literal hstyle hm hn hbody
    exact ⟨s', _, hsteps, (blockScalar?_write hprint hne (by omega) hbody).1, hstands⟩

end Scanner

end CaseSheet.Yaml

import CaseSheet.Proofs.Expectation
import CaseSheet.Proofs.Json.Token
import CaseSheet.Proofs.Pieces
import CaseSheet.Step
/-!
# What a step asks for

A step is read by its filled lines: what stands between its line feeds, trimmed, if anything is left
of it. The first of them names the request, the others may hold a body.

* `Text.filledLines_eq`: the lines that the reader goes by are these. Line ends, and blanks around
  the whole text, have no part in them.
* `Intent.Asks`: the forms that a request can have, with the first line of the step.
* `Intent.ofStep_of_contentLines`: layout has no part in the request, and it has one of the forms.
-/
namespace CaseSheet

namespace Text

variable {cs l : List Char}

/-! ## Filled lines -/

/-- What is left of pieces of a text when each is trimmed and the empty ones are left out. -/
def filled (pieces : List (List Char)) : List (List Char) :=
  (pieces.map trim).filter fun l => !l.isEmpty

theorem filled_append (a b : List (List Char)) : filled (a ++ b) = filled a ++ filled b := by
  simp [filled]

theorem filled_cons (l : List Char) (ls : List (List Char)) :
    filled (l :: ls) = filled [l] ++ filled ls := filled_append [l] ls

/-- The pieces between the line feeds of a text, trimmed, as far as they are filled. -/
def contentLines (cs : List Char) : List (List Char) := filled (cs.splitOn '\n')

theorem trim_dropReturn (l : List Char) : trim (dropReturn l) = trim l := by
  unfold dropReturn
  split
  · next r heq =>
    have hl : l = r.reverse ++ ['\r'] := by
      rw [← List.reverse_reverse l, heq, List.reverse_cons]
    rw [hl, trim_append_blanks (by simp; decide)]
  · rfl

theorem filled_dropFinalEmpty (ls : List (List Char)) : filled (dropFinalEmpty ls) = filled ls := by
  fun_induction dropFinalEmpty ls with
  | case1 => rfl
  | case2 => rfl
  | case3 l ls h ih => rw [filled_cons, ih, ← filled_cons]

theorem contentLines_append_newline (a b : List Char) :
    contentLines (a ++ '\n' :: b) = contentLines a ++ contentLines b := by
  rw [contentLines, List.splitOn_append_cons_self, filled_append]
  rfl

theorem contentLines_of_not_mem (h : '\n' ∉ l) : contentLines l = filled [l] := by
  rw [contentLines, List.splitOn_eq_singleton h]

theorem contentLines_nil : contentLines [] = [] := contentLines_of_not_mem (by simp)

/-- Pieces that trimming makes equal count the same. -/
theorem filled_singleton_congr {l l' : List Char} (h : trim l = trim l') :
    filled [l] = filled [l'] := by
  simp [filled, h]

theorem contentLines_blank_cons {c : Char} (hc : isBlank c = true) (cs : List Char) :
    contentLines (c :: cs) = contentLines cs := by
  unfold contentLines
  rw [List.splitOn_cons_eq_if_modifyHead]
  split
  · rfl
  · cases hpieces : cs.splitOn '\n' with
    | nil => exact absurd hpieces (List.splitOn_ne_nil _ _)
    | cons p ps =>
      have hblank : ∀ d ∈ [c], isBlank d = true := by simpa using hc
      have htrim : trim (c :: p) = trim p := trim_blanks_append hblank p
      rw [List.modifyHead_cons, filled_cons, filled_cons p, filled_singleton_congr htrim]

/-- The last line of a text has no line feed behind it. -/
theorem exists_last_line (cs : List Char) :
    ∃ l, '\n' ∉ l ∧ (cs = l ∨ ∃ front, cs = front ++ '\n' :: l) := by
  induction cs using List.reverseRecOn with
  | nil => exact ⟨[], by simp, Or.inl rfl⟩
  | append_singleton cs c ih =>
    by_cases hc : c = '\n'
    · subst hc; exact ⟨[], by simp, Or.inr ⟨cs, rfl⟩⟩
    · obtain ⟨l, hl, h⟩ := ih
      refine ⟨l ++ [c], by simp [hl, Ne.symm hc], ?_⟩
      rcases h with rfl | ⟨front, rfl⟩
      · exact Or.inl rfl
      · exact Or.inr ⟨front, by simp⟩

theorem contentLines_concat_blank {c : Char} (hc : isBlank c = true) (cs : List Char) :
    contentLines (cs ++ [c]) = contentLines cs := by
  -- A line feed adds an empty piece; any other blank is trimmed from the last line.
  by_cases hn : c = '\n'
  · subst hn; rw [contentLines_append_newline, contentLines_nil, List.append_nil]
  · have hline {l : List Char} (hl : '\n' ∉ l) : contentLines (l ++ [c]) = contentLines l := by
      rw [contentLines_of_not_mem hl, contentLines_of_not_mem (by simp [hl, Ne.symm hn])]
      exact filled_singleton_congr (trim_append_blanks (by simpa using hc) l)
    obtain ⟨l, hl, rfl | ⟨front, rfl⟩⟩ := exists_last_line cs
    · exact hline hl
    · rw [List.append_assoc, List.cons_append, contentLines_append_newline, hline hl,
        contentLines_append_newline]

theorem contentLines_blanks_append {blanks : List Char} (h : ∀ c ∈ blanks, isBlank c = true)
    (cs : List Char) : contentLines (blanks ++ cs) = contentLines cs := by
  induction blanks with
  | nil => rfl
  | cons c blanks ih =>
    rw [List.cons_append, contentLines_blank_cons (h c (by simp)),
      ih fun d hd => h d (by simp [hd])]

theorem contentLines_append_blanks {blanks : List Char} (h : ∀ c ∈ blanks, isBlank c = true)
    (cs : List Char) : contentLines (cs ++ blanks) = contentLines cs := by
  induction blanks using List.reverseRecOn with
  | nil => rw [List.append_nil]
  | append_singleton blanks c ih =>
    rw [← List.append_assoc, contentLines_concat_blank (h c (by simp)),
      ih fun d hd => h d (by simp [hd])]

/-- Blanks around the whole text, line feeds among them, do not matter. -/
theorem contentLines_trim (cs : List Char) : contentLines (trim cs) = contentLines cs := by
  obtain ⟨front, back, hfront, hback, heq⟩ := exists_trim cs
  calc contentLines (trim cs) = contentLines (front ++ trim cs) :=
        (contentLines_blanks_append hfront _).symm
    _ = contentLines (front ++ trim cs ++ back) := (contentLines_append_blanks hback _).symm
    _ = contentLines cs := by rw [← heq]

/-- **The filled lines** of a text are told by its line feeds alone. -/
theorem filledLines_eq (cs : List Char) : filledLines cs = contentLines cs := by
  have hlines : filled (lines (trim cs)) = filled (splitAll '\n' (trim cs)) := by
    rw [← filled_dropFinalEmpty (splitAll _ _)]
    simp only [filled, lines, List.map_map, Function.comp_def, trim_dropReturn]
  calc filledLines cs = filled (lines (trim cs)) := rfl
    _ = filled (splitAll '\n' (trim cs)) := hlines
    _ = contentLines (trim cs) := by rw [splitAll_eq_splitOn, contentLines]
    _ = contentLines cs := contentLines_trim cs

/-- A filled line is trimmed, is not empty and has no line feed in it. -/
theorem of_mem_contentLines (h : l ∈ contentLines cs) : l ≠ [] ∧ IsTrimmed l ∧ '\n' ∉ l := by
  obtain ⟨hl, hne⟩ := List.mem_filter.1 h
  obtain ⟨piece, hpiece, rfl⟩ := List.mem_map.1 hl
  rw [← splitAll_eq_splitOn] at hpiece
  refine ⟨by simpa using hne, isTrimmed_trim piece, fun hn => ?_⟩
  exact not_mem_of_mem_splitAll hpiece (trim_subset piece hn)

end Text

namespace Json

variable {cs : List Char} {v : Value}

/-- What is read of a text that starts with a brace is an object. -/
theorem exists_fields_of_parse? (h : parse? ('\x7b' :: cs) = some v) :
    ∃ fields, v = .object fields := by
  have hread : ∀ w r, value? maxDepth ('\x7b' :: cs) = some (w, r) →
      ∃ fields, w = .object fields := by
    intro w r hw
    rw [show maxDepth = 126 + 1 from rfl, value?.eq_2 _ cs 126 (skipBlanks_cons rfl cs)] at hw
    split at hw
    · cases hw; exact ⟨[], rfl⟩
    · obtain ⟨⟨fields, r'⟩, -, hw⟩ := Option.map_eq_some_iff.1 hw
      cases hw
      exact ⟨_, rfl⟩
  rw [parse?] at h
  split at h
  · next w r hw =>
    split at h
    · cases h; exact hread _ r hw
    · cases h
  · cases h

end Json

namespace Intent

/-- What can be the endpoint on a request line. -/
structure IsEndpoint (endpoint : String) : Prop where
  ne_empty : endpoint ≠ ""
  one_line : '\n' ∉ endpoint.toList
  trimmed : Text.IsTrimmed endpoint.toList

/-- The request that a step with these filled lines asks for. -/
inductive Asks (fallback : String) (lines : List (List Char)) : Intent → Prop
  | fallback (h : ∀ l ∈ lines.head?, ¬ "GET ".toList <+: l ∧ ¬ "POST ".toList <+: l) :
    Asks fallback lines
      { method := .get, endpoint := fallback, body := none, expectedStatus := 200 }
  | get {blanks : List Char} {endpoint : String} (hblanks : ∀ c ∈ blanks, Text.isBlank c = true)
      (hfirst : lines.head? = some ("GET ".toList ++ blanks ++ endpoint.toList))
      (hendpoint : IsEndpoint endpoint) :
    Asks fallback lines { method := .get, endpoint, body := none, expectedStatus := 200 }
  | post {blanks : List Char} {endpoint : String} {fields : List (String × Json.Value)}
      (hblanks : ∀ c ∈ blanks, Text.isBlank c = true)
      (hfirst : lines.head? = some ("POST ".toList ++ blanks ++ endpoint.toList))
      (hendpoint : IsEndpoint endpoint) :
    Asks fallback lines
      { method := .post, endpoint, body := some (.object fields)
        expectedStatus := if "/signup".toList <:+: endpoint.toList then 201 else 200 }

theorem exists_fields_bodyOf (later : List (List Char)) :
    ∃ fields, bodyOf later = .object fields := by
  unfold bodyOf
  cases hread : (later.find? isBodyLine).bind Json.parse? with
  | none => exact ⟨[], rfl⟩
  | some v =>
    obtain ⟨l, hl, hv⟩ := Option.bind_eq_some_iff.1 hread
    have hbody : isBodyLine l = true := List.find?_some hl
    simp only [isBodyLine, Bool.and_eq_true, Text.startsWith_iff] at hbody
    obtain ⟨⟨rest, rfl⟩, -⟩ := hbody
    exact Json.exists_fields_of_parse? hv

/-- The rest of a trimmed line behind the word of a method is an endpoint, with blanks before it. -/
theorem isEndpoint_of_line {first : List Char} (word rest : List Char)
    (hfirst : first = word ++ ' ' :: rest) (htrimmed : Text.IsTrimmed first)
    (hline : '\n' ∉ first) :
    IsEndpoint (String.ofList (Text.trim rest)) ∧ ∃ blanks, (∀ c ∈ blanks, Text.isBlank c = true) ∧
      rest = blanks ++ (String.ofList (Text.trim rest)).toList := by
  subst hfirst
  obtain ⟨hne, blanks, hblanks, hrest⟩ := htrimmed.exists_behind rfl
  refine ⟨⟨?_, ?_, ?_⟩, blanks, hblanks, ?_⟩
  · intro h
    apply hne
    simpa using congrArg String.toList h
  · intro hn
    rw [String.toList_ofList] at hn
    apply hline
    simp [Text.trim_subset rest hn]
  · rw [String.toList_ofList]; exact Text.isTrimmed_trim rest
  · rw [String.toList_ofList]; exact hrest

theorem asks_ofLines (fallback : String) {lines : List (List Char)}
    (h : ∀ l ∈ lines, Text.IsTrimmed l ∧ '\n' ∉ l) :
    Asks fallback lines (ofLines fallback lines) := by
  cases lines with
  | nil => exact .fallback (by simp)
  | cons first later =>
    obtain ⟨htrimmed, hline⟩ := h first (by simp)
    simp only [ofLines]
    split
    · next rest hrest =>
      have hfirst := Text.stripStart?_eq_some_iff.1 hrest
      obtain ⟨hendpoint, blanks, hblanks, heq⟩ :=
        isEndpoint_of_line "GET".toList rest hfirst htrimmed hline
      refine .get hblanks ?_ hendpoint
      rw [List.head?_cons, hfirst, List.append_assoc, ← heq]
    · next hget =>
      split
      · next rest hrest =>
        have hfirst := Text.stripStart?_eq_some_iff.1 hrest
        obtain ⟨hendpoint, blanks, hblanks, heq⟩ :=
          isEndpoint_of_line "POST".toList rest hfirst htrimmed hline
        obtain ⟨fields, hfields⟩ := exists_fields_bodyOf later
        rw [ofPost, hfields]
        simp only [Text.mentions_iff_isInfix]
        refine .post hblanks ?_ hendpoint
        rw [List.head?_cons, hfirst, List.append_assoc, ← heq]
      · next hpost =>
        refine .fallback fun l hl => ?_
        obtain rfl : first = l := by simpa using hl
        constructor
        · rintro ⟨rest, rfl⟩
          rw [Text.stripStart?_eq_some_iff.2 rfl] at hget
          cases hget
        · rintro ⟨rest, rfl⟩
          rw [Text.stripStart?_eq_some_iff.2 rfl] at hpost
          cases hpost

theorem ofStep_eq (fallback step : String) :
    ofStep fallback step = ofLines fallback (Text.contentLines step.toList) := by
  rw [ofStep, Text.filledLines_eq]

/-- **Layout has no part in what a step asks for**: indentation, line ends and blank lines do not
matter. Every step asks for something, in one of three ways. -/
theorem ofStep_of_contentLines (fallback : String) :
    (∀ step step' : String, Text.contentLines step.toList = Text.contentLines step'.toList →
      ofStep fallback step = ofStep fallback step') ∧
    ∀ step : String, Asks fallback (Text.contentLines step.toList) (ofStep fallback step) := by
  constructor
  · intro step step' h
    rw [ofStep_eq, ofStep_eq, h]
  · intro step
    rw [ofStep_eq]
    exact asks_ofLines fallback fun l hl => (Text.of_mem_contentLines hl).2

/-- A step that is indented, has blank lines and ends its lines in another way. -/
theorem ofStep_indented :
    ofStep defaultEndpoint "\r\n  POST /auth/signup\r\n\r\n\twith a name \r\n \x7b\"a\":1\x7d\r\n" =
        ofStep defaultEndpoint "POST /auth/signup\nwith a name\n\x7b\"a\":1\x7d" ∧
      Asks defaultEndpoint
        ["POST /auth/signup".toList, "with a name".toList, "\x7b\"a\":1\x7d".toList]
        (ofStep defaultEndpoint "POST /auth/signup\nwith a name\n\x7b\"a\":1\x7d") := by
  obtain ⟨hsame, hasks⟩ := ofStep_of_contentLines defaultEndpoint
  constructor
  · apply hsame
    decide +kernel
  · have hlines : Text.contentLines "POST /auth/signup\nwith a name\n\x7b\"a\":1\x7d".toList =
        ["POST /auth/signup".toList, "with a name".toList, "\x7b\"a\":1\x7d".toList] := by
      decide +kernel
    rw [← hlines]
    exact hasks _

end Intent
end CaseSheet

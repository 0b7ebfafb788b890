import CaseSheet.Proofs.Json.Grammar
import CaseSheet.Proofs.Json.OneLine
import CaseSheet.Proofs.Step
/-!
# The body of a step

A step may carry a JSON object on a line of its own, among prose. The first line between braces is
taken for it, and no other line is looked at.

* `Text.contentLines_intercalate`: the filled lines of lines that are put together.
* `Intent.bodyOf_eq`, `Intent.bodyOf_eq_empty`: what the first line between braces gives.
* `Intent.ofStep_posted`: a step that is written with an object on one line asks to send it, and a
  step without a body that can be read asks to send the empty object.
-/
namespace CaseSheet

namespace Text

variable {l : List Char}

theorem contentLines_intercalate (ls : List String) :
    contentLines ("\n".intercalate ls).toList = ls.flatMap fun l => contentLines l.toList := by
  induction ls with
  | nil => rfl
  | cons l ls ih =>
    cases ls with
    | nil => simp
    | cons l' ls =>
      have hcut : ("\n".intercalate (l :: l' :: ls)).toList =
          l.toList ++ '\n' :: ("\n".intercalate (l' :: ls)).toList := by
        simp [String.toList_intercalate]
      rw [hcut, contentLines_append_newline, ih]
      rfl

/-- A line that is trimmed and has something on it is a filled line as it is. -/
theorem contentLines_line (hne : l ≠ []) (htrimmed : IsTrimmed l) (hline : '\n' ∉ l) :
    contentLines l = [l] := by
  rw [contentLines_of_not_mem hline]
  simp [filled, htrimmed.trim_eq, hne]

/-- A line is trimmed, if it stays at all. -/
theorem eq_trim_of_mem_contentLines {l' : List Char} (hline : '\n' ∉ l) (h : l' ∈ contentLines l) :
    l' = trim l := by
  rw [contentLines_of_not_mem hline] at h
  obtain ⟨hmem, -⟩ := List.mem_filter.1 h
  simpa using hmem

end Text

namespace Intent

variable {fallback endpoint : String} {later prose further : List (List Char)} {l : List Char}
  {v : Json.Value}

/-- A line starts with a brace and ends with one. -/
def BetweenBraces (l : List Char) : Prop := ['\x7b'] <+: l ∧ ['\x7d'] <:+ l

instance (l : List Char) : Decidable (BetweenBraces l) := inferInstanceAs (Decidable (_ ∧ _))

theorem isBodyLine_iff : isBodyLine l = true ↔ BetweenBraces l := by
  have hstart : Text.startsWith ['\x7b'] l = true ↔ ['\x7b'] <+: l := by
    rw [Text.startsWith_iff]
    exact exists_congr fun _ => eq_comm
  have hend : Text.endsWith ['\x7d'] l = true ↔ ['\x7d'] <:+ l := by
    rw [Text.endsWith, Text.startsWith_iff, ← List.reverse_prefix]
    exact exists_congr fun _ => eq_comm
  rw [isBodyLine, Bool.and_eq_true, hstart, hend, BetweenBraces]

/-- The first line between braces. -/
structure IsFirstBody (later : List (List Char)) (l : List Char) : Prop where
  betweenBraces : BetweenBraces l
  first : ∃ prose further, later = prose ++ l :: further ∧ ∀ p ∈ prose, ¬ BetweenBraces p

theorem find?_isBodyLine_eq_some_iff : later.find? isBodyLine = some l ↔ IsFirstBody later l := by
  simp only [List.find?_eq_some_iff_append, isBodyLine_iff, Bool.not_eq_true',
    ← Bool.not_eq_true]
  constructor
  · rintro ⟨hl, prose, further, heq, hprose⟩
    exact ⟨hl, prose, further, heq, hprose⟩
  · rintro ⟨hl, prose, further, heq, hprose⟩
    exact ⟨hl, prose, further, heq, hprose⟩

theorem bodyOf_eq (h : IsFirstBody later l) (hv : Json.parse? l = some v) : bodyOf later = v := by
  rw [bodyOf, find?_isBodyLine_eq_some_iff.2 h, Option.bind_some, hv, Option.getD_some]

/-- No JSON text and no line between braces both give the empty object. -/
theorem bodyOf_eq_empty (h : ∀ l, IsFirstBody later l → ¬ Json.IsText l ∨ Json.parse? l = none) :
    bodyOf later = .emptyObject := by
  rw [bodyOf]
  cases hfind : later.find? isBodyLine with
  | none => rfl
  | some l =>
    have hnone : Json.parse? l = none := by
      rcases h l (find?_isBodyLine_eq_some_iff.1 hfind) with htext | hnone
      · cases hread : Json.parse? l with
        | none => rfl
        | some v => exact absurd (Json.isText_of_parse? hread) htext
      · exact hnone
    rw [Option.bind_some, hnone, Option.getD_none]

/-- What is asked for by a line that starts with the word POST. -/
theorem ofLines_post (fallback : String) (rest : List Char) (later : List (List Char)) :
    ofLines fallback (("POST ".toList ++ rest) :: later) =
      ofPost (String.ofList (Text.trim rest)) later := by
  have hget : Text.stripStart? "GET ".toList ("POST ".toList ++ rest) = none := rfl
  simp only [ofLines, hget, Text.stripStart?_eq_some_iff.2 rfl]

/-- A step of a request line and other lines. -/
def posted (endpoint : String) (later : List String) : String :=
  "\n".intercalate (("POST " ++ endpoint) :: later)

theorem contentLines_posted (h : IsEndpoint endpoint) (later : List String) :
    Text.contentLines (posted endpoint later).toList =
      ("POST ".toList ++ endpoint.toList) :: later.flatMap fun l => Text.contentLines l.toList := by
  have hfirst : Text.contentLines ("POST ".toList ++ endpoint.toList) =
      ["POST ".toList ++ endpoint.toList] := by
    apply Text.contentLines_line (by simp)
    · constructor
      · intro c hc
        obtain rfl : 'P' = c := by simpa using hc
        rfl
      · intro c hc
        apply h.trimmed.last c
        have hne : endpoint.toList ≠ [] := by simpa using h.ne_empty
        rwa [List.getLast?_append_of_ne_nil _ hne] at hc
    · simp [h.one_line]
  rw [posted, Text.contentLines_intercalate, List.flatMap_cons, String.toList_append, hfirst,
    List.singleton_append]

theorem BetweenBraces.isTrimmed (h : BetweenBraces l) : Text.IsTrimmed l where
  head c hc := by
    obtain ⟨rest, rfl⟩ := h.1
    obtain rfl : '\x7b' = c := by simpa using hc
    rfl
  last c hc := by
    obtain ⟨rest, rfl⟩ := h.2
    obtain rfl : '\x7d' = c := by simpa using hc
    rfl

/-- The text of an object on one line is a line between braces. -/
theorem betweenBraces_compact (h : v.isObject = true) : BetweenBraces v.compact.toList := by
  cases v with
  | object fields =>
    obtain ⟨inner, hinner⟩ := Json.exists_inner_write Json.oneLine 0 fields
    rw [Json.Value.compact, String.toList_ofList, hinner]
    exact ⟨⟨inner ++ ['\x7d'], rfl⟩, ⟨'\x7b' :: inner, rfl⟩⟩
  | null | bool | number | string | array => cases h

theorem contentLines_compact (hv : v.IsExact) (hobject : v.isObject = true) :
    Text.contentLines v.compact.toList = [v.compact.toList] := by
  have hbraces := betweenBraces_compact hobject
  apply Text.contentLines_line _ hbraces.isTrimmed (Json.newline_notMem_compact hv)
  obtain ⟨rest, hrest⟩ := hbraces.1
  rw [← hrest]
  simp

/-- An object on one line behind lines of prose is the first line between braces. -/
theorem isFirstBody_compact {prose further : List String}
    (hprose : ∀ l ∈ prose, '\n' ∉ l.toList ∧ ¬ BetweenBraces (Text.trim l.toList))
    (hv : v.IsExact) (hobject : v.isObject = true) :
    IsFirstBody ((prose ++ v.compact :: further).flatMap fun l => Text.contentLines l.toList)
      v.compact.toList where
  betweenBraces := betweenBraces_compact hobject
  first := by
    refine ⟨prose.flatMap fun l => Text.contentLines l.toList,
      further.flatMap fun l => Text.contentLines l.toList, ?_, ?_⟩
    · rw [List.flatMap_append, List.flatMap_cons, contentLines_compact hv hobject,
        List.singleton_append]
    · intro p hp
      obtain ⟨l, hl, hmem⟩ := List.mem_flatMap.1 hp
      obtain ⟨hline, hplain⟩ := hprose l hl
      rw [Text.eq_trim_of_mem_contentLines hline hmem]
      exact hplain

/-- **A step gives exactly the endpoint and the body that are written in it**: the body is an object
on a line of its own, with lines of prose before it and anything behind it. A step whose first line
between braces is no JSON text, or that has no such line, asks to send the empty object. -/
theorem ofStep_posted (fallback : String) :
    (∀ (endpoint : String) (prose : List String) (v : Json.Value) (further : List String),
      IsEndpoint endpoint →
      (∀ l ∈ prose, '\n' ∉ l.toList ∧ ¬ BetweenBraces (Text.trim l.toList)) →
      v.isObject = true → v.IsExact → v.nesting ≤ 127 →
      let i := ofStep fallback (posted endpoint (prose ++ v.compact :: further))
      i.method = .post ∧ i.endpoint = endpoint ∧ i.body = some v) ∧
    ∀ (step : String) (request : List Char) (later : List (List Char)),
      Text.contentLines step.toList = request :: later → "POST ".toList <+: request →
      (∀ l, IsFirstBody later l → ¬ Json.IsText l ∨ Json.parse? l = none) →
      (ofStep fallback step).body = some .emptyObject := by
  constructor
  · intro endpoint prose v further hendpoint hprose hobject hv hdepth
    have hread : Json.parse? v.compact.toList = some v :=
      Json.parse?_compact (Json.Value.reread?_of_isExact hv) hdepth
    rw [ofStep_eq, contentLines_posted hendpoint, ofLines_post, hendpoint.trimmed.trim_eq,
      String.ofList_toList, ofPost, bodyOf_eq (isFirstBody_compact hprose hv hobject) hread]
    exact ⟨rfl, rfl, rfl⟩
  · rintro step _ later hlines ⟨rest, rfl⟩ hbody
    rw [ofStep_eq, hlines, ofLines_post, ofPost, bodyOf_eq_empty hbody]

/-- An object with a line feed, quotes and braces in it. -/
def loginBody : Json.Value :=
  .object [("codes", .array [.number (.whole (-1)), .null]), ("note", .string "\x7b\n\"\x7d")]

theorem isExact_loginBody : loginBody.IsExact := by
  refine .object (by decide) fun f hf => ?_
  obtain rfl | rfl : f = _ ∨ f = _ := by simpa using hf
  · refine .array fun v hv => ?_
    obtain rfl | rfl : v = _ ∨ v = _ := by simpa using hv
    · exact .whole (by decide) (by decide)
    · exact .null
  · exact .string _

theorem ofStep_login :
    (posted "/auth/login" (["as \x7banyone", " \x7b "] ++ loginBody.compact :: ["\x7b\x7d"]) =
        "POST /auth/login\nas \x7banyone\n \x7b \n" ++
          "\x7b\"codes\":[-1,null],\"note\":\"\x7b\\n\\\"\x7d\"\x7d\n\x7b\x7d" ∧
      let i := ofStep defaultEndpoint
        (posted "/auth/login" (["as \x7banyone", " \x7b "] ++ loginBody.compact :: ["\x7b\x7d"]))
      i.method = .post ∧ i.endpoint = "/auth/login" ∧ i.body = some loginBody) ∧
    (ofStep defaultEndpoint "POST /auth/login\n \x7boops\x7d\n\x7b\"a\":1\x7d").body =
      some .emptyObject := by
  obtain ⟨hwritten, hmissing⟩ := ofStep_posted defaultEndpoint
  refine ⟨⟨by decide +kernel, ?_⟩, ?_⟩
  · have hendpoint : IsEndpoint "/auth/login" :=
      ⟨by decide, by decide, Text.isTrimmed_iff.2 (by decide +kernel)⟩
    exact hwritten _ _ _ _ hendpoint (by decide +kernel) rfl isExact_loginBody (by decide)
  · have hlines : Text.contentLines "POST /auth/login\n \x7boops\x7d\n\x7b\"a\":1\x7d".toList =
        ["POST /auth/login".toList, "\x7boops\x7d".toList, "\x7b\"a\":1\x7d".toList] := by
      decide +kernel
    apply hmissing _ _ _ hlines ⟨"/auth/login".toList, rfl⟩
    intro l hl
    have hfind := find?_isBodyLine_eq_some_iff.2 hl
    rw [show List.find? isBodyLine _ = some "\x7boops\x7d".toList by decide +kernel] at hfind
    cases hfind
    exact Or.inl (Json.not_isText_of_mem (c := 'o') (by decide) (by decide) (by decide))

end Intent
end CaseSheet

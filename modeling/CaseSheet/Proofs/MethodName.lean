import CaseSheet.Http.Exchange
import CaseSheet.Proofs.Capital
/-!
# Which methods are sent

A call names its method by a text. The text is compared in capitals, and so it is read as a method
where it is the name of one in any case of ASCII letters, with blanks around it. But ASCII letters
are not alone in having ASCII capitals: POST may have a long s, or a ligature of s and t in it. A
text that is read as no method sends nothing.

* `Method.ofText?_eq_some_iff`: the texts that are read as a method.
* `Call.execute_of_method`, `Call.execute_of_no_method`: what a call does for them, and for others.
* `Call.keepsToNames_iff`: the calls that are sent by the names of the methods alone.
* `Call.longS_is_sent`: a long s in POST breaks this.
-/
namespace CaseSheet.Http

open Text (foldAscii sameAsciiFold upper)

namespace Method

variable {m : Method} {text : String}

/-- A text is the name of a method, in any case of ASCII letters and with blanks around it. -/
def IsNamedBy (m : Method) (text : String) : Prop := sameAsciiFold (trimmed text) m.name = true

instance (m : Method) (text : String) : Decidable (m.IsNamedBy text) :=
  inferInstanceAs (Decidable (_ = true))

/-- The spellings of POST with a long s, which is a letter of its own or joined with the t. -/
def longSpellings : List String := ["POſT", "POﬅ", "POﬆ"]

/-- A text is POST with a long s, the ASCII letters in any case and with blanks around it. -/
def IsPostWithLongS (text : String) : Prop :=
  ∃ s ∈ longSpellings, sameAsciiFold (trimmed text) s = true

instance (text : String) : Decidable (IsPostWithLongS text) :=
  List.decidableBEx _ longSpellings

theorem upper_eq_post_iff {cs : List Char} :
    upper cs = post.name.toList ↔ cs.map foldAscii ∈ Text.stForms.map ("po".toList ++ ·) := by
  have hsplit : post.name.toList = "PO".toList ++ ['S', 'T'] := rfl
  have hst : Text.IsAscii ['S', 'T'] := by decide
  rw [hsplit, Text.upper_eq_append_iff rfl hst]
  simp only [Text.upper_eq_st_iff]
  constructor
  · rintro ⟨front, back, rfl, hfront, hback⟩
    rw [List.map_append, hfront]
    exact List.mem_map_of_mem hback
  · intro h
    obtain ⟨form, hform, heq⟩ := List.mem_map.1 h
    obtain ⟨front, back, rfl, hfront, hback⟩ := List.map_eq_append_iff.1 heq.symm
    exact ⟨front, back, rfl, hfront, hback ▸ hform⟩

/-- The texts with the name of a method for their capitals. -/
theorem upper_eq_name_iff {cs : List Char} :
    upper cs = m.name.toList ↔ cs.map foldAscii = m.name.toList.map foldAscii ∨
      m = post ∧ ∃ s ∈ longSpellings, cs.map foldAscii = s.toList.map foldAscii := by
  cases m with
  | get => simpa using Text.upper_eq_iff_of_plain (w := get.name.toList) rfl
  | put => simpa using Text.upper_eq_iff_of_plain (w := put.name.toList) rfl
  | delete => simpa using Text.upper_eq_iff_of_plain (w := delete.name.toList) rfl
  | post =>
    have hforms : Text.stForms.map ("po".toList ++ ·) =
        post.name.toList.map foldAscii :: longSpellings.map (·.toList.map foldAscii) := by decide
    rw [upper_eq_post_iff, hforms, List.mem_cons, List.mem_map, and_iff_right rfl]
    simp only [eq_comm]

theorem ofText?_eq_some_iff_upper :
    ofText? text = some m ↔ upper (Text.trim text.toList) = m.name.toList := by
  rw [ofText?]
  constructor
  · intro h
    simpa using List.find?_some h
  · intro h
    cases m <;> simp [all, h, name]

/-- **The texts that are read as a method**: its names and, for POST, those with a long s. -/
theorem ofText?_eq_some_iff :
    ofText? text = some m ↔ m.IsNamedBy text ∨ m = post ∧ IsPostWithLongS text := by
  rw [ofText?_eq_some_iff_upper, upper_eq_name_iff]
  simp only [IsNamedBy, IsPostWithLongS, Text.sameAsciiFold_iff, toList_trimmed]

/-- A long s is in no name. -/
theorem not_isNamedBy_of_longS (h : IsPostWithLongS text) (m : Method) : ¬ m.IsNamedBy text := by
  obtain ⟨s, hs, hsame⟩ := h
  have hother : ∀ s ∈ longSpellings, s.toList.map foldAscii ≠ m.name.toList.map foldAscii := by
    cases m <;> decide
  rw [Text.sameAsciiFold_iff] at hsame
  rw [IsNamedBy, Text.sameAsciiFold_iff, hsame]
  exact hother s hs

end Method

namespace Call

section

variable [Url.Idna] {c : Call} {send : Transport} {timeout : Span} {session : Session}
  {sent : List Request} {m : Method} {url : Url}

/-- The request of a call whose method and URL are known. -/
def requestTo (c : Call) (timeout : Span) (session : Session) (m : Method) (url : Url) : Request :=
  { method := m, url, headers := .build c.headers session.token, body := c.body, timeout }

/-- A call sends a request just if its method is named, and with the method that is named; a text
that is no name is reported as it is, and nothing is sent for it. -/
structure KeepsToNames (c : Call) (send : Transport) (timeout : Span) (session : Session)
    (sent : List Request) : Prop where
  sends_iff : (∃ q, (c.execute send timeout session sent).2 = sent ++ [q]) ↔
    ∃ m : Method, m.IsNamedBy c.method
  method_eq : ∀ q m, (c.execute send timeout session sent).2 = sent ++ [q] →
    m.IsNamedBy c.method → q.method = m
  refuses : (∀ m : Method, ¬ m.IsNamedBy c.method) →
    c.execute send timeout session sent =
      ({ matched := false
         response := .failed .unsupportedMethod ("unsupported HTTP method: " ++ c.method) }, sent)

/-- A text that is read as a method sends one request, with this method. -/
theorem execute_of_method (hm : Method.ofText? c.method = some m)
    (hurl : resolve session.baseUrl c.endpoint = .ok url) :
    c.execute send timeout session sent =
      (.ofReply c.expectedStatus (c.requestTo timeout session m url)
        (send sent (c.requestTo timeout session m url)),
      sent ++ [c.requestTo timeout session m url]) := by
  rw [execute, request, hm, hurl]
  rfl

/-- A text that is read as no method is reported, and nothing is sent. -/
theorem execute_of_no_method (hm : Method.ofText? c.method = none) :
    c.execute send timeout session sent =
      ({ matched := false
         response := .failed .unsupportedMethod ("unsupported HTTP method: " ++ c.method) },
        sent) := by
  rw [execute, request, hm]
  rfl

theorem sent_of_isNamedBy (hm : m.IsNamedBy c.method)
    (hurl : resolve session.baseUrl c.endpoint = .ok url) :
    (c.execute send timeout session sent).2 = sent ++ [c.requestTo timeout session m url] := by
  rw [execute_of_method (Method.ofText?_eq_some_iff.2 (.inl hm)) hurl]

/-- POST with a long s is no name, and it is sent. -/
theorem sent_of_longS (h : Method.IsPostWithLongS c.method)
    (hurl : resolve session.baseUrl c.endpoint = .ok url) :
    (c.execute send timeout session sent).2 =
      sent ++ [c.requestTo timeout session .post url] := by
  rw [execute_of_method (Method.ofText?_eq_some_iff.2 (.inr ⟨rfl, h⟩)) hurl]

theorem execute_of_no_name (hno : ∀ m : Method, ¬ m.IsNamedBy c.method)
    (hlong : ¬ Method.IsPostWithLongS c.method) :
    c.execute send timeout session sent =
      ({ matched := false
         response := .failed .unsupportedMethod ("unsupported HTTP method: " ++ c.method) },
        sent) := by
  refine execute_of_no_method (Option.eq_none_iff_forall_ne_some.2 fun m hm => ?_)
  rcases Method.ofText?_eq_some_iff.1 hm with hname | ⟨-, h⟩
  · exact hno m hname
  · exact hlong h

/-- **Only the names of methods are sent**, of calls whose endpoint resolves, unless a call names
POST with a long s: that one is sent as a POST. -/
theorem keepsToNames_iff (c : Call) (send : Transport) (timeout : Span) (session : Session)
    (sent : List Request) (hurl : resolve session.baseUrl c.endpoint = .ok url) :
    (c.KeepsToNames send timeout session sent ↔ ¬ Method.IsPostWithLongS c.method) ∧
    (Method.IsPostWithLongS c.method →
      ∃ q, (c.execute send timeout session sent).2 = sent ++ [q] ∧ q.method = .post) := by
  refine ⟨⟨?_, ?_⟩, fun h => ⟨_, sent_of_longS h hurl, rfl⟩⟩
  · intro hkeeps h
    obtain ⟨m, hm⟩ := hkeeps.sends_iff.1 ⟨_, sent_of_longS h hurl⟩
    exact Method.not_isNamedBy_of_longS h m hm
  · intro hlong
    refine ⟨⟨?_, fun ⟨m, hm⟩ => ⟨_, sent_of_isNamedBy hm hurl⟩⟩, ?_, ?_⟩
    · rintro ⟨q, hq⟩
      by_contra hno
      rw [execute_of_no_name (not_exists.1 hno) hlong] at hq
      exact absurd (List.self_eq_append_right.1 hq) (List.cons_ne_nil q [])
    · intro q m hq hm
      rw [sent_of_isNamedBy hm hurl, List.append_cancel_left_eq, List.cons.injEq] at hq
      rw [← hq.1]
      rfl
    · exact fun hno => execute_of_no_name hno hlong

end

/-- A call for `/x` that expects 200 and brings nothing with it. -/
def bare (method : String) : Call :=
  { method, endpoint := "/x", body := none, headers := [], expectedStatus := 200 }

/-- A server that takes requests and never answers. -/
def silent : Transport := fun _ _ => .error (.timeout "30s")

/-- A name in small letters behind a tab keeps to the names, a ligature does not. -/
theorem keepsToNames_put :
    (bare "\tput").KeepsToNames silent defaultTimeout (.start "http://localhost:3000") [] ∧
    ∃ q, ((bare "POﬆ").execute silent defaultTimeout (.start "http://localhost:3000") []).2 =
      [q] ∧ q.method = .post := by
  have hurl : resolve "http://localhost:3000" "/x" =
      .ok ⟨"http".toList, some ⟨[], [], .domain "localhost".toList, some 3000⟩,
        .segments ["x".toList], none, none⟩ := rfl
  have hname : ¬ Method.IsPostWithLongS "\tput" := by decide
  have hlong : Method.IsPostWithLongS "POﬆ" := by decide
  exact ⟨(keepsToNames_iff (bare "\tput") silent defaultTimeout (.start _) [] hurl).1.2 hname,
    (keepsToNames_iff (bare "POﬆ") silent defaultTimeout (.start _) [] hurl).2 hlong⟩

/-- With a long s the text is no name of a method, and it is sent as a POST. -/
theorem longS_is_sent :
    (¬ ∃ m : Method, m.IsNamedBy (bare "poſt").method) ∧
    ∃ q, ((bare "poſt").execute silent defaultTimeout (.start "http://localhost:3000") []).2 =
      [q] ∧ q.method = .post := by
  have hlong : Method.IsPostWithLongS "poſt" := by decide
  exact ⟨fun ⟨m, hm⟩ => Method.not_isNamedBy_of_longS hlong m hm, _, sent_of_longS hlong rfl, rfl⟩

end Call
end CaseSheet.Http

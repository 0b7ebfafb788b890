import CaseSheet.Proofs.Url.Plain
import CaseSheet.Proofs.Url.Server
/-!
# Endpoints below a base

A plain base is written the way it is read: in small letters, without a port that goes without
saying, and without anything that would have to be encoded. So is a plain endpoint, of segments that
slashes part and a query behind them. The one is put behind the other with a slash between them, and
nothing of either gets lost on the way through the parts of a URL.

* `Url.PlainBase.parse_front`: a plain base comes apart into what it was written from.
* `Url.PlainBase.join_plain`: a plain reference goes behind the path of its base.
* `Http.resolve_plain`: a plain endpoint below a plain base.
-/
namespace CaseSheet

namespace Url

variable {c : Char} {rest : List Char} {segments : List (List Char)}

/-! ## Plain bases and endpoints -/

/-- A query with the question mark before it. -/
def queryText : Option (List Char) → List Char
  | none => []
  | some q => '?' :: q

/-- An endpoint in the form in which it is written: plain segments, or nothing, between slashes, of
which some may stand in front, and a query of plain characters, equals signs and ampersands. -/
structure PlainEndpoint where
  path : List Char
  query : Option (List Char)
  isPath : ∀ c ∈ path, isPlain c = true ∨ c = '/'
  isQuery : ∀ q ∈ query, ∀ c ∈ q, isPlain c = true ∨ c = '=' ∨ c = '&'

def PlainEndpoint.write (e : PlainEndpoint) : List Char := e.path ++ queryText e.query

def PlainEndpoint.text (e : PlainEndpoint) : String := String.ofList e.write

/-- A base URL in the form in which it is written: a scheme of the web, a host whose labels are made
of small letters, a port unless it is the one that the scheme implies, and segments of plain
characters. -/
structure PlainBase where
  scheme : List Char
  labels : List (List Char)
  port : Option Nat
  segments : List (List Char)
  isWeb : IsWeb scheme
  labels_ne_nil : labels ≠ []
  isLabel : ∀ l ∈ labels, l ≠ [] ∧ ∀ c ∈ l, isSmall c = true
  isPort : ∀ n ∈ port, 1 ≤ n ∧ n ≤ 65535 ∧ defaultPort? scheme ≠ some n
  isSegment : ∀ s ∈ segments, s ≠ [] ∧ ∀ c ∈ s, isPlain c = true

namespace PlainBase

variable (b : PlainBase)

def host : List Char := Text.joinWith ['.'] b.labels

/-- The port with the colon before it. -/
def portText : List Char :=
  match b.port with
  | none => []
  | some n => ':' :: Digits.ofNat n

/-- The text in front of the path. -/
def front : List Char := b.scheme ++ "://".toList ++ b.host ++ b.portText

/-- The text of a base; it does not end in a slash. -/
def write : List Char := b.front ++ b.segments.flatMap ('/' :: ·)

def text : String := String.ofList b.write

/-- What a base says about where to connect to. -/
def authority : Authority where
  username := []
  password := []
  host := .domain b.host
  port := b.port

/-- A URL on the server of a base. -/
def urlOf (segments : List (List Char)) (query : Option (List Char)) : Url where
  scheme := b.scheme
  authority := some b.authority
  path := .segments segments
  query := query
  fragment := none

/-! ## The host of a base -/

theorem splitAll_host : Text.splitAll '.' b.host = b.labels :=
  Text.splitAll_joinWith b.labels_ne_nil fun l hl hdot =>
    absurd ((b.isLabel l hl).2 _ hdot) (by decide)

/-- The last label of a host starts with a small letter, so the host is no address. -/
theorem endsInNumber_host : endsInNumber b.host = false := by
  rw [endsInNumber, splitAll_host]
  obtain ⟨init, last, hlabels⟩ := (List.eq_nil_or_concat' b.labels).resolve_left b.labels_ne_nil
  obtain ⟨hlast, hsmall⟩ := b.isLabel last (by simp [hlabels])
  obtain ⟨c, cs, rfl⟩ := List.exists_cons_of_ne_nil hlast
  have hc := hsmall c List.mem_cons_self
  simp [hlabels, (value?_of_isSmall hc).1, ipv4Part?_of_isSmall hc]

theorem host_ne_nil : b.host ≠ [] := by
  intro hnil
  have hsplit := b.splitAll_host
  rw [hnil] at hsplit
  exact (b.isLabel [] (hsplit ▸ List.mem_cons_self)).1 rfl

theorem isHostChar_of_mem_host (hc : c ∈ b.host) : isHostChar c = true := by
  have hmem : c ∈ (Text.splitAll '.' b.host).flatMap ('.' :: ·) := by
    rw [Text.flatMap_splitAll]
    exact List.mem_cons_of_mem _ hc
  rw [splitAll_host] at hmem
  obtain ⟨l, hl, hmem⟩ := List.mem_flatMap.1 hmem
  rcases List.mem_cons.1 hmem with rfl | hmem
  · rfl
  · simp [isHostChar, (b.isLabel l hl).2 c hmem]

/-- **A plain host** is a domain, spelled as it is written. -/
theorem parse_host [Idna] : Host.parse b.host = .ok (.domain b.host) := by
  have hchar : ∀ c ∈ b.host, isHostChar c = true := fun c => b.isHostChar_of_mem_host
  have hchars : byteChars (decode b.host) = b.host := byteChars_decode fun c hc =>
    ⟨isVisible_of_isHostChar (hchar c hc), (foldAscii_of_isHostChar (hchar c hc)).1⟩
  have hascii : (b.host.any fun c => decide (0x80 ≤ c.toNat)) = false := by
    rw [List.any_eq_false]
    intro c hc
    have hlt := (isVisible_of_isHostChar (hchar c hc)).2
    rw [decide_eq_true_eq]
    omega
  have hlabels : b.labels.any isPunycode = false := by
    rw [List.any_eq_false]
    intro l hl
    rw [isPunycode_of_isSmall (b.isLabel l hl).2]
    exact Bool.false_ne_true
  have hsmall : b.host.map Text.foldAscii = b.host :=
    (List.map_congr_left fun c hc => (foldAscii_of_isHostChar (hchar c hc)).2.1).trans
      (List.map_id _)
  have hallowed : b.host.any isForbiddenInDomain = false := by
    rw [List.any_eq_false]
    intro c hc
    rw [(foldAscii_of_isHostChar (hchar c hc)).2.2]
    exact Bool.false_ne_true
  have hname : nameOf? (decode b.host) = some b.host := by
    simp only [nameOf?, isInternational, smallName?, hchars, hascii, splitAll_host, hlabels, hsmall,
      hallowed, Bool.or_self, Bool.false_eq_true, if_false]
  unfold Host.parse
  split
  · next heq => exact absurd (hchar '[' (by simp [heq])) (by decide)
  · simp only [hname, b.endsInNumber_host]
    simp [b.host_ne_nil]

/-! ## The parts of a base -/

/-- The text of a URL on the server of the base starts like the base. -/
theorem write_urlOf (segments : List (List Char)) (query : Option (List Char)) :
    (b.urlOf segments query).write =
      b.front ++ segments.flatMap ('/' :: ·) ++ queryText query := by
  have hauthority : b.authority.write = b.host ++ b.portText := rfl
  unfold Url.write
  simp only [urlOf, hauthority, front, Path.write]
  cases query <;> simp [queryText]

theorem of_mem_portText (hc : c ∈ b.portText) : c = ':' ∨ Digits.isDigit c = true := by
  unfold portText at hc
  split at hc
  · cases hc
  · rcases List.mem_cons.1 hc with rfl | hc
    · exact .inl rfl
    · exact .inr (Digits.isDigit_of_mem_ofNat hc)

/-- A host and a port hold nothing at which an authority is cut. -/
theorem of_mem_host_port (hc : c ∈ b.host ++ b.portText) :
    IsVisible c ∧ (!(isSlash true c || isPathEnd c)) = true ∧ c ≠ '@' := by
  rcases List.mem_append.1 hc with hc | hc
  · have hchar := b.isHostChar_of_mem_host hc
    have hvisible := isVisible_of_isHostChar hchar
    exact ⟨hvisible, hvisible.of_ascii (p := fun c => isHostChar c = true →
      (!(isSlash true c || isPathEnd c)) = true ∧ c ≠ '@') (by decide) hchar⟩
  · rcases b.of_mem_portText hc with rfl | hdigit
    · exact ⟨⟨by decide, by decide⟩, by decide, by decide⟩
    · have hvisible := isVisible_of_isPlain (isPlain_of_isDigit hdigit)
      exact ⟨hvisible, hvisible.of_ascii (p := fun c => Digits.isDigit c = true →
        (!(isSlash true c || isPathEnd c)) = true ∧ c ≠ '@') (by decide) hdigit⟩

/-- The host and the port of a base are read up to the slash of its path. -/
theorem parseAuthority_front [Idna] (hrest : ∀ c ∈ rest.head?, c = '/') :
    parseAuthority b.scheme (b.host ++ b.portText ++ rest) = .ok (b.authority, rest) := by
  have hspan : (b.host ++ b.portText ++ rest).span (fun c => !(isSlash true c || isPathEnd c)) =
      (b.host ++ b.portText, rest) :=
    span_append (fun c hc => (b.of_mem_host_port hc).2.1) fun c hc => by rw [hrest c hc]; rfl
  have hcredentials := splitCredentials_of_notMem fun hmem => (b.of_mem_host_port hmem).2.2 rfl
  have hhost : ∀ c ∈ b.host, c ≠ ':' ∧ c ≠ '[' ∧ c ≠ ']' := by
    intro c hc
    have hchar := b.isHostChar_of_mem_host hc
    exact (isVisible_of_isHostChar hchar).of_ascii (p := fun c => isHostChar c = true →
      c ≠ ':' ∧ c ≠ '[' ∧ c ≠ ']') (by decide) hchar
  have hnonempty : b.host.isEmpty = false := by simpa using b.host_ne_nil
  have hdomain : (Host.domain b.host).isEmpty = false := hnonempty
  have hnoUser : parseCredentials [] = ([], []) := rfl
  unfold parseAuthority
  simp only [b.isWeb.kindOf, SchemeKind.isSpecial, hspan, hcredentials]
  cases hport : b.port with
  | none =>
    simp [portText, hport, splitHost_of_forall hhost, b.parse_host, authority, hnonempty, hdomain,
      hnoUser, bind, Except.bind, pure, Except.pure]
  | some n =>
    obtain ⟨-, hrange, hdefault⟩ := b.isPort n hport
    simp [portText, hport, splitHost_append hhost, b.parse_host, parsePort_ofNat hrange hdefault,
      authority, hnonempty, hdomain, hnoUser, bind, Except.bind, pure, Except.pure]

/-- The text in front of a plain path is visible, and so is the path. -/
theorem isVisible_of_mem_front (hc : c ∈ b.front) : IsVisible c := by
  rw [front, List.append_assoc, List.mem_append] at hc
  rcases hc with hc | hc
  · have hscheme : ∀ c ∈ b.scheme ++ "://".toList, IsVisible c := by
      rcases b.isWeb with hweb | hweb
      · rw [hweb]; exact isVisible_of_all (by decide)
      · rw [hweb]; exact isVisible_of_all (by decide)
    exact hscheme c hc
  · exact (b.of_mem_host_port hc).1

theorem isVisible_of_mem_path (h : ∀ s ∈ segments, ∀ c ∈ s, isPlain c = true)
    (hc : c ∈ segments.flatMap ('/' :: ·)) : IsVisible c := by
  rcases of_mem_path h hc with hplain | rfl
  · exact isVisible_of_isPlain hplain
  · exact ⟨by decide, by decide⟩

/-- **A base with plain segments** comes apart into its parts; without a segment it has an empty
one. -/
theorem parse_front [Idna] (h : ∀ s ∈ segments, ∀ c ∈ s, isPlain c = true) :
    parse (b.front ++ segments.flatMap ('/' :: ·)) =
      .ok (b.urlOf (if segments = [] then [[]] else segments) none) := by
  have hvisible : ∀ c ∈ b.front ++ segments.flatMap ('/' :: ·), IsVisible c := by
    intro c hc
    rcases List.mem_append.1 hc with hc | hc
    · exact b.isVisible_of_mem_front hc
    · exact isVisible_of_mem_path h hc
  have hscheme : scheme? (b.front ++ segments.flatMap ('/' :: ·)) =
      some (b.scheme, '/' :: '/' :: (b.host ++ b.portText ++ segments.flatMap ('/' :: ·))) := by
    rw [front]
    rcases b.isWeb with hweb | hweb
    · rw [hweb]; simp only [List.append_assoc]; rfl
    · rw [hweb]; simp only [List.append_assoc]; rfl
  have hslashes : ('/' :: '/' :: (b.host ++ b.portText ++ segments.flatMap ('/' :: ·))).dropWhile
      (isSlash true) = b.host ++ b.portText ++ segments.flatMap ('/' :: ·) := by
    obtain ⟨c, cs, hhost⟩ := List.exists_cons_of_ne_nil b.host_ne_nil
    have hc := (b.of_mem_host_port (c := c) (by simp [hhost])).2.1
    have hslash : isSlash true c = false := by
      rw [Bool.not_eq_true', Bool.or_eq_false_iff] at hc
      exact hc.1
    rw [List.dropWhile_cons_of_pos (by decide), List.dropWhile_cons_of_pos (by decide), hhost]
    exact List.dropWhile_cons_of_neg (by simp [hslash])
  have hhead : ∀ c ∈ (segments.flatMap ('/' :: ·)).head?, c = '/' := by
    cases segments with
    | nil => simp
    | cons s ss => simp [eq_comm]
  have hcut : cut (segments.flatMap ('/' :: ·)) = ⟨segments.flatMap ('/' :: ·), none, none⟩ :=
    cut_of_forall fun c hc => isPathEnd_of_path (of_mem_path h hc)
  rw [parse, read, clean_of_isVisible hvisible, hscheme]
  dsimp only
  rw [parseBehindScheme, b.isWeb.kindOf]
  dsimp only
  rw [hslashes, parseBehindSlashes, b.parseAuthority_front hhead]
  simp only [bind, Except.bind, hcut, b.isWeb.kindOf, pathBehindAuthority_plain h]
  rfl

/-! ## The slash at the end -/

theorem endsWith_slash (l : List Char) (c : Char) :
    Text.endsWith ['/'] (l ++ [c]) = ('/' == c) := by
  by_cases hc : '/' = c
  · subst hc
    simp [Text.endsWith, Text.startsWith, Text.stripStart?]
  · simp [Text.endsWith, Text.startsWith, Text.stripStart?, hc]

/-- A path whose last segment is empty ends in a slash. -/
theorem withFinalSlash_slash (segments : List (List Char)) :
    (b.urlOf (segments ++ [[]]) none).withFinalSlash = b.urlOf (segments ++ [[]]) none := by
  have hwrite : (b.urlOf (segments ++ [[]]) none).path.write =
      segments.flatMap ('/' :: ·) ++ ['/'] := by
    simp [urlOf, Path.write]
  rw [withFinalSlash, hwrite, endsWith_slash, if_pos (by decide)]

/-- Any other path gets an empty segment at its end. -/
theorem withFinalSlash_segment (segments : List (List Char)) {last : List Char}
    (hne : last ≠ []) (hslash : '/' ∉ last) :
    (b.urlOf (segments ++ [last]) none).withFinalSlash =
      b.urlOf (segments ++ [last] ++ [[]]) none := by
  obtain ⟨cs, c, rfl⟩ := (List.eq_nil_or_concat' last).resolve_left hne
  have hwrite : (b.urlOf (segments ++ [cs ++ [c]]) none).path.write =
      segments.flatMap ('/' :: ·) ++ '/' :: cs ++ [c] := by
    simp [urlOf, Path.write]
  have hc : ('/' == c) = false := by
    rw [beq_eq_false_iff_ne]
    rintro rfl
    exact hslash (by simp)
  rw [withFinalSlash, hwrite, endsWith_slash, hc, if_neg Bool.false_ne_true]
  rfl

theorem isPlain_of_mem_segments : ∀ s ∈ b.segments, ∀ c ∈ s, isPlain c = true :=
  fun s hs => (b.isSegment s hs).2

/-- A base as it is written gets a slash at its end. -/
theorem parse_write [Idna] : ∃ u, parse b.write = .ok u ∧
    u.withFinalSlash = b.urlOf (b.segments ++ [[]]) none := by
  refine ⟨_, b.parse_front b.isPlain_of_mem_segments, ?_⟩
  rcases List.eq_nil_or_concat' b.segments with hnil | ⟨init, last, hsegments⟩
  · rw [hnil, if_pos rfl]
    exact b.withFinalSlash_slash []
  · obtain ⟨hne, hplain⟩ := b.isSegment last (by simp [hsegments])
    rw [hsegments, if_neg (by simp)]
    exact b.withFinalSlash_segment init hne fun hmem => absurd (hplain _ hmem) (by decide)

/-- A base that is written with a slash at its end keeps it. -/
theorem parse_write_slash [Idna] : ∃ u, parse (b.write ++ ['/']) = .ok u ∧
    u.withFinalSlash = b.urlOf (b.segments ++ [[]]) none := by
  have hplain : ∀ s ∈ b.segments ++ [[]], ∀ c ∈ s, isPlain c = true := by
    intro s hs
    rcases List.mem_append.1 hs with hs | hs
    · exact b.isPlain_of_mem_segments s hs
    · rw [List.mem_singleton.1 hs]
      intro c hc
      cases hc
  have hparse := b.parse_front hplain
  rw [if_neg (by simp)] at hparse
  refine ⟨_, ?_, b.withFinalSlash_slash b.segments⟩
  rw [← hparse]
  simp [write]

end PlainBase

/-! ## References -/

namespace PlainEndpoint

variable (e : PlainEndpoint)

/-- What stands in a plain endpoint, its slashes and signs included. -/
theorem of_mem_write (hc : c ∈ e.write) :
    isPlain c = true ∨ c = '/' ∨ c = '?' ∨ c = '=' ∨ c = '&' := by
  rcases List.mem_append.1 hc with hc | hc
  · rcases e.isPath c hc with hplain | hslash
    · exact .inl hplain
    · exact .inr (.inl hslash)
  · cases hquery : e.query with
    | none =>
      rw [hquery] at hc
      cases hc
    | some q =>
      rw [hquery] at hc
      rcases List.mem_cons.1 hc with hmark | hc
      · exact .inr (.inr (.inl hmark))
      · rcases e.isQuery q hquery c hc with hplain | hsign
        · exact .inl hplain
        · exact .inr (.inr (.inr hsign))

theorem isVisible_of_mem_write (hc : c ∈ e.write) : IsVisible c ∧ c ≠ ':' ∧ c ≠ '#' := by
  rcases e.of_mem_write hc with hplain | rfl | rfl | rfl | rfl
  · exact ⟨isVisible_of_isPlain hplain, ne_of_isPlain hplain (by decide),
      ne_of_isPlain hplain (by decide)⟩
  all_goals exact ⟨⟨by decide, by decide⟩, by decide, by decide⟩

theorem clean_write : clean e.write = e.write :=
  clean_of_isVisible fun _ hc => (e.isVisible_of_mem_write hc).1

theorem scheme?_write : scheme? e.write = none :=
  scheme?_of_notMem fun hmem => (e.isVisible_of_mem_write hmem).2.1 rfl

theorem cut_write : cut e.write = ⟨e.path, e.query, none⟩ := by
  have hpath : ∀ c ∈ e.path, isPathEnd c = false := fun c hc => isPathEnd_of_path (e.isPath c hc)
  rw [write]
  cases hquery : e.query with
  | none =>
    rw [queryText, List.append_nil]
    exact cut_of_forall hpath
  | some q =>
    refine cut_query hpath fun hmem => ?_
    exact (e.isVisible_of_mem_write (c := '#') (by simp [write, hquery, queryText, hmem])).2.2 rfl

/-- The query of a plain endpoint is written as it is. -/
theorem encodeQuery_query : e.query.map (encodeQuery .special) = e.query := by
  cases hquery : e.query with
  | none => rfl
  | some q =>
    refine congrArg some (encode_of_forall fun c hc => ?_)
    rcases e.isQuery q hquery c hc with hplain | rfl | rfl
    · exact (sets_of_isPlain hplain).2
    · rfl
    · rfl

/-- What is left of a plain endpoint without the slashes in front. -/
def reference : PlainEndpoint where
  path := e.path.dropWhile (· == '/')
  query := e.query
  isPath := fun c hc => e.isPath c ((List.dropWhile_suffix _).subset hc)
  isQuery := e.isQuery

theorem write_reference : e.reference.write = e.write.dropWhile (· == '/') := by
  have hquery : (queryText e.query).dropWhile (· == '/') = queryText e.query := by
    cases e.query <;> rfl
  have hwrite : e.reference.write = e.path.dropWhile (· == '/') ++ queryText e.query := rfl
  rw [hwrite, write, List.dropWhile_append, hquery]
  split
  · next hempty => rw [List.isEmpty_iff.1 hempty, List.nil_append]
  · rfl

theorem head?_reference (hc : c ∈ e.reference.path.head?) : c ≠ '/' := by
  have hhead := List.head?_dropWhile_not (· == '/') e.path
  change c ∈ (e.path.dropWhile (· == '/')).head? at hc
  rw [hc] at hhead
  simpa using hhead

end PlainEndpoint

/-- A reference that starts with a plain character goes below the path of its base. -/
theorem parseRelative_of_isPlain [Idna] {base : Url} {list : List (List Char)}
    (hpath : base.path = .segments list) (hc : isPlain c = true) (cs : List Char) :
    parseRelative base (c :: cs) =
      .ok (withTail (cut (c :: cs)) base.scheme base.authority
        (pathUnder (kindOf base.scheme) list.dropLast (cut (c :: cs)).front)) := by
  have hquery : c ≠ '?' := ne_of_isPlain hc (by decide)
  have hhash : c ≠ '#' := ne_of_isPlain hc (by decide)
  have hslash : c ≠ '/' := ne_of_isPlain hc (by decide)
  have hback : c ≠ '\\' := ne_of_isPlain hc (by decide)
  rw [parseRelative, hpath]
  simp only [hquery, hhash, hslash, hback, or_self, if_false]

/-- **A plain reference** goes behind the segments of the base. -/
theorem PlainBase.join_plain [Idna] (b : PlainBase) (e : PlainEndpoint)
    (hhead : ∀ c ∈ e.path.head?, c ≠ '/') :
    (b.urlOf (b.segments ++ [[]]) none).join e.write =
      .ok (b.urlOf (b.segments ++ Text.splitAll '/' e.path) e.query) := by
  have htail : ∀ list, withTail (cut e.write) b.scheme (some b.authority) (.segments list) =
      b.urlOf list e.query := by
    intro list
    rw [e.cut_write, withTail, b.isWeb.kindOf, e.encodeQuery_query]
    rfl
  have hkind : kindOf (b.urlOf (b.segments ++ [[]]) none).scheme = .special := b.isWeb.kindOf
  rw [join_of_no_scheme hkind rfl (e.clean_write.symm ▸ e.scheme?_write), e.clean_write, ← htail]
  cases hpath : e.path with
  | nil =>
    -- The path is that of the base, up to its final slash.
    have hwrite : e.write = queryText e.query := by rw [PlainEndpoint.write, hpath, List.nil_append]
    rw [hwrite]
    cases e.query <;> rfl
  | cons c path =>
    have hwrite : e.write = c :: (path ++ queryText e.query) := by
      rw [PlainEndpoint.write, hpath, List.cons_append]
    have hc : isPlain c = true := by
      refine (e.isPath c (hpath ▸ List.mem_cons_self)).resolve_right (hhead c ?_)
      rw [hpath]
      rfl
    have hfront : (cut (c :: (path ++ queryText e.query))).front = e.path := by
      rw [← hwrite, e.cut_write]
    rw [hwrite, parseRelative_of_isPlain rfl hc, hfront, hkind, List.dropLast_concat,
      pathUnder_plain e.isPath, hpath]
    rfl

end Url

namespace Http

open Url (PlainBase PlainEndpoint)

/-- An endpoint below a base that is read with a slash at the end of its path. -/
theorem resolve_of_withFinalSlash [Url.Idna] (b : PlainBase) (e : PlainEndpoint) {base : String}
    {u : Url} (hparse : Url.parse base.toList = .ok u)
    (hslash : u.withFinalSlash = b.urlOf (b.segments ++ [[]]) none) :
    (resolve base e.text).map Url.text =
      .ok (b.text ++ "/" ++ String.ofList (e.write.dropWhile (· == '/'))) := by
  have hown : HasNoHost e.text := by
    intro own hown
    rw [PlainEndpoint.text, String.toList_ofList, Url.parse, Url.read, e.clean_write,
      e.scheme?_write] at hown
    cases hown
  have hreference : reference e.text = e.reference.write := by
    rw [reference, PlainEndpoint.text, String.toList_ofList,
      Url.trim_of_isVisible fun c hc => (e.isVisible_of_mem_write hc).1, e.write_reference]
  rw [resolve_of_hasNoHost hown hparse, hreference, hslash,
    b.join_plain e.reference fun c => e.head?_reference]
  have hwrite : (b.urlOf (b.segments ++ Text.splitAll '/' e.reference.path)
      e.reference.query).write = b.write ++ '/' :: e.reference.write := by
    rw [b.write_urlOf, List.flatMap_append, Text.flatMap_splitAll]
    simp [PlainBase.write, PlainEndpoint.write]
  rw [Except.map, Url.text, hwrite, e.write_reference, PlainBase.text, List.append_cons,
    String.ofList_append, String.ofList_append]

/-- **A plain endpoint below a plain base**: whether the base is given without a slash at its end or
with one, the URL is the text of the base, a slash, and the endpoint without the slashes in front of
it. -/
theorem resolve_plain [Url.Idna] (b : PlainBase) (e : PlainEndpoint) :
    (resolve b.text e.text).map Url.text =
      .ok (b.text ++ "/" ++ String.ofList (e.write.dropWhile (· == '/'))) ∧
    (resolve (b.text ++ "/") e.text).map Url.text =
      .ok (b.text ++ "/" ++ String.ofList (e.write.dropWhile (· == '/'))) := by
  constructor
  · obtain ⟨u, hparse, hslash⟩ := b.parse_write
    refine resolve_of_withFinalSlash b e ?_ hslash
    rw [PlainBase.text, String.toList_ofList, hparse]
  · obtain ⟨u, hparse, hslash⟩ := b.parse_write_slash
    refine resolve_of_withFinalSlash b e ?_ hslash
    rw [PlainBase.text, String.toList_append, String.toList_ofList]
    exact hparse

/-- A base with a port and a segment. -/
def versionBase : PlainBase where
  scheme := "https".toList
  labels := ["api".toList, "example".toList]
  port := some 8443
  segments := ["v1".toList]
  isWeb := .inr rfl
  labels_ne_nil := by decide
  isLabel := by
    simp only [List.forall_mem_cons, List.not_mem_nil, false_imp_iff, implies_true, and_true]
    exact ⟨⟨by decide, List.all_eq_true.1 (by decide)⟩, by decide, List.all_eq_true.1 (by decide)⟩
  isPort := by decide
  isSegment := List.forall_mem_singleton.2 ⟨by decide, List.all_eq_true.1 (by decide)⟩

/-- An endpoint with two slashes in front, two within, and a query. -/
def usersEndpoint : PlainEndpoint where
  path := "//users//7".toList
  query := some "limit=5&all".toList
  isPath c hc := by
    have hall : ("//users//7".toList.all fun c => Url.isPlain c || c == '/') = true := by decide
    simpa using List.all_eq_true.1 hall c hc
  isQuery := by
    rintro q ⟨⟩ c hc
    have hall : ("limit=5&all".toList.all fun c => Url.isPlain c || (c == '=' || c == '&')) =
        true := by decide
    simpa using List.all_eq_true.1 hall c hc

/-- Slashes within an endpoint stay, those in front of it count for one. -/
theorem resolve_users :
    (resolve "https://api.example:8443/v1" "//users//7?limit=5&all").map Url.text =
      .ok "https://api.example:8443/v1/users//7?limit=5&all" ∧
    (resolve "https://api.example:8443/v1/" "//users//7?limit=5&all").map Url.text =
      .ok "https://api.example:8443/v1/users//7?limit=5&all" := by
  have hbase : versionBase.text = "https://api.example:8443/v1" := by decide +kernel
  have hendpoint : usersEndpoint.text = "//users//7?limit=5&all" := by decide +kernel
  have hurl : versionBase.text ++ "/" ++
      String.ofList (usersEndpoint.write.dropWhile (· == '/')) =
        "https://api.example:8443/v1/users//7?limit=5&all" := by decide +kernel
  have h := resolve_plain versionBase usersEndpoint
  rwa [hurl, hbase, hendpoint] at h

end Http
end CaseSheet

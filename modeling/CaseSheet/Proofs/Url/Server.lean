import CaseSheet.Http.Endpoint
import Mathlib.Tactic.ByContra
/-!
# Which server an endpoint leads to

An endpoint without a host of its own is read as a reference, once blanks around it and slashes in
front have been dropped. What is left may still name a server: by a scheme, or by two slashes, which
in the schemes of the web may be written backwards.

* `Url.server_join`: a reference that names no server stays on that of its base.
* `Url.join_eq_join`: a reference that names one leaves nothing of the base but the scheme.
* `Http.stays_on_server_iff`: the endpoints that stay on the server of every base.
* `Http.colon_leaves_server`: a colon in the first segment is enough to leave.
-/
namespace CaseSheet

namespace Url

section

variable {base base' u : Url} {scheme cs : List Char} {kind : SchemeKind}

/-- Where to connect to: the scheme, the host and the port. -/
def server (u : Url) : List Char × Option (Host × Option Nat) :=
  (u.scheme, u.authority.map fun a => (a.host, a.port))

/-- The schemes of the web. -/
def IsWeb (scheme : List Char) : Prop := scheme = "http".toList ∨ scheme = "https".toList

/-- A reference names a server itself: by a scheme that is not the one of the base, or by two
slashes, where it may have the scheme of the base in front of them. -/
def NamesServer (scheme cs : List Char) : Prop :=
  match scheme? cs with
  | some (s, r) => s = scheme → 2 ≤ (r.takeWhile (isSlash true)).length
  | none => 2 ≤ (cs.takeWhile (isSlash true)).length

theorem IsWeb.kindOf (h : IsWeb scheme) : kindOf scheme = .special := by
  rcases h with rfl | rfl <;> decide

/-! ## Schemes and paths of what is read -/

theorem pathUnder_eq_segments (kind : SchemeKind) (above : List (List Char)) (cs : List Char) :
    ∃ list, pathUnder kind above cs = .segments list := by
  rw [pathUnder]
  split
  · exact ⟨_, rfl⟩
  · exact ⟨_, rfl⟩

theorem pathBehindAuthority_eq_segments (kind : SchemeKind) (cs : List Char) :
    ∃ list, pathBehindAuthority kind cs = .segments list := by
  unfold pathBehindAuthority
  split
  · split
    · exact pathUnder_eq_segments kind [] []
    · exact ⟨[], rfl⟩
  · exact pathUnder_eq_segments kind [] _

variable [Idna]

theorem parseBehindSlashes_ok (h : parseBehindSlashes scheme cs = .ok u) :
    u.scheme = scheme ∧ ∃ list, u.path = .segments list := by
  unfold parseBehindSlashes at h
  cases ha : parseAuthority scheme cs with
  | error e => rw [ha] at h; cases h
  | ok r =>
    rw [ha] at h
    cases h
    exact ⟨rfl, pathBehindAuthority_eq_segments _ _⟩

theorem scheme_parseFileHost (h : parseFileHost cs = .ok u) : u.scheme = fileScheme := by
  unfold parseFileHost at h
  dsimp only at h
  generalize (if isDrive _ = true then _ else _ : List Char × List Char) = p at h
  split at h
  · cases h; rfl
  · cases hhost : Host.parse p.1 with
    | error e => rw [hhost] at h; cases h
    | ok host => rw [hhost] at h; cases h; rfl

theorem scheme_parseFile (h : parseFile none cs = .ok u) : u.scheme = fileScheme := by
  unfold parseFile at h
  split at h
  · split at h
    · split at h
      · split at h
        · exact scheme_parseFileHost h
        · cases h; rfl
      · cases h; rfl
    · cases h; rfl
  · cases h; rfl

/-- A URL of the web has a path of segments, below which references can be put. -/
theorem path_parse (h : parse cs = .ok u) (hweb : IsWeb u.scheme) :
    ∃ list, u.path = .segments list := by
  rw [parse, read] at h
  split at h
  · next s r hs =>
    unfold parseBehindScheme at h
    split at h
    · next hk =>
      have hfile := scheme_parseFile h
      rw [hfile] at hweb
      exact absurd hweb.kindOf (by decide)
    · next hk => exact (parseBehindSlashes_ok h).2
    · next hk =>
      -- Another scheme than those of the web: it would be that of the URL.
      have hscheme : u.scheme = s := by
        split at h
        · exact (parseBehindSlashes_ok h).1
        · cases h; rfl
      rw [hscheme] at hweb
      rw [hweb.kindOf] at hk
      cases hk
  · cases h

omit [Idna] in
theorem withFinalSlash_ok {list : List (List Char)} (h : u.path = .segments list) :
    u.withFinalSlash.scheme = u.scheme ∧ u.withFinalSlash.authority = u.authority ∧
      ∃ list', u.withFinalSlash.path = .segments list' := by
  rw [withFinalSlash]
  split
  · exact ⟨rfl, rfl, list, h⟩
  · rw [h]
    exact ⟨rfl, rfl, _, rfl⟩

/-! ## References -/

/-- Without two slashes in front a reference without scheme keeps the scheme and the authority. -/
theorem parseRelative_ok (hslashes : (cs.takeWhile (isSlash true)).length < 2)
    (h : parseRelative base cs = .ok u) :
    u.scheme = base.scheme ∧ u.authority = base.authority := by
  unfold parseRelative at h
  cases cs with
  | nil => cases h; exact ⟨rfl, rfl⟩
  | cons c r =>
    dsimp only at h
    split at h
    · cases h; exact ⟨rfl, rfl⟩
    · split at h
      · cases h; exact ⟨rfl, rfl⟩
      · split at h
        · rw [if_neg (by omega)] at h
          cases h
          exact ⟨rfl, rfl⟩
        · cases h; exact ⟨rfl, rfl⟩

/-- A reference without a scheme, against a base of the web. -/
theorem join_of_no_scheme {list : List (List Char)} (hkind : kindOf base.scheme = .special)
    (hpath : base.path = .segments list) (hs : scheme? (clean cs) = none) :
    join base cs = parseRelative base (clean cs) := by
  rw [join, read, hs]
  cases clean cs with
  | nil =>
    dsimp only
    rw [hpath, hkind, if_neg (by decide)]
  | cons c r =>
    by_cases hhash : c = '#'
    · subst hhash
      rfl
    · simp only
      split
      · next heq => exact absurd (List.cons.inj heq).1 hhash
      · rw [hpath, hkind, if_neg (by decide)]

/-- **A reference that names no server** stays on that of its base, with the same credentials. -/
theorem server_join {list : List (List Char)} (hweb : IsWeb base.scheme)
    (hpath : base.path = .segments list) (hnames : ¬ NamesServer base.scheme (clean cs))
    (h : join base cs = .ok u) : u.scheme = base.scheme ∧ u.authority = base.authority := by
  rw [NamesServer] at hnames
  cases hs : scheme? (clean cs) with
  | none =>
    rw [join_of_no_scheme hweb.kindOf hpath hs] at h
    rw [hs] at hnames
    exact parseRelative_ok (Nat.lt_of_not_le hnames) h
  | some sr =>
    obtain ⟨s, r⟩ := sr
    rw [hs] at hnames
    obtain ⟨rfl, hslashes⟩ : s = base.scheme ∧ (r.takeWhile (isSlash true)).length < 2 := by
      simpa using hnames
    rw [join, read, hs] at h
    dsimp only at h
    rw [parseBehindScheme, hweb.kindOf] at h
    dsimp only at h
    rw [if_pos ⟨hslashes, rfl⟩] at h
    exact parseRelative_ok hslashes h

/-- Two slashes in front: what stands behind them is read for the scheme of the base. -/
theorem parseRelative_of_slashes (hslashes : 2 ≤ (cs.takeWhile (isSlash true)).length) :
    parseRelative base cs = parseBehindSlashes base.scheme
      ((Text.stripStart? ['/', '/'] cs).getD (cs.dropWhile (isSlash true))) := by
  cases cs with
  | nil => simp at hslashes
  | cons c r =>
    have hc : c = '/' ∨ c = '\\' := by
      by_contra hno
      have hslash : isSlash true c = false := by simpa [isSlash, not_or] using hno
      simp [hslash] at hslashes
    have hquery : c ≠ '?' := by rcases hc with rfl | rfl <;> decide
    have hhash : c ≠ '#' := by rcases hc with rfl | rfl <;> decide
    rw [parseRelative]
    dsimp only
    rw [if_neg hquery, if_neg hhash, if_pos hc, if_pos hslashes]

/-- **A reference that names a server** does not look at the base, its scheme apart. -/
theorem join_eq_join {list list' : List (List Char)} (hweb : IsWeb base.scheme)
    (hscheme : base'.scheme = base.scheme) (hpath : base.path = .segments list)
    (hpath' : base'.path = .segments list') (hnames : NamesServer base.scheme (clean cs)) :
    join base' cs = join base cs := by
  have hkind := hweb.kindOf
  rw [NamesServer] at hnames
  cases hs : scheme? (clean cs) with
  | none =>
    rw [hs] at hnames
    rw [join_of_no_scheme hkind hpath hs, join_of_no_scheme (hscheme ▸ hkind) hpath' hs,
      parseRelative_of_slashes hnames, parseRelative_of_slashes hnames, hscheme]
  | some sr =>
    obtain ⟨s, r⟩ := sr
    rw [hs] at hnames
    rw [join, join, read, read, hs]
    dsimp only
    unfold parseBehindScheme
    split
    · next hk =>
      have hne : (base.scheme == s) = false := by
        rw [beq_eq_false_iff_ne]
        rintro rfl
        rw [hkind] at hk
        cases hk
      simp [Option.filter, hscheme, hne]
    · have hfar : ¬ ((r.takeWhile (isSlash true)).length < 2 ∧ base.scheme = s) := by
        rintro ⟨hlt, rfl⟩
        exact absurd (hnames rfl) (by omega)
      simp only [hscheme, if_neg hfar]
    · rfl

end

end Url

namespace Http

open Url (IsWeb NamesServer)

/-! ## Endpoints -/

section

variable [Url.Idna] {base endpoint : String} {b u : Url}

/-- An endpoint is no URL with a host of its own. -/
def HasNoHost (endpoint : String) : Prop :=
  ∀ own, Url.parse endpoint.toList = .ok own → own.hasHost = false

/-- What of an endpoint is read as a reference. -/
def reference (endpoint : String) : List Char :=
  (Text.trim endpoint.toList).dropWhile (· == '/')

theorem resolve_of_hasNoHost (hown : HasNoHost endpoint) (hbase : Url.parse base.toList = .ok b) :
    resolve base endpoint = b.withFinalSlash.join (reference endpoint) := by
  rw [resolve, hbase]
  simp only [bind, Except.bind, reference]
  split
  · next own hparse => rw [hown own hparse, if_neg Bool.false_ne_true]
  · rfl

/-- An endpoint that names no server stays on that of its base. -/
theorem server_resolve (hown : HasNoHost endpoint) (hbase : Url.parse base.toList = .ok b)
    (hweb : IsWeb b.scheme) (hnames : ¬ NamesServer b.scheme (Url.clean (reference endpoint)))
    (h : resolve base endpoint = .ok u) : u.server = b.server := by
  rw [resolve_of_hasNoHost hown hbase] at h
  obtain ⟨list, hpath⟩ := Url.path_parse hbase hweb
  obtain ⟨hscheme, hauthority, list', hpath'⟩ := Url.withFinalSlash_ok hpath
  rw [← hscheme] at hweb hnames
  obtain ⟨hs, ha⟩ := Url.server_join hweb hpath' hnames h
  rw [Url.server, Url.server, hs, ha, hscheme, hauthority]

/-- One that names a server leads to the same URL from every base with the scheme. -/
theorem resolve_eq_resolve {base' : String} {b' : Url} (hown : HasNoHost endpoint)
    (hbase : Url.parse base.toList = .ok b) (hbase' : Url.parse base'.toList = .ok b')
    (hweb : IsWeb b.scheme) (hscheme : b'.scheme = b.scheme)
    (hnames : NamesServer b.scheme (Url.clean (reference endpoint))) :
    resolve base' endpoint = resolve base endpoint := by
  rw [resolve_of_hasNoHost hown hbase, resolve_of_hasNoHost hown hbase']
  obtain ⟨list, hpath⟩ := Url.path_parse hbase hweb
  obtain ⟨list', hpath'⟩ := Url.path_parse hbase' (hscheme ▸ hweb)
  obtain ⟨hs, -, _, hp⟩ := Url.withFinalSlash_ok hpath
  obtain ⟨hs', -, _, hp'⟩ := Url.withFinalSlash_ok hpath'
  exact Url.join_eq_join (hs ▸ hweb) (hs'.trans (hscheme.trans hs.symm)) hp hp' (hs ▸ hnames)

/-- The top of a server with a name of one letter. -/
def topOf (scheme : List Char) (letter : Char) : Url :=
  { scheme, authority := some ⟨[], [], .domain [letter], none⟩, path := .segments [[]],
    query := none, fragment := none }

/-- For each scheme of the web there are two bases on different servers. -/
theorem exists_two_bases {scheme : List Char} (hweb : IsWeb scheme) :
    ∃ base base', Url.parse (String.toList base) = .ok (topOf scheme 'a') ∧
      Url.parse (String.toList base') = .ok (topOf scheme 'b') := by
  rcases hweb with rfl | rfl
  · exact ⟨"http://a", "http://b", rfl, rfl⟩
  · exact ⟨"https://a", "https://b", rfl, rfl⟩

/-- **Endpoints that stay on the server of their base.** Of the endpoints without a host of their
own these are the ones that name no server once blanks around them and slashes in front have been
dropped, and those that resolve against no base of the web. -/
theorem stays_on_server_iff (endpoint : String) (hown : HasNoHost endpoint) :
    (∀ base b, Url.parse (String.toList base) = .ok b → IsWeb b.scheme →
      ∀ u, resolve base endpoint = .ok u → u.server = b.server) ↔
    ¬ ∃ base b u, Url.parse (String.toList base) = .ok b ∧ IsWeb b.scheme ∧
      NamesServer b.scheme (Url.clean (reference endpoint)) ∧ resolve base endpoint = .ok u := by
  constructor
  · rintro hstays ⟨base, b, u, hbase, hweb, hnames, h⟩
    obtain ⟨base₁, base₂, hbase₁, hbase₂⟩ := exists_two_bases hweb
    -- The same URL comes out for both, so it cannot be on the server of each.
    have h₁ := (resolve_eq_resolve hown hbase hbase₁ hweb rfl hnames).trans h
    have h₂ := (resolve_eq_resolve hown hbase hbase₂ hweb rfl hnames).trans h
    have hserver := (hstays base₁ _ hbase₁ hweb u h₁).symm.trans (hstays base₂ _ hbase₂ hweb u h₂)
    simp [Url.server, topOf] at hserver
  · intro hno base b hbase hweb u h
    by_cases hnames : NamesServer b.scheme (Url.clean (reference endpoint))
    · exact absurd ⟨base, b, u, hbase, hweb, hnames, h⟩ hno
    · exact server_resolve hown hbase hweb hnames h

end

/-- The endpoint of a step that names no server. -/
theorem stays_on_server_of_plain :
    HasNoHost "/api/v1/trends?limit=5" ∧
    ∀ base b, Url.parse (String.toList base) = .ok b → IsWeb b.scheme →
      ∀ u, resolve base "/api/v1/trends?limit=5" = .ok u → u.server = b.server := by
  have hown : HasNoHost "/api/v1/trends?limit=5" := fun own h => by cases h
  have hscheme : Url.scheme? (Url.clean (reference "/api/v1/trends?limit=5")) = none := by
    decide +kernel
  have hslashes : ((Url.clean (reference "/api/v1/trends?limit=5")).takeWhile
      (Url.isSlash true)).length < 2 := by decide +kernel
  refine ⟨hown, (stays_on_server_iff _ hown).2 ?_⟩
  rintro ⟨base, b, u, -, -, hnames, -⟩
  rw [NamesServer, hscheme] at hnames
  exact absurd hnames (Nat.not_le.2 hslashes)

/-- The slash in front of `/users:search` goes, and what stood before the colon becomes a scheme. -/
theorem colon_leaves_server :
    HasNoHost "/users:search" ∧
    ∃ b u, Url.parse "http://localhost:3000".toList = .ok b ∧ IsWeb b.scheme ∧
      resolve "http://localhost:3000" "/users:search" = .ok u ∧ u.text = "users:search" ∧
      u.server ≠ b.server := by
  have hown : HasNoHost "/users:search" := fun own h => by cases h
  have hbase : Url.parse "http://localhost:3000".toList = .ok
      { topOf "http".toList 'a' with
        authority := some ⟨[], [], .domain "localhost".toList, some 3000⟩ } := rfl
  have hresolve : resolve "http://localhost:3000" "/users:search" =
      .ok ⟨"users".toList, none, .plain "search".toList, none, none⟩ := rfl
  exact ⟨hown, _, _, hbase, .inl rfl, hresolve, rfl, by decide⟩

end Http
end CaseSheet

import CaseSheet.Proofs.Digits
import CaseSheet.Proofs.Pieces
import CaseSheet.Url.Parse
import Mathlib.Data.List.Induction
/-!
# Plain texts in URLs

Letters, digits, underscores and hyphens mean nothing in a URL and are encoded nowhere, so what is
made of them is read as it is written: segments between slashes, a query, labels of small letters
with dots between them, and the digits of a port.

* `Url.pathUnder_plain`: a path of plain segments.
* `Url.cut_query`: where the query starts.
* `Url.decode_of_isVisible`, `Url.ipv4Part?_of_isSmall`: what a host is read through.
-/
namespace CaseSheet

namespace Url

variable {c : Char} {cs pre rest scheme : List Char} {segments : List (List Char)}

/-! ## Plain characters -/

/-- A visible ASCII character. -/
def IsVisible (c : Char) : Prop := 0x20 < c.toNat ∧ c.toNat < 0x7F

instance (c : Char) : Decidable (IsVisible c) := inferInstanceAs (Decidable (_ ∧ _))

/-- Of a given text only its own characters need be checked. -/
theorem isVisible_of_all (h : (cs.all fun c => decide (IsVisible c)) = true) :
    ∀ c ∈ cs, IsVisible c :=
  fun c hc => of_decide_eq_true (List.all_eq_true.1 h c hc)

/-- What holds for each ASCII character holds for the visible ones. -/
theorem IsVisible.of_ascii {p : Char → Prop} (hall : ∀ n : Fin 128, p (Char.ofNat n))
    (h : IsVisible c) : p c := by
  have hc := hall ⟨c.toNat, Nat.lt_of_lt_of_le h.2 (by decide)⟩
  rwa [Char.ofNat_toNat] at hc

/-- The small ASCII letters. -/
def isSmall (c : Char) : Bool := 'a' ≤ c && c ≤ 'z'

/-- The characters of plain segments: ASCII letters and digits, the underscore and the hyphen. -/
def isPlain (c : Char) : Bool := isAsciiLetter c || Digits.isDigit c || c == '_' || c == '-'

theorem isPlain_of_isSmall (h : isSmall c = true) : isPlain c = true := by
  rw [isSmall] at h
  simp [isPlain, isAsciiLetter, h]

theorem isPlain_of_isDigit (h : Digits.isDigit c = true) : isPlain c = true := by
  simp [isPlain, h]

theorem isVisible_of_isPlain (h : isPlain c = true) : IsVisible c := by
  simp only [isPlain, isAsciiLetter, Digits.isDigit, Bool.or_eq_true, Bool.and_eq_true,
    decide_eq_true_eq, beq_iff_eq] at h
  rcases h with (((h | h) | h) | rfl) | rfl
  · have hrange : 97 ≤ c.toNat ∧ c.toNat ≤ 122 := h
    exact ⟨by omega, by omega⟩
  · have hrange : 65 ≤ c.toNat ∧ c.toNat ≤ 90 := h
    exact ⟨by omega, by omega⟩
  · have hrange : 48 ≤ c.toNat ∧ c.toNat ≤ 57 := h
    exact ⟨by omega, by omega⟩
  · exact ⟨by decide, by decide⟩
  · exact ⟨by decide, by decide⟩

theorem ne_of_isPlain {d : Char} (h : isPlain c = true) (hd : isPlain d = false) : c ≠ d := by
  rintro rfl
  rw [h] at hd
  cases hd

/-- Neither a path nor a query encodes a plain character. -/
theorem sets_of_isPlain (h : isPlain c = true) : pathSet c = false ∧ specialQuerySet c = false :=
  (isVisible_of_isPlain h).of_ascii
    (p := fun c => isPlain c = true → pathSet c = false ∧ specialQuerySet c = false) (by decide) h

/-- Dots, as they are or encoded, are not plain. -/
theorem foldAscii_of_isPlain (h : isPlain c = true) :
    Text.foldAscii c ≠ '.' ∧ Text.foldAscii c ≠ '%' :=
  (isVisible_of_isPlain h).of_ascii
    (p := fun c => isPlain c = true → Text.foldAscii c ≠ '.' ∧ Text.foldAscii c ≠ '%')
    (by decide) h

/-! ## Cutting -/

theorem span_append {p : Char → Bool} (hpre : ∀ c ∈ pre, p c = true)
    (hrest : ∀ c ∈ rest.head?, p c = false) : (pre ++ rest).span p = (pre, rest) := by
  rw [List.span_eq_takeWhile_dropWhile, List.takeWhile_append_of_pos hpre,
    List.dropWhile_append_of_pos hpre]
  cases rest with
  | nil => simp
  | cons c rest =>
    have hc := hrest c rfl
    simp [hc]

theorem span_of_forall {p : Char → Bool} (h : ∀ c ∈ cs, p c = true) : cs.span p = (cs, []) := by
  have hspan : (cs ++ []).span p = (cs, []) := span_append h (by simp)
  rwa [List.append_nil] at hspan

/-- A URL ignores nothing of a visible text. -/
theorem clean_of_isVisible (h : ∀ c ∈ cs, IsVisible c) : clean cs = cs := by
  have hkept : ∀ c ∈ cs, (c.toNat ≤ 0x20) = False ∧
      (!(c == '\t' || c == '\n' || c == '\r')) = true := fun c hc => by
    have hvisible := (h c hc).1
    have htab : c ≠ '\t' := by rintro rfl; exact absurd hvisible (by decide)
    have hfeed : c ≠ '\n' := by rintro rfl; exact absurd hvisible (by decide)
    have hreturn : c ≠ '\r' := by rintro rfl; exact absurd hvisible (by decide)
    simpa [htab, hfeed, hreturn] using hvisible
  have hstart : cs.dropWhile (fun c => decide (c.toNat ≤ 0x20)) = cs := by
    cases cs with
    | nil => rfl
    | cons c cs => simp [(hkept c List.mem_cons_self).1]
  have hend : Text.dropEndWhile (fun c : Char => decide (c.toNat ≤ 0x20)) cs = cs := by
    rcases List.eq_nil_or_concat' cs with rfl | ⟨l, c, rfl⟩
    · rfl
    · exact Text.dropEndWhile_concat (by simp [(hkept c (by simp)).1])
  rw [clean]
  simp only [hstart, hend]
  exact List.filter_eq_self.2 fun c hc => (hkept c hc).2

theorem trim_of_isVisible (h : ∀ c ∈ cs, IsVisible c) : Text.trim cs = cs := by
  have hblank : ∀ c ∈ cs, Text.isBlank c = false := fun c hc => by
    obtain ⟨hlow, hhigh⟩ := h c hc
    simp [Text.isBlank]
    omega
  exact Text.IsTrimmed.trim_eq ⟨fun c hc => hblank c (List.mem_of_mem_head? hc),
    fun c hc => hblank c (List.mem_of_getLast? hc)⟩

/-- A text without a colon names no scheme. -/
theorem scheme?_of_notMem (h : ':' ∉ cs) : scheme? cs = none := by
  cases cs with
  | nil => rfl
  | cons c cs =>
    unfold scheme?
    dsimp only
    split
    · split
      · next s r hspan =>
        -- What stands behind the colon would be a tail of the text.
        rw [List.span_eq_takeWhile_dropWhile, Prod.mk.injEq] at hspan
        have hmem : ':' ∈ ':' :: r := List.mem_cons_self
        rw [← hspan.2] at hmem
        exact absurd ((List.dropWhile_suffix _).subset hmem) h
      · rfl
    · rfl

theorem cut_of_forall (h : ∀ c ∈ cs, isPathEnd c = false) : cut cs = ⟨cs, none, none⟩ := by
  rw [cut, span_of_forall fun c hc => by rw [h c hc]; rfl]

/-- A text comes apart at the question mark of its query. -/
theorem cut_query {q : List Char} (hpre : ∀ c ∈ pre, isPathEnd c = false) (hq : '#' ∉ q) :
    cut (pre ++ '?' :: q) = ⟨pre, some q, none⟩ := by
  have hspan : (pre ++ '?' :: q).span (fun c => !isPathEnd c) = (pre, '?' :: q) :=
    span_append (fun c hc => by rw [hpre c hc]; rfl) (by simp [isPathEnd])
  have hquery : q.span (fun c => c != '#') = (q, []) := by
    refine span_of_forall fun c hc => ?_
    rw [bne_iff_ne]
    rintro rfl
    exact hq hc
  rw [cut, hspan]
  simp only [hquery]

/-! ## Paths -/

theorem splitPath_of_notMem (h : '\\' ∉ cs) (special : Bool) :
    splitPath special cs = Text.splitAll '/' cs := by
  induction cs with
  | nil => rfl
  | cons c cs ih =>
    rw [List.mem_cons, not_or] at h
    have hslash : isSlash special c = (c == '/') := by simp [isSlash, Ne.symm h.1]
    rw [splitPath, Text.splitAll, hslash, ih h.2]
    cases Text.splitAll '/' cs <;> rfl

/-- Plain segments are added as they are. -/
theorem addSegments_plain {path raws : List (List Char)}
    (h : ∀ s ∈ raws, ∀ c ∈ s, isPlain c = true) :
    addSegments .special path raws = path ++ raws := by
  induction raws generalizing path with
  | nil => rw [addSegments, List.append_nil]
  | cons raw raws ih =>
    have hraw := h raw List.mem_cons_self
    have hencode : encode pathSet raw = raw :=
      encode_of_forall fun c hc => (sets_of_isPlain (hraw c hc)).1
    have hdots : isDoubleDot raw = false ∧ isSingleDot raw = false := by
      cases raw with
      | nil => decide
      | cons c raw =>
        obtain ⟨hdot, hpercent⟩ := foldAscii_of_isPlain (hraw c List.mem_cons_self)
        simp [isDoubleDot, isSingleDot, hdot, hpercent]
    rw [addSegments, hencode]
    simp only [hdots.1, hdots.2, Bool.false_eq_true, if_false]
    rw [ih fun s hs => h s (List.mem_cons_of_mem raw hs)]
    exact (List.append_cons path raw raws).symm

/-- A path of plain segments holds plain characters and slashes. -/
theorem of_mem_path (h : ∀ s ∈ segments, ∀ c ∈ s, isPlain c = true)
    (hc : c ∈ segments.flatMap ('/' :: ·)) : isPlain c = true ∨ c = '/' := by
  obtain ⟨s, hs, hmem⟩ := List.mem_flatMap.1 hc
  rcases List.mem_cons.1 hmem with hslash | hmem
  · exact .inr hslash
  · exact .inl (h s hs c hmem)

theorem isPathEnd_of_path (h : isPlain c = true ∨ c = '/') : isPathEnd c = false := by
  rcases h with hplain | rfl
  · simp [isPathEnd, ne_of_isPlain hplain (d := '?') (by decide),
      ne_of_isPlain hplain (d := '#') (by decide)]
  · rfl

/-- Plain segments, or nothing, between slashes. -/
theorem pathUnder_plain {above : List (List Char)} (h : ∀ c ∈ cs, isPlain c = true ∨ c = '/') :
    pathUnder .special above cs = .segments (above ++ Text.splitAll '/' cs) := by
  have hback : '\\' ∉ cs := fun hmem => by
    rcases h _ hmem with hplain | hslash
    · exact absurd hplain (by decide)
    · exact absurd hslash (by decide)
  have hraws : ∀ s ∈ Text.splitAll '/' cs, ∀ c ∈ s, isPlain c = true := by
    intro s hs c hc
    have hmem : c ∈ (Text.splitAll '/' cs).flatMap ('/' :: ·) :=
      List.mem_flatMap.2 ⟨s, hs, List.mem_cons_of_mem _ hc⟩
    have hslash : c ≠ '/' := by
      rintro rfl
      exact Text.not_mem_of_mem_splitAll hs hc
    rw [Text.flatMap_splitAll] at hmem
    exact (h c ((List.mem_cons.1 hmem).resolve_left hslash)).resolve_right hslash
  rw [pathUnder, splitPath_of_notMem hback, addSegments_plain hraws, if_neg (by decide)]

/-- The path behind the authority of a plain base; without a segment it is empty but for a slash. -/
theorem pathBehindAuthority_plain (h : ∀ s ∈ segments, ∀ c ∈ s, isPlain c = true) :
    pathBehindAuthority .special (segments.flatMap ('/' :: ·)) =
      .segments (if segments = [] then [[]] else segments) := by
  cases segments with
  | nil => rfl
  | cons s ss =>
    have hslash : ∀ s' ∈ s :: ss, '/' ∉ s' := fun s' hs' hmem =>
      absurd (h s' hs' _ hmem) (by decide)
    have hsplit := Text.splitAll_flatMap hslash
    rw [List.flatMap_cons, List.cons_append, Text.splitAll_cons_sep] at hsplit
    rw [List.flatMap_cons, List.cons_append, pathBehindAuthority]
    have hplain : ∀ c ∈ s ++ ss.flatMap ('/' :: ·), isPlain c = true ∨ c = '/' := by
      intro c hc
      refine of_mem_path h ?_
      rw [List.flatMap_cons, List.cons_append]
      exact List.mem_cons_of_mem _ hc
    change pathUnder .special [] (s ++ ss.flatMap ('/' :: ·)) = _
    rw [pathUnder_plain hplain, (List.cons.inj hsplit).2]
    rfl

/-! ## Authorities -/

theorem splitHost_of_forall (h : ∀ c ∈ pre, c ≠ ':' ∧ c ≠ '[' ∧ c ≠ ']') :
    splitHost false pre = (pre, none) := by
  induction pre with
  | nil => rfl
  | cons c pre ih =>
    obtain ⟨⟨hcolon, hopen, hclose⟩, hpre⟩ := List.forall_mem_cons.1 h
    simp [splitHost, hcolon, hopen, hclose, ih hpre]

theorem splitHost_append (h : ∀ c ∈ pre, c ≠ ':' ∧ c ≠ '[' ∧ c ≠ ']') (rest : List Char) :
    splitHost false (pre ++ ':' :: rest) = (pre, some rest) := by
  induction pre with
  | nil => rfl
  | cons c pre ih =>
    obtain ⟨⟨hcolon, hopen, hclose⟩, hpre⟩ := List.forall_mem_cons.1 h
    simp [splitHost, hcolon, hopen, hclose, ih hpre]

theorem splitCredentials_of_notMem (h : '@' ∉ cs) : splitCredentials cs = (none, cs) := by
  rw [splitCredentials, span_of_forall]
  intro c hc
  rw [bne_iff_ne]
  rintro rfl
  exact h (List.mem_reverse.1 hc)

theorem decode_of_isVisible (h : ∀ c ∈ cs, IsVisible c ∧ c ≠ '%') :
    decode cs = cs.map fun c => UInt8.ofNat c.toNat := by
  induction cs with
  | nil => rw [decode]; rfl
  | cons c cs ih =>
    obtain ⟨⟨hvisible, hpercent⟩, hcs⟩ := List.forall_mem_cons.1 h
    have hencode : String.utf8EncodeChar c = [UInt8.ofNat c.toNat] := by
      rw [String.utf8EncodeChar, if_pos]
      · rfl
      · exact Nat.le_of_lt hvisible.2
    have hdecode : decode (c :: cs) = String.utf8EncodeChar c ++ decode cs := by
      rw [decode]
      intro a b r hc hr
      exact hpercent hc
    rw [hdecode, hencode, ih hcs]
    rfl

/-- What is visible stands for itself. -/
theorem byteChars_decode (h : ∀ c ∈ cs, IsVisible c ∧ c ≠ '%') : byteChars (decode cs) = cs := by
  rw [decode_of_isVisible h, byteChars, List.map_map]
  refine (List.map_congr_left fun c hc => ?_).trans (List.map_id _)
  have hlt := (h c hc).1.2
  have hbyte : (UInt8.ofNat c.toNat).toNat = c.toNat := by
    rw [UInt8.toNat_ofNat', Nat.mod_eq_of_lt (by omega)]
  rw [Function.comp_apply, hbyte, Char.ofNat_toNat, id]

/-! ## Hosts -/

/-- The characters of a plain host. -/
def isHostChar (c : Char) : Bool := isSmall c || c == '.'

theorem isVisible_of_isHostChar (h : isHostChar c = true) : IsVisible c := by
  simp only [isHostChar, Bool.or_eq_true, beq_iff_eq] at h
  rcases h with h | rfl
  · exact isVisible_of_isPlain (isPlain_of_isSmall h)
  · exact ⟨by decide, by decide⟩

/-- A character of a plain host is read as it is. -/
theorem foldAscii_of_isHostChar (h : isHostChar c = true) :
    c ≠ '%' ∧ Text.foldAscii c = c ∧ isForbiddenInDomain c = false :=
  (isVisible_of_isHostChar h).of_ascii
    (p := fun c => isHostChar c = true → c ≠ '%' ∧ Text.foldAscii c = c ∧
      isForbiddenInDomain c = false) (by decide) h

/-- The ASCII form of a name has no character that no domain may hold. -/
theorem allowed_of_nameOf? [Idna] {bytes : List UInt8} {name : List Char}
    (h : nameOf? bytes = some name) : name.any isForbiddenInDomain = false := by
  unfold nameOf? at h
  split at h
  · exact Idna.allowed h
  · exact allowed_of_smallName? h

/-- **The domains that are read** are not empty and have no character that no domain may hold. -/
theorem Host.of_parse_eq_domain [Idna] {name : List Char}
    (h : Host.parse cs = .ok (.domain name)) :
    name ≠ [] ∧ name.any isForbiddenInDomain = false := by
  unfold Host.parse at h
  split at h
  · next r =>
    -- Between brackets there is an address, if anything.
    unfold Host.bracketed at h
    split at h
    · split at h <;> cases h
    · cases h
  · cases hname : nameOf? (decode cs) with
    | none =>
      rw [hname] at h
      cases h
    | some ascii =>
      simp only [hname] at h
      split at h
      · cases h
      · next hne =>
        split at h
        · cases hip : ipv4? ascii <;> rw [hip] at h <;> cases h
        · cases h
          exact ⟨by simpa using hne, allowed_of_nameOf? hname⟩

/-- A label of small letters has no hyphen, so it is not in Punycode. -/
theorem isPunycode_of_isSmall {label : List Char} (h : ∀ c ∈ label, isSmall c = true) :
    isPunycode label = false := by
  have hsmall : ∀ c ∈ label, Text.foldAscii c ≠ '-' := fun c hc =>
    (isVisible_of_isPlain (isPlain_of_isSmall (h c hc))).of_ascii
      (p := fun c => isSmall c = true → Text.foldAscii c ≠ '-') (by decide) (h c hc)
  rw [isPunycode, Bool.eq_false_iff]
  intro hstart
  obtain ⟨rest, hrest⟩ := Text.startsWith_iff.1 hstart
  have hmem : '-' ∈ label.map Text.foldAscii := by simp [hrest]
  obtain ⟨c, hc, hhyphen⟩ := List.mem_map.1 hmem
  exact hsmall c hc hhyphen

/-- No small letter is a decimal digit. -/
theorem value?_of_isSmall (h : isSmall c = true) :
    Digits.isDigit c = false ∧ ∀ d ∈ Hex.value? c, ¬ d < 10 :=
  (isVisible_of_isPlain (isPlain_of_isSmall h)).of_ascii
    (p := fun c => isSmall c = true → Digits.isDigit c = false ∧ ∀ d ∈ Hex.value? c, ¬ d < 10)
    (by decide) h

/-- A label that starts with a small letter is no part of an address. -/
theorem ipv4Part?_of_isSmall (h : isSmall c = true) (cs : List Char) :
    ipv4Part? (c :: cs) = none := by
  obtain ⟨hdigit, hvalue⟩ := value?_of_isSmall h
  have hzero : c ≠ '0' := by
    rintro rfl
    cases hdigit
  have hdecimal : ipv4Part? (c :: cs) = natOfRadix? 10 (c :: cs) := by
    unfold ipv4Part?
    split
    all_goals simp_all
  rw [hdecimal, natOfRadix?, List.foldlM_cons]
  cases hd : Hex.value? c with
  | none => rfl
  | some d => simp [hvalue d hd]

theorem parsePort_ofNat {n : Nat} (hrange : n ≤ 65535) (hdefault : defaultPort? scheme ≠ some n) :
    parsePort scheme (Digits.ofNat n) = .ok (some n, []) := by
  have hdigits : ∀ c ∈ Digits.ofNat n, Digits.isDigit c = true :=
    fun c => Digits.isDigit_of_mem_ofNat
  have htake : (Digits.ofNat n).takeWhile Digits.isDigit = Digits.ofNat n :=
    List.takeWhile_eq_self_iff.2 hdigits
  have hdrop : (Digits.ofNat n).dropWhile Digits.isDigit = [] :=
    List.dropWhile_eq_nil_iff.2 hdigits
  unfold parsePort
  simp only [htake, hdrop, Digits.toNat_ofNat]
  simp [hdefault, Digits.ofNat_ne_nil, Nat.not_lt.2 hrange]

end Url
end CaseSheet

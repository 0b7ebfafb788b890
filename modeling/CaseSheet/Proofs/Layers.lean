import CaseSheet.Config
import CaseSheet.Proofs.Pieces
import CaseSheet.Proofs.Row
import CaseSheet.Proofs.Yaml.Mapping
/-!
# The layers of a configuration

A setting comes from the command line if it is given there, from the configuration file if its key
is among those of the file, and otherwise from the defaults. A file loads if and only if its entries
have values and that of each key of a setting is of the setting's type. What else the file holds, and
in which order, does not matter beyond that it must have values too: a whole number of more than 64
bits is a fault of the file under an unknown key as well.

* `Config.ofValue_eq_ok_iff`: the settings of a configuration that a file describes.
* `Config.IsMapping.exists_load_iff`: which files load.
* `Config.get_withOverrides`: what the command line replaces.
* `Config.load_layers`: where each setting of a run comes from.
* `Config.not_load_wide_note`: a file that has no key of a setting, and does not load.
-/
namespace CaseSheet.Config

open Yaml (Document LinkedNode Value)
open Yaml.Value (EntriesAreRead same_text)

variable {v u : Value} {entries others : List (Value × Value)} {c c' : Config} {f g : Field}

/-! ## What values decode to -/

def IsText (v : Value) (s : String) : Prop := v.untagged = .text s

/-- A natural number of 64 bits. -/
def IsWord (v : Value) (n : Nat) : Prop := v.untagged = .int n ∧ n < 2 ^ 64

def IsFlag (v : Value) (b : Bool) : Prop := v.untagged = .bool b

/-- A list of texts; null stands for the empty one. -/
inductive IsTextList (v : Value) : List String → Prop where
  | null (h : v.untagged = .null) : IsTextList v []
  | items {vs : List Value} {ss : List String} (h : v.untagged = .sequence vs)
      (htexts : List.Forall₂ IsText vs ss) : IsTextList v ss

/-- A path; null without a tag stands for none. -/
inductive IsPath : Value → Option String → Prop where
  | null : IsPath .null none
  | text {v : Value} {s : String} (h : IsText v s) : IsPath v (some s)

theorem textOf_eq_ok_iff {wanted s : String} : textOf wanted v = .ok s ↔ IsText v s := by
  unfold textOf IsText
  split
  · next t ht => simp [ht]
  · next hne => simpa using fun h => hne s h

theorem natOf_eq_ok_iff {n : Nat} (hword : v.FitsWord) : natOf v = .ok n ↔ IsWord v n := by
  unfold natOf IsWord
  split
  · next m hm =>
    have hfits := hword _ hm
    have hlt : m < 2 ^ 64 := by
      simp only [Yaml.Meaning.fits, Bool.and_eq_true, decide_eq_true_eq,
        Int.ofNat_eq_natCast] at hfits
      omega
    rw [hm]
    constructor
    · intro h
      cases h
      exact ⟨rfl, hlt⟩
    · rintro ⟨h, -⟩
      cases h
      rfl
  · next m hne hm =>
    refine iff_of_false nofun fun h => ?_
    exact hne n (Value.int.inj (hm.symm.trans h.1) ▸ rfl)
  · next hne => exact iff_of_false nofun fun h => hne n h.1

theorem boolOf_eq_ok_iff {b : Bool} : boolOf v = .ok b ↔ IsFlag v b := by
  unfold boolOf IsFlag
  split
  · next t ht => simp [ht]
  · next hne => simpa using fun h => hne b h

theorem mapM_textOf_eq_ok_iff {wanted : String} {vs : List Value} {ss : List String} :
    vs.mapM (textOf wanted) = .ok ss ↔ List.Forall₂ IsText vs ss := by
  induction vs generalizing ss with
  | nil =>
    rw [List.mapM_nil, List.forall₂_nil_left_iff]
    exact ⟨fun h => (Except.ok.inj h).symm, fun h => h ▸ rfl⟩
  | cons v vs ih =>
    rw [List.mapM_cons, Cells.bind_eq_ok_iff, List.forall₂_cons_left_iff]
    constructor
    · rintro ⟨s, hs, h⟩
      obtain ⟨ss', hss, h⟩ := Cells.bind_eq_ok_iff.1 h
      cases h
      exact ⟨s, ss', textOf_eq_ok_iff.1 hs, ih.1 hss, rfl⟩
    · rintro ⟨s, ss', hs, hss, rfl⟩
      exact ⟨s, textOf_eq_ok_iff.2 hs, Cells.bind_eq_ok_iff.2 ⟨ss', ih.2 hss, rfl⟩⟩

theorem textsOf_eq_ok_iff {ss : List String} : textsOf v = .ok ss ↔ IsTextList v ss := by
  unfold textsOf
  split
  · next hv =>
    constructor
    · intro h
      cases h
      exact .null hv
    · rintro (h | ⟨h, -⟩)
      · rfl
      · cases hv.symm.trans h
  · next vs hv =>
    rw [mapM_textOf_eq_ok_iff]
    constructor
    · exact .items hv
    · rintro (h | ⟨h, htexts⟩)
      · cases hv.symm.trans h
      · cases hv.symm.trans h
        exact htexts
  · next hnull hitems =>
    refine iff_of_false nofun ?_
    rintro (h | ⟨h, -⟩)
    · exact hnull h
    · exact hitems _ h

theorem map_eq_ok_iff {ε α β : Type} {x : Except ε α} {φ : α → β} {b : β} :
    x.map φ = .ok b ↔ ∃ a, x = .ok a ∧ b = φ a := by
  cases x <;> simp [Except.map, eq_comm]

theorem pathOf_eq_ok_iff {dir : Option String} : pathOf v = .ok dir ↔ IsPath v dir := by
  unfold pathOf
  split
  · constructor
    · intro h
      cases h
      exact .null
    · rintro (- | h)
      · rfl
      · cases h
  · next hnull =>
    rw [map_eq_ok_iff]
    constructor
    · rintro ⟨s, hs, rfl⟩
      exact .text (textOf_eq_ok_iff.1 hs)
    · rintro (- | h)
      · exact absurd rfl hnull
      · exact ⟨_, textOf_eq_ok_iff.2 h, rfl⟩

/-! ## Fields -/

namespace Field

/-- The type of a field. -/
abbrev Carrier : Field → Type
  | .timeoutSecs | .delayMs => Nat
  | .recursive => Bool
  | .exclude => List String
  | _ => String

/-- What a value stands for as that of a field. -/
def Decodes : (f : Field) → Value → f.Carrier → Prop
  | .baseUrl | .loginCaseId | .tokenField | .serverDownMarker | .unreachableBaseUrl
  | .defaultEndpoint | .casePattern => IsText
  | .timeoutSecs | .delayMs => IsWord
  | .recursive => IsFlag
  | .exclude => IsTextList

def get (c : Config) : (f : Field) → f.Carrier
  | .baseUrl => c.baseUrl
  | .timeoutSecs => c.timeoutSecs
  | .delayMs => c.delayMs
  | .loginCaseId => c.loginCaseId
  | .tokenField => c.tokenField
  | .serverDownMarker => c.serverDownMarker
  | .unreachableBaseUrl => c.unreachableBaseUrl
  | .defaultEndpoint => c.defaultEndpoint
  | .casePattern => c.casePattern
  | .recursive => c.recursive
  | .exclude => c.exclude

def put (c : Config) : (f : Field) → f.Carrier → Config
  | .baseUrl, a => { c with baseUrl := a }
  | .timeoutSecs, a => { c with timeoutSecs := a }
  | .delayMs, a => { c with delayMs := a }
  | .loginCaseId, a => { c with loginCaseId := a }
  | .tokenField, a => { c with tokenField := a }
  | .serverDownMarker, a => { c with serverDownMarker := a }
  | .unreachableBaseUrl, a => { c with unreachableBaseUrl := a }
  | .defaultEndpoint, a => { c with defaultEndpoint := a }
  | .casePattern, a => { c with casePattern := a }
  | .recursive, a => { c with recursive := a }
  | .exclude, a => { c with exclude := a }

theorem mem_all (f : Field) : f ∈ all := by cases f <;> decide

theorem nodup_all : all.Nodup := by decide

@[simp] theorem get_put_self (c : Config) (f : Field) (a : f.Carrier) : f.get (f.put c a) = a := by
  cases f <;> rfl

theorem get_put_of_ne (hne : g ≠ f) (c : Config) (a : f.Carrier) :
    g.get (f.put c a) = g.get c := by
  cases f <;> cases g <;> first | rfl | exact absurd rfl hne

@[simp] theorem put_get (c : Config) (f : Field) : f.put c (f.get c) = c := by cases f <;> rfl

@[simp] theorem resultsDir_put (c : Config) (f : Field) (a : f.Carrier) :
    (f.put c a).resultsDir = c.resultsDir := by
  cases f <;> rfl

/-- A field is set to what the value stands for. -/
theorem set_eq_ok_iff (hword : v.FitsWord) :
    f.set c v = .ok c' ↔ ∃ a, f.Decodes v a ∧ c' = f.put c a := by
  cases f <;>
    simp only [set, map_eq_ok_iff, textOf_eq_ok_iff, natOf_eq_ok_iff hword, boolOf_eq_ok_iff,
      textsOf_eq_ok_iff] <;>
    rfl

end Field

/-- A configuration is its fields, with the place for results. -/
theorem eq_of_get_eq (h : ∀ f : Field, f.get c = f.get c') (hdir : c.resultsDir = c'.resultsDir) :
    c = c' := by
  cases c
  cases c'
  rw [Config.mk.injEq]
  exact ⟨h .baseUrl, h .timeoutSecs, h .delayMs, h .loginCaseId, h .tokenField,
    h .serverDownMarker, h .unreachableBaseUrl, h .defaultEndpoint, h .casePattern, h .recursive,
    h .exclude, hdir⟩

/-! ## Entries of a file -/

/-- The keys of entries are texts. -/
def KeysAreTexts (entries : List (Value × Value)) : Prop := ∀ e ∈ entries, ∃ k, e.1 = .text k

/-- The value of a setting that has a key in a file: what the entry for the key stands for, and the
value that it had before if there is no such entry. -/
inductive FromFile {α : Type} (entries : List (Value × Value)) (key : String)
    (Decodes : Value → α → Prop) (before : α) : α → Prop where
  | present {u : Value} {a : α} (hmem : (.text key, u) ∈ entries) (h : Decodes u a) :
      FromFile entries key Decodes before a
  | absent (habsent : ∀ u, (.text key, u) ∉ entries) : FromFile entries key Decodes before before

section FromFile

variable {α : Type} {key : String} {Decodes : Value → α → Prop} {before a : α}

/-- Only the entries for the key matter. -/
theorem FromFile.congr {entries' : List (Value × Value)}
    (h : ∀ u, (.text key, u) ∈ entries ↔ (.text key, u) ∈ entries') :
    FromFile entries key Decodes before a ↔ FromFile entries' key Decodes before a := by
  constructor
  · rintro (⟨hmem, hu⟩ | habsent)
    · exact .present ((h _).1 hmem) hu
    · exact .absent fun u => mt (h u).2 (habsent u)
  · rintro (⟨hmem, hu⟩ | habsent)
    · exact .present ((h _).2 hmem) hu
    · exact .absent fun u => mt (h u).1 (habsent u)

theorem FromFile.iff_of_absent (habsent : ∀ u, (.text key, u) ∉ entries) :
    FromFile entries key Decodes before a ↔ a = before := by
  constructor
  · rintro (⟨hmem, -⟩ | -)
    · exact absurd hmem (habsent _)
    · rfl
  · rintro rfl
    exact .absent habsent

/-- The entry that is found for a key is the one that is there. -/
theorem given?_eq_some_iff (hkeys : KeysAreTexts entries) (hread : EntriesAreRead entries) :
    given? entries key = some u ↔ (.text key, u) ∈ entries := by
  constructor
  · intro h
    obtain ⟨e, hfound, rfl⟩ := Option.map_eq_some_iff.1 h
    have hmem := List.mem_of_find?_eq_some hfound
    have hsame := List.find?_some hfound
    obtain ⟨k, hk⟩ := hkeys e hmem
    rw [hk, same_text, beq_iff_eq] at hsame
    rwa [← hsame, ← hk]
  · intro hmem
    obtain ⟨before, after, rfl⟩ := List.append_of_mem hmem
    have hbefore : before.find? (fun e => e.1.same (.text key)) = none :=
      List.find?_eq_none.2 fun e he => by simp [hread.not_mem.1 e he]
    simp [given?, List.find?_append, hbefore, same_text]

theorem given?_eq_none_iff (hkeys : KeysAreTexts entries) (hread : EntriesAreRead entries) :
    given? entries key = none ↔ ∀ u, (.text key, u) ∉ entries := by
  rw [Option.eq_none_iff_forall_ne_some]
  exact forall_congr' fun u => not_congr (given?_eq_some_iff hkeys hread)

theorem FromFile.iff_of_mem (hkeys : KeysAreTexts entries) (hread : EntriesAreRead entries)
    (hmem : (.text key, u) ∈ entries) : FromFile entries key Decodes before a ↔ Decodes u a := by
  constructor
  · rintro (⟨hmem', h⟩ | habsent)
    · rw [← given?_eq_some_iff hkeys hread] at hmem hmem'
      obtain rfl := Option.some.inj (hmem.symm.trans hmem')
      exact h
    · exact absurd hmem (habsent u)
  · exact .present hmem

end FromFile

/-- **One field** is set from its entry, or left alone. -/
theorem setGiven_eq_ok_iff (hkeys : KeysAreTexts entries) (hread : EntriesAreRead entries) :
    setGiven entries c f = .ok c' ↔
      ∃ a, FromFile entries f.key f.Decodes (f.get c) a ∧ c' = f.put c a := by
  unfold setGiven
  cases hgiven : given? entries f.key with
  | some u =>
    have hmem := (given?_eq_some_iff hkeys hread).1 hgiven
    simp only [FromFile.iff_of_mem hkeys hread hmem]
    exact Field.set_eq_ok_iff (hread.fitsWord _ hmem)
  | none =>
    simp only [FromFile.iff_of_absent ((given?_eq_none_iff hkeys hread).1 hgiven),
      exists_eq_left, Field.put_get]
    simp [eq_comm]

/-- **Several fields**, each set from its own entry whatever the others are. -/
theorem foldlM_setGiven (hkeys : KeysAreTexts entries) (hread : EntriesAreRead entries)
    {fs : List Field} (hnodup : fs.Nodup) :
    fs.foldlM (setGiven entries) c = .ok c' ↔
      (∀ f ∈ fs, FromFile entries f.key f.Decodes (f.get c) (f.get c')) ∧
        (∀ f ∉ fs, f.get c' = f.get c) ∧ c'.resultsDir = c.resultsDir := by
  induction fs generalizing c with
  | nil =>
    constructor
    · intro h
      cases h
      simp
    · rintro ⟨-, hget, hdir⟩
      rw [eq_of_get_eq (fun f => hget f List.not_mem_nil) hdir]
      rfl
  | cons f fs ih =>
    obtain ⟨hf, hnodup⟩ := List.nodup_cons.1 hnodup
    have hne : ∀ {g}, g ∈ fs → g ≠ f := fun hg hgf => hf (hgf ▸ hg)
    rw [List.foldlM_cons, Cells.bind_eq_ok_iff]
    constructor
    · rintro ⟨between, hset, hrest⟩
      obtain ⟨a, ha, rfl⟩ := (setGiven_eq_ok_iff hkeys hread).1 hset
      obtain ⟨hin, hout, hdir⟩ := (ih hnodup).1 hrest
      refine ⟨List.forall_mem_cons.2 ⟨?_, fun g hg => ?_⟩, fun g hg => ?_, ?_⟩
      · rwa [hout f hf, Field.get_put_self]
      · have h := hin g hg
        rwa [Field.get_put_of_ne (hne hg)] at h
      · obtain ⟨hgf, hg⟩ := not_or.1 (mt List.mem_cons.2 hg)
        rw [hout g hg, Field.get_put_of_ne hgf]
      · rw [hdir, Field.resultsDir_put]
    · rintro ⟨hin, hout, hdir⟩
      obtain ⟨hfirst, hin⟩ := List.forall_mem_cons.1 hin
      refine ⟨f.put c (f.get c'), (setGiven_eq_ok_iff hkeys hread).2 ⟨_, hfirst, rfl⟩,
        (ih hnodup).2 ⟨fun g hg => ?_, fun g hg => ?_, ?_⟩⟩
      · rw [Field.get_put_of_ne (hne hg)]
        exact hin g hg
      · by_cases hgf : g = f
        · rw [hgf, Field.get_put_self]
        · rw [Field.get_put_of_ne hgf]
          exact hout g fun h => (List.mem_cons.1 h).elim hgf hg
      · rw [hdir, Field.resultsDir_put]

/-! ## The place for results -/

theorem isFieldKey_text (k : String) :
    isFieldKey (.text k) = Field.all.any fun f => f.key == k := by
  simp only [isFieldKey, same_text, BEq.comm]

/-- Unknown keys are passed over. -/
theorem foldlM_takeOther_unknown {seen : Bool} (hkeys : KeysAreTexts others)
    (hothers : ∀ e ∈ others, isFieldKey e.1 = false)
    (habsent : ∀ u, (.text resultsDirKey, u) ∉ others) :
    others.foldlM takeOther (c, seen) = .ok (c, seen) := by
  induction others with
  | nil => rfl
  | cons e others ih =>
    obtain ⟨⟨k, hk⟩, hkeysBehind⟩ := List.forall_mem_cons.1 hkeys
    obtain ⟨hother, hothersBehind⟩ := List.forall_mem_cons.1 hothers
    rw [hk, isFieldKey_text] at hother
    have hdir : k ≠ resultsDirKey := by
      rintro rfl
      exact habsent e.2 (hk ▸ List.mem_cons_self)
    have hstep : takeOther (c, seen) e = .ok (c, seen) := by
      simp [takeOther, hk, Value.untagged, hother, hdir]
    rw [List.foldlM_cons, hstep]
    exact ih hkeysBehind hothersBehind fun u hu => habsent u (List.mem_cons_of_mem _ hu)

theorem takeOther_resultsDir :
    takeOther (c, false) (.text resultsDirKey, u) =
      (pathOf u).map fun dir => ({ c with resultsDir := dir }, true) := by
  have hk : Field.all.any (fun f => f.key == resultsDirKey) = false := by decide
  simp [takeOther, Value.untagged, hk]

/-- The entry for the place for results is the only one that matters. -/
theorem foldlM_takeOther_known (hkeys : KeysAreTexts others) (hread : EntriesAreRead others)
    (hothers : ∀ e ∈ others, isFieldKey e.1 = false) (hmem : (.text resultsDirKey, u) ∈ others) :
    others.foldlM takeOther (c, false) =
      (pathOf u).map fun dir => ({ c with resultsDir := dir }, true) := by
  obtain ⟨before, after, rfl⟩ := List.append_of_mem hmem
  obtain ⟨hkeysBefore, hkeysBehind⟩ := List.forall_mem_append.1 hkeys
  obtain ⟨hothersBefore, hothersBehind⟩ := List.forall_mem_append.1 hothers
  have hbefore : before.foldlM takeOther (c, false) = .ok (c, false) :=
    foldlM_takeOther_unknown hkeysBefore hothersBefore fun w => (hread.not_mem.2 w).1
  have hafter : ∀ c, after.foldlM takeOther (c, true) = .ok (c, true) := fun c =>
    foldlM_takeOther_unknown (List.forall_mem_cons.1 hkeysBehind).2
      (List.forall_mem_cons.1 hothersBehind).2 fun w => (hread.not_mem.2 w).2
  rw [List.foldlM_append, hbefore]
  change List.foldlM takeOther (c, false) ((.text resultsDirKey, u) :: after) = _
  rw [List.foldlM_cons, takeOther_resultsDir]
  cases pathOf u with
  | error e => rfl
  | ok dir => exact hafter _

/-- **The place for results** is set from its entry, or left alone. -/
theorem foldlM_takeOther (hkeys : KeysAreTexts others) (hread : EntriesAreRead others)
    (hothers : ∀ e ∈ others, isFieldKey e.1 = false) :
    (∃ seen, others.foldlM takeOther (c, false) = .ok (c', seen)) ↔
      ∃ dir, FromFile others resultsDirKey IsPath c.resultsDir dir ∧
        c' = { c with resultsDir := dir } := by
  cases hgiven : given? others resultsDirKey with
  | some u =>
    have hmem := (given?_eq_some_iff hkeys hread).1 hgiven
    rw [foldlM_takeOther_known hkeys hread hothers hmem]
    simp [FromFile.iff_of_mem hkeys hread hmem, map_eq_ok_iff, pathOf_eq_ok_iff]
  | none =>
    have habsent := (given?_eq_none_iff hkeys hread).1 hgiven
    rw [foldlM_takeOther_unknown hkeys hothers habsent]
    constructor
    · rintro ⟨seen, h⟩
      cases h
      exact ⟨_, .absent habsent, rfl⟩
    · rintro ⟨dir, hdir, rfl⟩
      obtain rfl := (FromFile.iff_of_absent habsent).1 hdir
      exact ⟨false, rfl⟩

/-! ## Settings -/

/-- A setting of a configuration: a field that has a default, or the place for results. -/
inductive Setting where
  | field (f : Field)
  | resultsDir

namespace Setting

def key : Setting → String
  | .field f => f.key
  | .resultsDir => resultsDirKey

/-- The type of a setting. -/
abbrev Carrier : Setting → Type
  | .field f => f.Carrier
  | .resultsDir => Option String

/-- What a value stands for as that of a setting. -/
def Decodes : (s : Setting) → Value → s.Carrier → Prop
  | .field f => f.Decodes
  | .resultsDir => IsPath

def get (c : Config) : (s : Setting) → s.Carrier
  | .field f => f.get c
  | .resultsDir => c.resultsDir

/-- What the command line gives for a setting. -/
def given (o : Overrides) : (s : Setting) → Option s.Carrier
  | .field .baseUrl => o.baseUrl
  | .field .delayMs => o.delayMs
  | .resultsDir => o.resultsDir.map some
  | _ => none

end Setting

/-- The configuration with given settings. -/
def ofSettings (a : (s : Setting) → s.Carrier) : Config where
  baseUrl := a (.field .baseUrl)
  timeoutSecs := a (.field .timeoutSecs)
  delayMs := a (.field .delayMs)
  loginCaseId := a (.field .loginCaseId)
  tokenField := a (.field .tokenField)
  serverDownMarker := a (.field .serverDownMarker)
  unreachableBaseUrl := a (.field .unreachableBaseUrl)
  defaultEndpoint := a (.field .defaultEndpoint)
  casePattern := a (.field .casePattern)
  recursive := a (.field .recursive)
  exclude := a (.field .exclude)
  resultsDir := a .resultsDir

@[simp] theorem get_ofSettings (a : (s : Setting) → s.Carrier) (s : Setting) :
    s.get (ofSettings a) = a s := by
  cases s with
  | field f => cases f <;> rfl
  | resultsDir => rfl

/-- The value of a setting by a file, where the defaults stand behind it. -/
def Setting.Holds (entries : List (Value × Value)) (s : Setting) : s.Carrier → Prop :=
  FromFile entries s.key s.Decodes (s.get {})

/-- **The configuration that a file describes** has the settings of the file. -/
theorem ofValue_eq_ok_iff (hmapping : v.untagged = .mapping entries) (hkeys : KeysAreTexts entries)
    (hread : EntriesAreRead entries) :
    ofValue v = .ok c ↔ ∀ s : Setting, s.Holds entries (s.get c) := by
  have hkeys' : KeysAreTexts (entries.filter fun e => !isFieldKey e.1) :=
    fun e he => hkeys e (List.mem_of_mem_filter he)
  have hread' := hread.filter fun e => !isFieldKey e.1
  have hothers : ∀ e ∈ entries.filter (fun e => !isFieldKey e.1), isFieldKey e.1 = false :=
    fun e he => by simpa using (List.mem_filter.1 he).2
  have hdirs : ∀ u, (.text resultsDirKey, u) ∈ entries.filter (fun e => !isFieldKey e.1) ↔
      (.text resultsDirKey, u) ∈ entries := by
    have hkey : isFieldKey (.text resultsDirKey) = false := by
      rw [isFieldKey_text]
      decide
    simp [List.mem_filter, hkey]
  have hget : ∀ (f : Field) (c : Config) dir, f.get { c with resultsDir := dir } = f.get c := by
    intro f c dir
    cases f <;> rfl
  rw [ofValue, hmapping]
  constructor
  · intro h
    obtain ⟨c₁, hfields, h⟩ := Cells.bind_eq_ok_iff.1 h
    obtain ⟨⟨c₂, seen⟩, hdir, h⟩ := Cells.bind_eq_ok_iff.1 h
    cases h
    obtain ⟨hin, -, hnone⟩ := (foldlM_setGiven hkeys hread Field.nodup_all).1 hfields
    obtain ⟨dir, hplace, rfl⟩ := (foldlM_takeOther hkeys' hread' hothers).1 ⟨seen, hdir⟩
    intro s
    cases s with
    | field f =>
      rw [Setting.get, hget]
      exact hin f f.mem_all
    | resultsDir =>
      rw [hnone] at hplace
      exact (FromFile.congr hdirs).1 hplace
  · intro h
    have hfields : Field.all.foldlM (setGiven entries) {} = .ok { c with resultsDir := none } := by
      refine (foldlM_setGiven hkeys hread Field.nodup_all).2
        ⟨fun f _ => ?_, fun f hf => absurd f.mem_all hf, rfl⟩
      rw [hget]
      exact h (.field f)
    obtain ⟨seen, hdir⟩ : ∃ seen, (entries.filter fun e => !isFieldKey e.1).foldlM takeOther
        ({ c with resultsDir := none }, false) = .ok (c, seen) :=
      (foldlM_takeOther hkeys' hread' hothers).2
        ⟨c.resultsDir, (FromFile.congr hdirs).2 (h .resultsDir), rfl⟩
    exact Cells.bind_eq_ok_iff.2 ⟨_, hfields, Cells.bind_eq_ok_iff.2 ⟨_, hdir, rfl⟩⟩

/-- Which files load at all. -/
theorem exists_ofValue_iff (hmapping : v.untagged = .mapping entries)
    (hkeys : KeysAreTexts entries) (hread : EntriesAreRead entries) :
    (∃ c, ofValue v = .ok c) ↔
      ∀ (s : Setting) u, (.text s.key, u) ∈ entries → ∃ a, s.Decodes u a := by
  constructor
  · rintro ⟨c, hc⟩ s u hmem
    have hs := (ofValue_eq_ok_iff hmapping hkeys hread).1 hc s
    exact ⟨_, (FromFile.iff_of_mem hkeys hread hmem).1 hs⟩
  · intro hdecodes
    have hholds : ∀ s : Setting, ∃ a, s.Holds entries a := by
      intro s
      by_cases hpresent : ∃ u, (.text s.key, u) ∈ entries
      · obtain ⟨u, hmem⟩ := hpresent
        obtain ⟨a, ha⟩ := hdecodes s u hmem
        exact ⟨a, .present hmem ha⟩
      · exact ⟨_, .absent (not_exists.1 hpresent)⟩
    choose a ha using hholds
    refine ⟨ofSettings a, (ofValue_eq_ok_iff hmapping hkeys hread).2 fun s => ?_⟩
    rw [get_ofSettings]
    exact ha s

/-! ## Layers -/

/-- The file at a path is a mapping with texts for keys, whose entries have the given nodes. -/
structure IsMapping (files : FileStore) (path : String) (d : Document)
    (nodes : List (LinkedNode × LinkedNode)) : Prop where
  text : ∃ text, files.readText path = .ok text ∧ Yaml.readDocument? text.toList = some d
  root : ∃ m p, d.root = .mapping m p nodes
  keys : ∀ e ∈ nodes, (d.text? e.1).isSome

section IsMapping

variable {files : FileStore} {path : String} {d : Document}
  {nodes : List (LinkedNode × LinkedNode)}

/-- Where the entries have values, the file loads as the mapping of these does. -/
theorem IsMapping.load_eq_ok_iff (h : IsMapping files path d nodes)
    (hentries : d.Converts nodes entries) :
    load files path = .ok c ↔ ∀ s : Setting, s.Holds entries (s.get c) := by
  obtain ⟨text, htext, hdocument⟩ := h.text
  obtain ⟨m, p, hroot⟩ := h.root
  have hvalue := (Document.value?_eq_some_iff hroot).2 ⟨entries, hentries, rfl⟩
  have huntagged : (Document.withTag p.tag (.mapping entries)).untagged = .mapping entries := by
    rw [Document.untagged_withTag, Value.untagged]
    exact nofun
  rw [← ofValue_eq_ok_iff huntagged (hentries.keysAreTexts h.keys) hentries.entriesAreRead]
  simp only [load, htext, hdocument, Option.bind_some, hvalue]
  cases ofValue (Document.withTag p.tag (.mapping entries)) <;> simp

/-- The entries of a file that loads have values. -/
theorem IsMapping.exists_converts (h : IsMapping files path d nodes)
    (hload : load files path = .ok c) : ∃ entries, d.Converts nodes entries := by
  obtain ⟨text, htext, hdocument⟩ := h.text
  obtain ⟨m, p, hroot⟩ := h.root
  simp only [load, htext, hdocument, Option.bind_some] at hload
  cases hvalue : d.value? with
  | none => simp [hvalue] at hload
  | some v =>
    obtain ⟨entries, hentries, -⟩ := (Document.value?_eq_some_iff hroot).1 hvalue
    exact ⟨entries, hentries⟩

/-- **Which mappings load**: those whose entries have values, in which the value of each key of a
setting is of its type. -/
theorem IsMapping.exists_load_iff (h : IsMapping files path d nodes) :
    (∃ c, load files path = .ok c) ↔ ∃ entries, d.Converts nodes entries ∧
      ∀ (s : Setting) u, (.text s.key, u) ∈ entries → ∃ a, s.Decodes u a := by
  have hdecodes : ∀ entries, d.Converts nodes entries →
      ((∃ c, load files path = .ok c) ↔
        ∀ (s : Setting) u, (.text s.key, u) ∈ entries → ∃ a, s.Decodes u a) := by
    intro entries hentries
    have hkeys := hentries.keysAreTexts h.keys
    have hread := hentries.entriesAreRead
    rw [← exists_ofValue_iff (v := .mapping entries) rfl hkeys hread]
    exact exists_congr fun c => (h.load_eq_ok_iff hentries).trans
      (ofValue_eq_ok_iff rfl hkeys hread).symm
  constructor
  · rintro ⟨c, hc⟩
    obtain ⟨entries, hentries⟩ := h.exists_converts hc
    exact ⟨entries, hentries, (hdecodes entries hentries).1 ⟨c, hc⟩⟩
  · rintro ⟨entries, hentries, h⟩
    exact (hdecodes entries hentries).2 h

end IsMapping

/-- The command line replaces what it gives, and nothing else. -/
theorem get_withOverrides (c : Config) (o : Overrides) (s : Setting) :
    s.get (c.withOverrides o) = (s.given o).getD (s.get c) := by
  cases s with
  | field f => cases f <;> rfl
  | resultsDir => cases h : o.resultsDir <;> simp [Setting.get, Setting.given, withOverrides, h]

/-- The value of a setting by the highest layer that has it: the command line, then the file, then
the defaults. -/
inductive Effective (o : Overrides) (entries : List (Value × Value)) (s : Setting) :
    s.Carrier → Prop where
  | commandLine {a : s.Carrier} (h : s.given o = some a) : Effective o entries s a
  | file {u : Value} {a : s.Carrier} (hnone : s.given o = none)
      (hmem : (.text s.key, u) ∈ entries) (h : s.Decodes u a) : Effective o entries s a
  | default (hnone : s.given o = none) (habsent : ∀ u, (.text s.key, u) ∉ entries) :
      Effective o entries s (s.get {})

theorem effective_withOverrides (h : ∀ s : Setting, s.Holds entries (s.get c)) (o : Overrides)
    (s : Setting) : Effective o entries s (s.get (c.withOverrides o)) := by
  rw [get_withOverrides]
  cases hgiven : s.given o with
  | some a => exact .commandLine hgiven
  | none =>
    have hs := h s
    rw [Option.getD_none]
    generalize s.get c = a at hs
    obtain ⟨hmem, ha⟩ | habsent := hs
    · exact .file hgiven hmem ha
    · exact .default hgiven habsent

/-- The settings of a run carry on those of a configuration; only the slashes at the end of the base
URL are left out. -/
structure CarriesOn (c : Config) (r : RunSettings) : Prop where
  baseUrl : ∃ n, c.baseUrl.toList = r.baseUrl.toList ++ List.replicate n '/'
  no_slash : r.baseUrl.toList.getLast? ≠ some '/'
  timeout : r.timeout = ⟨c.timeoutSecs, 0⟩
  delay : r.delay.secs * 1000000000 + r.delay.nanos = c.delayMs * 1000000
  nanos_lt : r.delay.nanos < 1000000000
  loginCaseId : r.loginCaseId = c.loginCaseId
  tokenField : r.tokenField = c.tokenField
  serverDownMarker : r.serverDownMarker = c.serverDownMarker
  unreachableBaseUrl : r.unreachableBaseUrl = c.unreachableBaseUrl
  defaultEndpoint : r.defaultEndpoint = c.defaultEndpoint

theorem carriesOn_runSettings (c : Config) : CarriesOn c c.runSettings where
  baseUrl := by
    obtain ⟨back, hback, hsplit⟩ := Text.exists_dropEndWhile (· == '/') c.baseUrl.toList
    have hslashes : back = List.replicate back.length '/' :=
      List.eq_replicate_iff.2 ⟨rfl, fun a ha => by simpa using hback a ha⟩
    refine ⟨back.length, ?_⟩
    rw [← hslashes, runSettings, String.toList_ofList]
    exact hsplit
  no_slash := by
    intro h
    rw [runSettings, String.toList_ofList] at h
    exact Bool.noConfusion (Text.not_of_getLast?_dropEndWhile h)
  timeout := rfl
  delay := by
    simp only [runSettings, Http.Span.ofMillis]
    omega
  nanos_lt := by
    simp only [runSettings, Http.Span.ofMillis]
    omega
  loginCaseId := rfl
  tokenField := rfl
  serverDownMarker := rfl
  unreachableBaseUrl := rfl
  defaultEndpoint := rfl

/-- **Where the settings of a run come from.** A file that is a mapping with texts for keys loads if
and only if each of its entries has a value, under whatever key, with keys that differ and aliases
that are allowed, and the value of each key of a setting is of its type. Each setting is then that of
the file if it has the key, and the default otherwise; files that agree on the keys of settings load
alike, as long as the entries of both have values. The command line replaces what it gives and
nothing else, so that each setting is that of the highest layer that has it, and a run goes by these
settings. -/
theorem load_layers {files : FileStore} {path : String} {d : Document}
    {nodes : List (LinkedNode × LinkedNode)} (h : IsMapping files path d nodes) :
    ((∃ c, load files path = .ok c) ↔ ∃ entries, d.Converts nodes entries ∧
      ∀ (s : Setting) u, (.text s.key, u) ∈ entries → ∃ a, s.Decodes u a) ∧
    ∀ entries, d.Converts nodes entries →
      (∀ c, load files path = .ok c →
        (∀ s : Setting, s.Holds entries (s.get c)) ∧
        ∀ o, (∀ s : Setting, s.get (c.withOverrides o) = (s.given o).getD (s.get c)) ∧
          (∀ s : Setting, Effective o entries s (s.get (c.withOverrides o))) ∧
          CarriesOn (c.withOverrides o) (c.withOverrides o).runSettings) ∧
      ∀ files' path' d' nodes' entries', IsMapping files' path' d' nodes' →
        d'.Converts nodes' entries' →
        (∀ (s : Setting) u, (.text s.key, u) ∈ entries ↔ (.text s.key, u) ∈ entries') →
        ∀ c, load files path = .ok c ↔ load files' path' = .ok c := by
  refine ⟨h.exists_load_iff, fun entries hentries => ⟨fun c hc => ?_,
    fun files' path' d' nodes' entries' h' hentries' hsame c => ?_⟩⟩
  · have hholds := (h.load_eq_ok_iff hentries).1 hc
    exact ⟨hholds, fun o => ⟨get_withOverrides c o, effective_withOverrides hholds o,
      carriesOn_runSettings _⟩⟩
  · rw [h.load_eq_ok_iff hentries, h'.load_eq_ok_iff hentries']
    exact forall_congr' fun s => FromFile.congr (hsame s)

/-! ## Single files -/

/-- The keys of the mapping that a document is, as far as they are texts. -/
def keys? (d : Document) : Option (List (Option String)) :=
  match d.root with
  | .mapping _ _ nodes => some (nodes.map fun e => d.text? e.1)
  | _ => none

/-- A directory with a file of a given text. -/
def configFolder (text : String) : FileStore where
  tree := .directory [("run.yaml", .file (some text))]
  workingDir := []

theorem exists_isMapping {text : String}
    (htext : (configFolder text).readText "run.yaml" = .ok text) (keys : List String)
    (hkeys : (Yaml.readDocument? text.toList).bind keys? = some (keys.map some)) :
    ∃ d nodes, IsMapping (configFolder text) "run.yaml" d nodes ∧
      nodes.map (fun e => d.text? e.1) = keys.map some := by
  obtain ⟨d, hdocument, hd⟩ := Option.bind_eq_some_iff.1 hkeys
  unfold keys? at hd
  split at hd
  · next m p nodes hroot =>
    have hnodes := Option.some.inj hd
    refine ⟨d, nodes, ⟨⟨text, htext, hdocument⟩, ⟨m, p, hroot⟩, fun e he => ?_⟩, hnodes⟩
    have hmem : d.text? e.1 ∈ keys.map some := hnodes ▸ List.mem_map_of_mem he
    obtain ⟨key, -, hkey⟩ := List.mem_map.1 hmem
    rw [← hkey, Option.isSome_some]
  · cases hd

/-- Of a file with an unknown key, and null for the place for results, the base URL holds, without
its slashes, and the pause of the command line. -/
theorem load_layers_folder :
    let files := configFolder "note: [1]\ndelay_ms: 7\nresults_dir: ~\nbase_url: http://a//\n"
    ∃ d nodes entries, IsMapping files "run.yaml" d nodes ∧ d.Converts nodes entries ∧
      load files "run.yaml" = .ok { delayMs := 7, baseUrl := "http://a//" } ∧
      (∀ s : Setting, Effective { delayMs := some 9 } entries s
        (s.get { delayMs := 9, baseUrl := "http://a//" })) ∧
      CarriesOn { delayMs := 9, baseUrl := "http://a//" }
        { delay := ⟨0, 9000000⟩, baseUrl := "http://a" } := by
  intro files
  have htext : files.readText "run.yaml" = .ok
      "note: [1]\ndelay_ms: 7\nresults_dir: ~\nbase_url: http://a//\n" := by decide +kernel
  obtain ⟨d, nodes, hmapping, -⟩ := exists_isMapping htext
    ["note", "delay_ms", "results_dir", "base_url"] (by decide +kernel)
  have hload : load files "run.yaml" = .ok { delayMs := 7, baseUrl := "http://a//" } := by
    decide +kernel
  obtain ⟨hloads, hlayers⟩ := load_layers hmapping
  obtain ⟨entries, hentries, -⟩ := hloads.1 ⟨_, hload⟩
  obtain ⟨-, hoverrides⟩ := (hlayers entries hentries).1 _ hload
  obtain ⟨-, heffective, hcarries⟩ := hoverrides { delayMs := some 9 }
  exact ⟨d, nodes, entries, hmapping, hentries, hload, heffective, hcarries⟩

/-- A whole number beyond 64 bits keeps a file from loading, although its key is unknown. -/
theorem not_load_wide_note :
    let files := configFolder "note: 99999999999999999999\n"
    ∃ d nodes, IsMapping files "run.yaml" d nodes ∧
      (∀ s : Setting, ∀ e ∈ nodes, d.text? e.1 ≠ some s.key) ∧
      ∀ c, load files "run.yaml" ≠ .ok c := by
  intro files
  have htext : files.readText "run.yaml" = .ok "note: 99999999999999999999\n" := by decide +kernel
  obtain ⟨d, nodes, hmapping, hkeys⟩ := exists_isMapping htext ["note"] (by decide +kernel)
  refine ⟨d, nodes, hmapping, fun s e he hkey => ?_, fun c hc => ?_⟩
  · have hmem : some s.key ∈ ["note"].map some := by
      rw [← hkeys, ← hkey]
      exact List.mem_map_of_mem he
    have hunknown : s.key ≠ "note" := by
      cases s with
      | field f => cases f <;> decide +kernel
      | resultsDir => decide +kernel
    simp [hunknown] at hmem
  · have hmalformed : load files "run.yaml" = .error (.malformed "run.yaml") := by decide +kernel
    cases hmalformed.symm.trans hc

end CaseSheet.Config

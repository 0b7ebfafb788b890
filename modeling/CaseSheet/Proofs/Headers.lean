import CaseSheet.Http.Headers
/-!
# Merged headers

Headers that are given for a request are merged one by one into those it has: a name that is there,
in whatever case of letters, gets the new value and keeps its place and spelling, any other name goes
to the end. So names come once, in the order and the spelling in which they are met first, while the
value that counts for a name is the one that was given last.

* `Headers.names_merge`: which names there are, in which order and spelling.
* `Headers.get?_merge`: the value under a name.
* `Headers.build_merges`: the headers of a request.
-/
namespace CaseSheet.Http.Headers

open Text (sameAsciiFold)

variable {hs given : Headers} {token : Option String} {name n : String}

/-- The names of a list, each once, in the order and the spelling in which they come first. -/
def firstSpellings : List String → List String
  | [] => []
  | n :: ns => n :: (firstSpellings ns).filter fun m => !sameAsciiFold n m

/-- No two headers have the same name, whatever the case of its letters. -/
def Unique (hs : Headers) : Prop := hs.Pairwise fun a b => sameAsciiFold a.1 b.1 = false

/-- Sets the values of given headers, one behind the other. -/
def merge (given hs : Headers) : Headers := given.foldl (fun hs h => set h.1 h.2 hs) hs

/-- What a token adds behind the given headers: a credential, unless one is among them. -/
def credential (given : Headers) : Option String → Headers
  | some t =>
    if given.any fun h => sameAsciiFold h.1 "authorization" then []
    else [("Authorization", "Bearer " ++ t)]
  | none => []

/-! ## Names that are the same but for the case of letters -/

theorem sameAsciiFold_comm (a b : String) : sameAsciiFold a b = sameAsciiFold b a := by
  rw [Bool.eq_iff_iff, Text.sameAsciiFold_iff, Text.sameAsciiFold_iff, eq_comm]

/-- Names that are the same are so to the same names. -/
theorem sameAsciiFold_congr {a b : String} (h : sameAsciiFold a b = true) (n : String) :
    sameAsciiFold a n = sameAsciiFold b n := by
  rw [Text.sameAsciiFold_iff] at h
  rw [Bool.eq_iff_iff, Text.sameAsciiFold_iff, Text.sameAsciiFold_iff, h]

/-- A name is there under each of its spellings or under none. -/
theorem has_congr {a b : String} (h : sameAsciiFold a b = true) (hs : Headers) :
    hs.has a = hs.has b := by
  refine congrArg (List.any hs) (funext fun e => ?_)
  rw [sameAsciiFold_comm, sameAsciiFold_congr h, sameAsciiFold_comm]

theorem pairwise_firstSpellings (ns : List String) :
    (firstSpellings ns).Pairwise fun a b => sameAsciiFold a b = false := by
  induction ns with
  | nil => exact .nil
  | cons n ns ih =>
    rw [firstSpellings, List.pairwise_cons]
    refine ⟨fun m hm => ?_, ih.filter _⟩
    simpa using (List.mem_filter.1 hm).2

theorem firstSpellings_subset (ns : List String) : firstSpellings ns ⊆ ns := by
  induction ns with
  | nil => exact List.Subset.refl _
  | cons n ns ih =>
    rw [firstSpellings, List.cons_subset]
    refine ⟨List.mem_cons_self, fun m hm => ?_⟩
    exact List.mem_cons_of_mem n (ih (List.mem_filter.1 hm).1)

/-! ## One header -/

theorem has_eq_any (hs : Headers) (n : String) :
    hs.has n = (hs.map (·.1)).any (sameAsciiFold · n) := by
  rw [has, List.any_map]
  rfl

/-- Setting a value keeps the names that are there, and adds its own where it is not. -/
theorem names_set (name value : String) (hs : Headers) :
    (set name value hs).map (·.1) =
      if hs.has name then hs.map (·.1) else hs.map (·.1) ++ [name] := by
  induction hs with
  | nil => rfl
  | cons h hs ih =>
    rw [set]
    cases hsame : sameAsciiFold h.1 name with
    | true => simp [has, hsame]
    | false =>
      have hhas : has (h :: hs) name = has hs name := by simp [has, hsame]
      rw [if_neg Bool.false_ne_true, List.map_cons, ih, hhas, List.map_cons, List.cons_append]
      split <;> rfl

/-- The value that has been set is found, in whatever case; other names keep theirs. -/
theorem get?_set (name value : String) (hs : Headers) (n : String) :
    (set name value hs).get? n = if sameAsciiFold name n then some value else hs.get? n := by
  induction hs with
  | nil =>
    rw [set, get?, List.find?_cons]
    cases sameAsciiFold name n <;> rfl
  | cons h hs ih =>
    rw [set]
    cases hsame : sameAsciiFold h.1 name with
    | true =>
      rw [if_pos rfl, get?, get?, List.find?_cons, List.find?_cons, ← sameAsciiFold_congr hsame]
      cases sameAsciiFold h.1 n <;> rfl
    | false =>
      rw [if_neg Bool.false_ne_true, get?, List.find?_cons]
      cases hn : sameAsciiFold h.1 n with
      | true =>
        -- The header in front has this name, so the one that is set has not.
        have hname : sameAsciiFold name n = false := by
          rw [sameAsciiFold_congr hn, sameAsciiFold_comm] at hsame
          exact hsame
        simp [get?, hn, hname]
      | false =>
        rw [get?, List.find?_cons, hn]
        exact ih

theorem has_set (name value : String) (hs : Headers) (n : String) :
    (set name value hs).has n = (hs.has n || sameAsciiFold name n) := by
  rw [has_eq_any, names_set]
  split
  · next hhas =>
    rw [← has_eq_any]
    cases hsame : sameAsciiFold name n with
    | true => rw [← has_congr hsame, hhas, Bool.or_true]
    | false => rw [Bool.or_false]
  · rw [List.any_append, ← has_eq_any, List.any_cons, List.any_nil, Bool.or_false]

/-! ## All headers that are given -/

theorem merge_cons (h : String × String) (given hs : Headers) :
    merge (h :: given) hs = merge given (set h.1 h.2 hs) := rfl

/-- **The names after a merge**: those that were there, and behind them the others that are given,
each where it first comes and as it is spelled there. -/
theorem names_merge (given hs : Headers) :
    (merge given hs).map (·.1) =
      hs.map (·.1) ++ (firstSpellings (given.map (·.1))).filter fun n => !hs.has n := by
  induction given generalizing hs with
  | nil => exact (List.append_nil _).symm
  | cons h given ih =>
    rw [merge_cons, ih, names_set, List.map_cons, firstSpellings, List.filter_cons,
      List.filter_filter]
    simp only [has_set, Bool.not_or]
    cases hs.has h.1 with
    | true => rfl
    | false => exact List.append_assoc _ _ _

theorem has_merge (given hs : Headers) (n : String) :
    (merge given hs).has n = (hs.has n || given.any fun h => sameAsciiFold h.1 n) := by
  induction given generalizing hs with
  | nil => exact (Bool.or_false _).symm
  | cons h given ih => rw [merge_cons, ih, has_set, List.any_cons, Bool.or_assoc]

/-- **The value after a merge** is the one given last under the name, or else what was there. -/
theorem get?_merge (given hs : Headers) (n : String) :
    (merge given hs).get? n =
      ((given.reverse.find? fun h => sameAsciiFold h.1 n).map (·.2)).or (hs.get? n) := by
  induction given generalizing hs with
  | nil => rfl
  | cons h given ih =>
    rw [merge_cons, ih, get?_set, List.reverse_cons, List.find?_append, Option.map_or,
      Option.or_assoc]
    congr 1
    rw [List.find?_singleton]
    split <;> rfl

/-! ## The headers of a request -/

theorem build_eq (given : Headers) (token : Option String) :
    build given token = merge given base ++ credential given token := by
  have hbase : base.has "authorization" = false := by decide
  cases token with
  | none => exact (List.append_nil _).symm
  | some t =>
    change (if (merge given base).has "authorization" then merge given base else _) = _
    rw [has_merge, hbase, Bool.false_or, credential]
    split
    · exact (List.append_nil _).symm
    · rfl

/-- The names of the headers are those of the merge, and behind them that of the credential. -/
theorem names_build (given : Headers) (token : Option String) :
    (build given token).map (·.1) =
      "Content-Type" :: ((firstSpellings (given.map (·.1))).filter
        fun n => !sameAsciiFold n "content-type") ++ (credential given token).map (·.1) := by
  have hbase : ∀ n, base.has n = sameAsciiFold n "content-type" := fun n => by
    rw [has_eq_any, sameAsciiFold_comm, sameAsciiFold_congr (b := "Content-Type") (by decide)]
    exact Bool.or_false _
  rw [build_eq, List.map_append, names_merge]
  simp only [hbase]
  rfl

/-- There is a credential only where none is given. -/
theorem of_mem_credential {h : String × String} (hmem : h ∈ credential given token) :
    h.1 = "Authorization" ∧ ∀ h' ∈ given, sameAsciiFold h'.1 "authorization" = false := by
  cases token with
  | none => cases hmem
  | some t =>
    rw [credential] at hmem
    split at hmem
    · cases hmem
    · next hnone =>
      rw [List.mem_singleton.1 hmem]
      exact ⟨rfl, by simpa using hnone⟩

/-- The headers of a request have different names. -/
theorem unique_build (given : Headers) (token : Option String) : (build given token).Unique := by
  suffices hnames : ((build given token).map (·.1)).Pairwise
      fun a b => sameAsciiFold a b = false from List.pairwise_map.1 hnames
  rw [names_build, List.pairwise_append, List.pairwise_cons]
  refine ⟨⟨fun m hm => ?_, (pairwise_firstSpellings _).filter _⟩, ?_, fun m hm m' hm' => ?_⟩
  · have hother : sameAsciiFold m "content-type" = false := by
      simpa using (List.mem_filter.1 hm).2
    rwa [sameAsciiFold_congr (b := "content-type") (by decide), sameAsciiFold_comm]
  · cases token with
    | none => exact .nil
    | some t =>
      rw [credential]
      split
      · exact .nil
      · exact List.pairwise_singleton _ _
  · -- The name of the credential is neither the first one nor that of a given header.
    obtain ⟨h', hh', rfl⟩ := List.mem_map.1 hm'
    obtain ⟨hname, hnone⟩ := of_mem_credential hh'
    rw [hname]
    rcases List.mem_cons.1 hm with rfl | hm
    · decide
    · obtain ⟨h, hh, rfl⟩ := List.mem_map.1 (firstSpellings_subset _ (List.mem_filter.1 hm).1)
      rw [sameAsciiFold_comm, sameAsciiFold_congr (b := "authorization") (by decide),
        sameAsciiFold_comm]
      exact hnone h hh

theorem get?_base (n : String) :
    base.get? n = if sameAsciiFold n "content-type" then some "application/json" else none := by
  have hn : sameAsciiFold "Content-Type" n = sameAsciiFold n "content-type" := by
    rw [sameAsciiFold_congr (b := "content-type") (by decide), sameAsciiFold_comm]
  rw [← hn, get?, base, List.find?_singleton]
  split <;> rfl

/-- What a name finds in the credential, if it was not given. -/
theorem get?_credential (hgiven : ∀ h ∈ given, sameAsciiFold h.1 n = false) :
    (credential given token).get? n =
      if sameAsciiFold n "authorization" then token.map ("Bearer " ++ ·) else none := by
  cases token with
  | none => rw [Option.map_none, ite_self]; rfl
  | some t =>
    have hn : sameAsciiFold "Authorization" n = sameAsciiFold n "authorization" := by
      rw [sameAsciiFold_congr (b := "authorization") (by decide), sameAsciiFold_comm]
    rw [credential]
    cases hsame : sameAsciiFold n "authorization" with
    | true =>
      have hnone : (given.any fun h => sameAsciiFold h.1 "authorization") = false := by
        rw [List.any_eq_false]
        intro h hh
        rw [sameAsciiFold_comm, ← sameAsciiFold_congr hsame, sameAsciiFold_comm, hgiven h hh]
        exact Bool.false_ne_true
      simp [hnone, get?, hn, hsame]
    | false =>
      split
      · rfl
      · simp [get?, hn, hsame]

/-- **The headers of a request**, whatever headers are given and with a token or without: no two
have the same name; the content type leads, the other given names follow as they first come and are
spelled there, and last stands the credential of a token, just if there is a token and no credential
is given. Under a name stands the value that was given last for it, or else the usual one. -/
theorem build_merges (given : Headers) (token : Option String) :
    (build given token).Unique ∧
    (∃ value others,
      build given token = ("Content-Type", value) :: (others ++ credential given token) ∧
      others.map (·.1) = (firstSpellings (given.map (·.1))).filter
        fun n => !sameAsciiFold n "content-type") ∧
    ∀ n, (build given token).get? n =
      match given.reverse.find? fun h => sameAsciiFold h.1 n with
      | some h => some h.2
      | none =>
        if sameAsciiFold n "content-type" then some "application/json"
        else if sameAsciiFold n "authorization" then token.map ("Bearer " ++ ·)
        else none := by
  refine ⟨unique_build given token, ?_, fun n => ?_⟩
  · have hnames := names_build given token
    rw [build_eq, List.map_append, List.append_left_inj] at hnames
    obtain ⟨⟨name, value⟩, others, hmerge, hname, hothers⟩ := List.map_eq_cons_iff.1 hnames
    obtain rfl : name = "Content-Type" := hname
    exact ⟨value, others, by rw [build_eq, hmerge]; rfl, hothers⟩
  · have hsplit : (build given token).get? n =
        ((merge given base).get? n).or ((credential given token).get? n) := by
      rw [build_eq, get?, List.find?_append, Option.map_or]
      rfl
    rw [hsplit, get?_merge]
    cases hlast : given.reverse.find? fun h => sameAsciiFold h.1 n with
    | some h => rfl
    | none =>
      have hgiven : ∀ h ∈ given, sameAsciiFold h.1 n = false := by simpa using hlast
      rw [get?_credential hgiven, get?_base]
      simp only [Option.map_none, Option.none_or]
      split <;> rfl

end CaseSheet.Http.Headers

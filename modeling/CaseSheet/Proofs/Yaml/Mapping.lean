import CaseSheet.Yaml.Value
import Mathlib.Data.List.Forall2
/-!
# Values of documents

What a node stands for is told without the order in which its parts are taken and without a count of
the aliases: each part stands for something, and the keys of a mapping differ. The program finds the
value of a node exactly if it stands for one and the aliases followed in it are within the allowance.
A whole number that a scalar stands for fits a signed or an unsigned word of 64 bits.

* `Document.StandsFor`, `Document.aliases`: what a node stands for, and how many aliases are in it.
* `Document.counts_takeEntry`, `Document.counts_foldlM`: one more entry of a mapping, and all of them.
* `Document.counts_valueOf`: the value that the program finds for a node.
* `Document.value?_eq_some_iff`: which documents that are mappings have a value.
-/
namespace CaseSheet.Yaml

namespace Value

variable {v : Value} {entries : List (Value × Value)}

/-- A value fits a word if it is a whole number. -/
def FitsWord (v : Value) : Prop := ∀ n, v.untagged = .int n → Meaning.fits 64 n = true

/-- The keys of entries differ from each other. -/
def KeysDiffer (entries : List (Value × Value)) : Prop :=
  entries.Pairwise fun e e' => e.1.same e'.1 = false

/-- The keys of entries differ, and the whole numbers among their values fit words. -/
structure EntriesAreRead (entries : List (Value × Value)) : Prop where
  distinct : KeysDiffer entries
  fitsWord : ∀ e ∈ entries, e.2.FitsWord

theorem same_text (k key : String) : (Value.text k).same (.text key) = (k == key) := by
  rw [same]

/-- No two entries have a text for their key in common. -/
theorem EntriesAreRead.not_mem {before after : List (Value × Value)} {key : String}
    (h : EntriesAreRead (before ++ (.text key, v) :: after)) :
    (∀ e ∈ before, e.1.same (.text key) = false) ∧
      ∀ w, (.text key, w) ∉ before ∧ (.text key, w) ∉ after := by
  have hsame : (Value.text key).same (.text key) = true := by simp [same_text]
  obtain ⟨-, hbehind, hfront⟩ := List.pairwise_append.1 h.distinct
  refine ⟨fun e he => hfront e he _ List.mem_cons_self, fun w => ⟨fun hw => ?_, fun hw => ?_⟩⟩
  · exact Bool.false_ne_true ((hfront _ hw _ List.mem_cons_self).symm.trans hsame)
  · exact Bool.false_ne_true (((List.pairwise_cons.1 hbehind).1 _ hw).symm.trans hsame)

theorem EntriesAreRead.filter (h : EntriesAreRead entries) (p : Value × Value → Bool) :
    EntriesAreRead (entries.filter p) :=
  ⟨h.distinct.filter p, fun e he => h.fitsWord e (List.mem_of_mem_filter he)⟩

end Value

open Value

/-! ## Scalars -/

namespace Meaning

variable {cs : List Char} {n : Int}

theorem fits_of_ofPlain (h : ofPlain cs = .int n) : fits 64 n = true := by
  unfold ofPlain at h
  split at h
  · cases h
  · split at h
    · cases h
    · split at h
      · next hfits =>
        cases h
        exact (Option.filter_eq_some_iff.1 hfits).2
      · cases h
      · split at h
        · cases h
        · split at h <;> cases h

/-- A scalar means a whole number only if it fits a word. -/
theorem fits_of_ofScalar? {tag : Option (List Char)} {style : Style}
    (h : ofScalar? tag style cs = some (.int n)) : fits 64 n = true := by
  have huntagged : ∀ {m}, (if style = .plain then ofPlain cs else .text) = .int m →
      fits 64 m = true := by
    intro m hm
    split at hm
    · exact fits_of_ofPlain hm
    · cases hm
  unfold ofScalar? at h
  dsimp only at h
  split at h
  · exact huntagged (Option.some.inj h)
  · split at h
    · cases hb : bool? cs <;> simp [hb] at h
    · split at h
      · next hfits =>
        obtain rfl := by simpa using h
        exact (Option.filter_eq_some_iff.1 hfits).2
      · cases h
      · cases h
    · cases hx : double? cs <;> simp [hx] at h
    · split at h <;> cases h
    · split at h
      · exact huntagged (Option.some.inj h)
      · cases h

end Meaning

theorem fitsWord_of_scalarValue? {tag : Option (List Char)} {style : Style} {cs : List Char}
    {v : Value} (h : scalarValue? tag style cs = some v) : v.FitsWord := by
  intro m hm
  unfold scalarValue? at h
  split at h <;> cases h
  case h_3 n hint =>
    obtain rfl : n = m := Value.int.inj hm
    exact Meaning.fits_of_ofScalar? hint
  all_goals cases hm

/-! ## Nodes -/

namespace Document

variable {d : Document} {depth : Nat} {n : LinkedNode} {v : Value}
  {nodes : List (LinkedNode × LinkedNode)} {es : List (Value × Value)}

/-- A scalar stands for a value, an own tag set aside. -/
def ScalarStandsFor (p : Properties Nat) (style : Style) (text : List Char) (v : Value) : Prop :=
  ∃ u, scalarValue? (if (ownTag? p.tag).isSome then none else p.tag) style text = some u ∧
    v = withTag p.tag u

/-- **What a node stands for**, where collections nest at most `depth` deep: every part of it has a
value, and the keys of each mapping differ. -/
def StandsFor (d : Document) : (depth : Nat) → LinkedNode → Value → Prop
  | 0, n, v =>
    match d.follow n with
    | .scalar _ p style cs => ScalarStandsFor p style cs v
    | _ => False
  | depth + 1, n, v =>
    match d.follow n with
    | .scalar _ p style cs => ScalarStandsFor p style cs v
    | .sequence _ p items =>
      ∃ vs, List.Forall₂ (StandsFor d depth) items vs ∧ v = withTag p.tag (.sequence vs)
    | .mapping _ p nodes =>
      ∃ es, List.Forall₂ (fun e e' => StandsFor d depth e.1 e'.1 ∧ StandsFor d depth e.2 e'.2)
        nodes es ∧ KeysDiffer es ∧ v = withTag p.tag (.mapping es)
    | .alias _ _ => False

/-- One for an alias. -/
def aliasHere : LinkedNode → Nat
  | .alias _ _ => 1
  | _ => 0

/-- The sizes of items together. -/
def total {γ : Type} (size : γ → Nat) : List γ → Nat
  | [] => 0
  | c :: cs => size c + total size cs

/-- How many aliases are followed in a node where collections nest at most `depth` deep; those in
what an alias stands for count each time it is followed. -/
def aliases (d : Document) : (depth : Nat) → LinkedNode → Nat
  | 0, n => aliasHere n
  | depth + 1, n => aliasHere n +
    match d.follow n with
    | .sequence _ _ items => total (aliases d depth) items
    | .mapping _ _ nodes => total (fun e => aliases d depth e.1 + aliases d depth e.2) nodes
    | _ => 0

/-- A computation has the results of a relation, after a fixed number of aliases and if these do not
exceed what is allowed; one that follows none has its results whatever has been counted before. -/
def Counts {α : Type} (allowed : Nat) (x : Counting α) (R : α → Prop) (k : Nat) : Prop :=
  ∀ used a used', x.run used = some (a, used') ↔
    R a ∧ used' = used + k ∧ used' ≤ max used allowed

section Counts

variable {α β : Type} {allowed k l : Nat} {x : Counting α} {R R' : α → Prop}

theorem Counts.congr (h : Counts allowed x R k) (hR : ∀ a, R a ↔ R' a) :
    Counts allowed x R' k := by
  intro used a used'
  rw [h used a used', hR a]

theorem counts_pure (a : α) : Counts allowed (pure a) (fun b => b = a) 0 := by
  intro used b used'
  change some (a, used) = some (b, used') ↔ _
  rw [Option.some.injEq, Prod.mk.injEq]
  constructor
  · rintro ⟨rfl, rfl⟩
    exact ⟨rfl, rfl, Nat.le_max_left _ _⟩
  · rintro ⟨rfl, rfl, -⟩
    exact ⟨rfl, rfl⟩

/-- Where there is no result, no alias is counted. -/
theorem counts_failure (k : Nat) : Counts allowed (failure : Counting α) (fun _ => False) k := by
  intro used a used'
  exact iff_of_false nofun And.left

/-- A computation that goes on behind another. -/
theorem Counts.bind {f : α → Counting β} {S : α → β → Prop} (hx : Counts allowed x R k)
    (hf : ∀ a, R a → Counts allowed (f a) (S a) l) :
    Counts allowed (x >>= f) (fun b => ∃ a, R a ∧ S a b) (k + l) := by
  intro used b used'
  rw [StateT.run_bind]
  constructor
  · intro h
    obtain ⟨⟨a, between⟩, hfirst, hsecond⟩ := Option.bind_eq_some_iff.1 h
    obtain ⟨ha, hbetween, hle⟩ := (hx used a between).1 hfirst
    obtain ⟨hb, hlast, hle'⟩ := (hf a ha between b used').1 hsecond
    exact ⟨⟨a, ha, hb⟩, by omega, by omega⟩
  · rintro ⟨⟨a, ha, hb⟩, hlast, hle⟩
    have hfirst := (hx used a (used + k)).2 ⟨ha, rfl, by omega⟩
    have hsecond := (hf a ha (used + k) b used').2 ⟨hb, by omega, by omega⟩
    exact Option.bind_eq_some_iff.2 ⟨(a, used + k), hfirst, hsecond⟩

/-- A computation that goes on behind one with a single result. -/
theorem Counts.bind_eq {a : α} {f : α → Counting β} {S : β → Prop}
    (hx : Counts allowed x (fun a' => a' = a) k) (hf : Counts allowed (f a) S l) :
    Counts allowed (x >>= f) S (k + l) :=
  (hx.bind (S := fun _ => S) fun _ h => h ▸ hf).congr fun b => by simp

/-- A result that is put into a value. -/
theorem Counts.map_pure {φ : α → β} (hx : Counts allowed x R k) :
    Counts allowed (x >>= fun a => pure (φ a)) (fun b => ∃ a, R a ∧ b = φ a) k :=
  hx.bind fun a _ => counts_pure (φ a)

/-- Computations for the items of a list, one after another. -/
theorem counts_mapM {γ : Type} {f : γ → Counting α} {S : γ → α → Prop} {size : γ → Nat}
    (h : ∀ c, Counts allowed (f c) (S c) (size c)) (cs : List γ) :
    Counts allowed (cs.mapM f) (List.Forall₂ S cs) (total size cs) := by
  induction cs with
  | nil =>
    rw [List.mapM_nil]
    exact (counts_pure []).congr fun _ => List.forall₂_nil_left_iff.symm
  | cons c cs ih =>
    rw [List.mapM_cons, total]
    refine ((h c).bind fun a _ => ih.map_pure).congr fun as => ?_
    rw [List.forall₂_cons_left_iff]
    constructor
    · rintro ⟨a, ha, as', has, rfl⟩
      exact ⟨a, as', ha, has, rfl⟩
    · rintro ⟨a, as', ha, has, rfl⟩
      exact ⟨a, ha, as', has, rfl⟩

variable {inner : LinkedNode → Counting Value} {S : LinkedNode → Value → Prop}
  {size : LinkedNode → Nat}

theorem counts_addEntry (hes : KeysDiffer es) (u v : Value) :
    Counts allowed (addEntry es u v)
      (fun es' => KeysDiffer es' ∧ es' = es ++ [(u, v)]) 0 := by
  have hkeys : KeysDiffer (es ++ [(u, v)]) ↔ hasKey es u = false := by
    simp [KeysDiffer, hasKey, List.pairwise_append, show es.Pairwise _ from hes]
  unfold addEntry
  cases hkey : hasKey es u with
  | true =>
    refine (counts_failure 0).congr fun es' => iff_of_false id ?_
    rintro ⟨hes', rfl⟩
    exact Bool.false_ne_true ((hkeys.1 hes').symm.trans hkey)
  | false =>
    refine (counts_pure _).congr fun es' => ⟨?_, And.right⟩
    rintro rfl
    exact ⟨hkeys.2 hkey, rfl⟩

/-- **One more entry**: its key is a new one. -/
theorem counts_takeEntry (hinner : ∀ n, Counts allowed (inner n) (S n) (size n))
    (hes : KeysDiffer es) (e : LinkedNode × LinkedNode) :
    Counts allowed (takeEntry inner es e)
      (fun es' => ∃ e', (S e.1 e'.1 ∧ S e.2 e'.2) ∧ KeysDiffer es' ∧ es' = es ++ [e'])
      (size e.1 + size e.2) := by
  refine ((hinner e.1).bind fun u _ =>
    (hinner e.2).bind fun v _ => counts_addEntry hes u v).congr fun es' => ?_
  constructor
  · rintro ⟨u, hu, v, hv, hes', rfl⟩
    exact ⟨(u, v), ⟨hu, hv⟩, hes', rfl⟩
  · rintro ⟨⟨u, v⟩, ⟨hu, hv⟩, hes', rfl⟩
    exact ⟨u, hu, v, hv, hes', rfl⟩

/-- All entries, one after another. -/
theorem counts_foldlM (hinner : ∀ n, Counts allowed (inner n) (S n) (size n))
    (hes : KeysDiffer es) (nodes : List (LinkedNode × LinkedNode)) :
    Counts allowed (nodes.foldlM (takeEntry inner) es)
      (fun es' => ∃ new, List.Forall₂ (fun e e' => S e.1 e'.1 ∧ S e.2 e'.2) nodes new ∧
        KeysDiffer es' ∧ es' = es ++ new)
      (total (fun e => size e.1 + size e.2) nodes) := by
  induction nodes generalizing es with
  | nil =>
    rw [List.foldlM_nil]
    refine (counts_pure es).congr fun es' => ?_
    simp only [List.forall₂_nil_left_iff, exists_eq_left, List.append_nil, iff_and_self]
    rintro rfl
    exact hes
  | cons e nodes ih =>
    rw [List.foldlM_cons, total]
    refine ((counts_takeEntry hinner hes e).bind (S := fun es₁ es' => ∃ new,
      List.Forall₂ (fun e e' => S e.1 e'.1 ∧ S e.2 e'.2) nodes new ∧
        KeysDiffer es' ∧ es' = es₁ ++ new) ?_).congr fun es' => ?_
    · rintro es₁ ⟨e', -, hes₁, -⟩
      exact ih hes₁
    · simp only [List.forall₂_cons_left_iff]
      constructor
      · rintro ⟨_, ⟨e', he', -, rfl⟩, new, hnew, hes', rfl⟩
        exact ⟨e' :: new, ⟨e', new, he', hnew, rfl⟩, hes', by simp⟩
      · rintro ⟨_, ⟨e', new, he', hnew, rfl⟩, hes', rfl⟩
        -- The entries up to this one are the first of all of them.
        have hes₁ : KeysDiffer (es ++ [e']) := hes'.sublist (by simp)
        exact ⟨es ++ [e'], ⟨e', he', hes₁, rfl⟩, new, hnew, hes', by simp⟩

end Counts

theorem counts_followed (d : Document) (n : LinkedNode) :
    Counts d.allowance (d.followed n) (fun n' => n' = d.follow n) (aliasHere n) := by
  cases n with
  | «alias» m i =>
    intro used n' used'
    change (if used < d.allowance then some (d.follow (.alias m i), used + 1) else none) =
      some (n', used') ↔
        n' = d.follow (.alias m i) ∧ used' = used + 1 ∧ used' ≤ max used d.allowance
    split
    · rw [Option.some.injEq, Prod.mk.injEq]
      constructor
      · rintro ⟨rfl, rfl⟩
        exact ⟨rfl, rfl, by omega⟩
      · rintro ⟨rfl, rfl, -⟩
        exact ⟨rfl, rfl⟩
    · refine iff_of_false nofun ?_
      rintro ⟨-, rfl, hle⟩
      omega
  | scalar | sequence | mapping => exact counts_pure _

theorem counts_ofScalar {allowed : Nat} (p : Properties Nat) (style : Style) (text : List Char) :
    Counts allowed (ofScalar p style text) (ScalarStandsFor p style text) 0 := by
  unfold ofScalar ScalarStandsFor
  cases scalarValue? (if (ownTag? p.tag).isSome then none else p.tag) style text with
  | none => exact (counts_failure 0).congr fun v => by simp
  | some u => exact (counts_pure _).congr fun v => by simp

/-- **The value of a node**: it has one exactly if it stands for it, and follows the aliases in
it. -/
theorem counts_valueOf (d : Document) (depth : Nat) (n : LinkedNode) :
    Counts d.allowance (d.valueOf depth n) (d.StandsFor depth n) (d.aliases depth n) := by
  induction depth generalizing n with
  | zero =>
    unfold valueOf aliases
    refine (counts_followed d n).bind_eq (l := 0) ?_
    unfold Counts StandsFor
    cases d.follow n with
    | scalar m p style cs => exact counts_ofScalar p style cs
    | sequence | mapping | «alias» => exact counts_failure 0
  | succ depth ih =>
    unfold valueOf aliases
    refine (counts_followed d n).bind_eq ?_
    unfold Counts StandsFor
    cases d.follow n with
    | scalar m p style cs => exact counts_ofScalar p style cs
    | sequence m p items => exact (counts_mapM ih items).map_pure
    | mapping m p nodes =>
      refine ((counts_foldlM ih List.Pairwise.nil nodes).map_pure).congr fun v => ?_
      simp only [List.nil_append]
      constructor
      · rintro ⟨es, ⟨_, hnodes, hes, rfl⟩, rfl⟩
        exact ⟨es, hnodes, hes, rfl⟩
      · rintro ⟨es, hnodes, hes, rfl⟩
        exact ⟨es, ⟨es, hnodes, hes, rfl⟩, rfl⟩
    | «alias» m i => exact counts_failure 0

/-! ## Mappings -/

theorem untagged_withTag (tag : Option (List Char)) (v : Value) :
    (withTag tag v).untagged = v.untagged := by
  unfold withTag
  split <;> rfl

theorem StandsFor.fitsWord (h : d.StandsFor depth n v) : v.FitsWord := by
  have hscalar : ∀ {p style cs}, ScalarStandsFor p style cs v → v.FitsWord := by
    rintro p style cs ⟨u, hu, rfl⟩ m hm
    exact fitsWord_of_scalarValue? hu m ((untagged_withTag _ _).symm.trans hm)
  cases depth with
  | zero =>
    unfold StandsFor at h
    split at h
    · exact hscalar h
    · exact h.elim
  | succ depth =>
    unfold StandsFor at h
    split at h
    · exact hscalar h
    · obtain ⟨vs, -, rfl⟩ := h
      intro m hm
      cases (untagged_withTag _ _).symm.trans hm
    · obtain ⟨es, -, -, rfl⟩ := h
      intro m hm
      cases (untagged_withTag _ _).symm.trans hm
    · exact h.elim

/-- The text that a node is, if it is one without a tag of its own. -/
def text? (d : Document) (n : LinkedNode) : Option String :=
  match d.follow n with
  | .scalar _ p style cs =>
    match ownTag? p.tag, scalarValue? p.tag style cs with
    | none, some (.text s) => some s
    | _, _ => none
  | _ => none

theorem StandsFor.eq_text {s : String} (h : d.StandsFor depth n v) (hn : d.text? n = some s) :
    v = .text s := by
  unfold text? at hn
  split at hn
  · next p style cs hfollow =>
    split at hn
    · next hown hvalue =>
      have hscalar : ScalarStandsFor p style cs v := by
        cases depth <;> simpa only [StandsFor, hfollow] using h
      obtain ⟨u, hu, rfl⟩ := hscalar
      simp only [hown, Option.isSome_none, Bool.false_eq_true, if_false, hvalue] at hu
      cases hu
      cases hn
      simp only [withTag, hown]
    · cases hn
  · cases hn

/-- The entries that the mapping at the root of a document stands for: each is what its nodes stand
for, the keys differ, and the aliases in the document are within the allowance. -/
structure Converts (d : Document) (nodes : List (LinkedNode × LinkedNode))
    (entries : List (Value × Value)) : Prop where
  each : List.Forall₂ (fun e e' => d.StandsFor (maxDepth - 1) e.1 e'.1 ∧
    d.StandsFor (maxDepth - 1) e.2 e'.2) nodes entries
  distinct : KeysDiffer entries
  allowed : d.aliases maxDepth d.root ≤ d.allowance

/-- **Which mappings have a value.** -/
theorem value?_eq_some_iff {m : Mark} {p : Properties Nat} (hroot : d.root = .mapping m p nodes) :
    d.value? = some v ↔ ∃ es, d.Converts nodes es ∧ v = withTag p.tag (.mapping es) := by
  have hvalue : d.value? = some v ↔
      d.StandsFor maxDepth d.root v ∧ d.aliases maxDepth d.root ≤ d.allowance := by
    simp only [value?, Option.map_eq_some_iff, Prod.exists, exists_and_right, exists_eq_right,
      counts_valueOf d maxDepth d.root 0 v]
    constructor
    · rintro ⟨used, hv, rfl, hle⟩
      exact ⟨hv, by omega⟩
    · rintro ⟨hv, hle⟩
      exact ⟨_, hv, rfl, by omega⟩
  have hstands : d.StandsFor maxDepth d.root v ↔ ∃ es, List.Forall₂ (fun e e' =>
      d.StandsFor (maxDepth - 1) e.1 e'.1 ∧ d.StandsFor (maxDepth - 1) e.2 e'.2) nodes es ∧
        KeysDiffer es ∧ v = withTag p.tag (.mapping es) := by
    rw [hroot]
    exact Iff.rfl
  rw [hvalue, hstands]
  constructor
  · rintro ⟨⟨es, heach, hes, hv⟩, hallowed⟩
    exact ⟨es, ⟨heach, hes, hallowed⟩, hv⟩
  · rintro ⟨es, ⟨heach, hes, hallowed⟩, hv⟩
    exact ⟨⟨es, heach, hes, hv⟩, hallowed⟩

theorem Converts.entriesAreRead (h : d.Converts nodes es) : EntriesAreRead es := by
  refine ⟨h.distinct, ?_⟩
  have heach := h.each
  clear h
  induction heach with
  | nil => exact List.forall_mem_nil _
  | cons hhead _ ih => exact List.forall_mem_cons.2 ⟨hhead.2.fitsWord, ih⟩

/-- Keys that are texts stand for these. -/
theorem Converts.keysAreTexts (h : d.Converts nodes es)
    (hkeys : ∀ e ∈ nodes, (d.text? e.1).isSome) : ∀ e ∈ es, ∃ key, e.1 = .text key := by
  have heach := h.each
  clear h
  induction heach with
  | nil => exact List.forall_mem_nil _
  | cons hhead _ ih =>
    obtain ⟨hkey, hkeys⟩ := List.forall_mem_cons.1 hkeys
    obtain ⟨key, hkey⟩ := Option.isSome_iff_exists.1 hkey
    exact List.forall_mem_cons.2 ⟨⟨key, hhead.1.eq_text hkey⟩, ih hkeys⟩

end Document
end CaseSheet.Yaml

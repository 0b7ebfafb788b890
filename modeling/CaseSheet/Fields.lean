/-!
# Fields

Pairs of a key and a value, in increasing order of the keys, each key once: `put` is the one way in,
and a second value for a key takes the place of the first. Keys are compared by code points, which
is also the order of their UTF-8 bytes.
-/

namespace CaseSheet

/-- Fields in increasing order of their keys. -/
abbrev Fields (α : Type) : Type := List (String × α)

namespace Fields

/-- Sets the value of a key, keeping the order. -/
def put {α : Type} (k : String) (v : α) : Fields α → Fields α
  | [] => [(k, v)]
  | (k', v') :: rest =>
    if k < k' then (k, v) :: (k', v') :: rest
    else if k = k' then (k, v) :: rest
    else (k', v') :: put k v rest

/-- The value of a key. -/
def get? {α : Type} (fields : Fields α) (k : String) : Option α :=
  (fields.find? fun f => f.1 == k).map (·.2)

/-- Fields from pairs in any order; the last value given for a key counts. -/
def ofList {α : Type} (pairs : List (String × α)) : Fields α :=
  pairs.foldl (fun acc p => put p.1 p.2 acc) []

theorem get?_put_self {α : Type} (k : String) (v : α) (fs : Fields α) :
    get? (put k v fs) k = some v := by
  induction fs with
  | nil => simp [put, get?]
  | cons f fs ih =>
    obtain ⟨k', v'⟩ := f
    simp only [put]
    split
    · simp [get?]
    · split
      · simp [get?]
      · next h => simpa [get?, List.find?_cons, Ne.symm h] using ih

theorem get?_put_of_ne {α : Type} {k k₀ : String} (v : α) (fs : Fields α) (h : k₀ ≠ k) :
    get? (put k v fs) k₀ = get? fs k₀ := by
  induction fs with
  | nil => simp [put, get?, Ne.symm h]
  | cons f fs ih =>
    obtain ⟨k', v'⟩ := f
    simp only [put]
    split
    · simp [get?, Ne.symm h]
    · split
      · next hk => subst hk; simp [get?, Ne.symm h]
      · by_cases h' : k' = k₀
        · simp [get?, h']
        · simpa [get?, List.find?_cons, h'] using ih

end Fields

end CaseSheet

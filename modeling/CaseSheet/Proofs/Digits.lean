import CaseSheet.Number.Digits
/-!
# What digits tell

Numbers as they are written: digits and nothing else, a zero in front of zero alone, and from what is
written the number can be told.

* `Digits.isDigit_of_mem_ofNat`, `Digits.ofNat_ne_zero_cons`: the form of a number.
* `Digits.padded_inj`, `Digits.length_padded`: numbers of a fixed width.
-/
namespace CaseSheet.Digits

theorem isDigit_ofDigit {d : Nat} (h : d < 10) : isDigit (ofDigit d) = true := by
  revert h; revert d; decide

theorem isDigit_of_mem_ofNat {n : Nat} {c : Char} (h : c ∈ ofNat n) : isDigit c = true := by
  induction n using Nat.strongRecOn with
  | _ n ih =>
    rw [ofNat] at h
    split at h
    · next hn =>
      obtain rfl := List.mem_singleton.1 h
      exact isDigit_ofDigit hn
    · next hn =>
      rcases List.mem_append.1 h with h | h
      · exact ih (n / 10) (by omega) h
      · obtain rfl := List.mem_singleton.1 h
        exact isDigit_ofDigit (by omega)

theorem ofNat_ne_nil (n : Nat) : ofNat n ≠ [] := by
  rw [ofNat]
  split <;> simp

/-- Only zero starts with a zero. -/
theorem ofNat_ne_zero_cons (n : Nat) {c : Char} {cs : List Char} : ofNat n ≠ '0' :: c :: cs := by
  induction n using Nat.strongRecOn generalizing c cs with
  | _ n ih =>
    intro h
    rw [ofNat] at h
    split at h
    · simp at h
    · next hn =>
      cases hds : ofNat (n / 10) with
      | nil => exact ofNat_ne_nil _ hds
      | cons d ds =>
        rw [hds, List.cons_append] at h
        obtain ⟨rfl, h⟩ := List.cons.inj h
        cases ds with
        | nil =>
          have hzero := toNat_ofNat (n / 10)
          rw [hds] at hzero
          have hten : toNat ['0'] = 0 := rfl
          omega
        | cons d ds => exact ih (n / 10) (by omega) hds

/-! ## Numbers of a fixed width -/

theorem isDigit_of_mem_padded {width n : Nat} {c : Char} (h : c ∈ padded width n) :
    isDigit c = true := by
  rcases List.mem_append.1 h with h | h
  · rw [List.eq_of_mem_replicate h]
    rfl
  · exact isDigit_of_mem_ofNat h

theorem slash_not_mem_padded (width n : Nat) : '/' ∉ padded width n :=
  fun h => absurd (isDigit_of_mem_padded h) (by decide)

theorem toNat_padded (width n : Nat) : toNat (padded width n) = n := by
  have hzeros (k : Nat) : toNat (List.replicate k '0' ++ ofNat n) = n := by
    induction k with
    | zero => exact toNat_ofNat n
    | succ k ih => exact ih
  exact hzeros _

theorem padded_inj {width m n : Nat} : padded width m = padded width n ↔ m = n := by
  constructor
  · intro h
    rw [← toNat_padded width m, h, toNat_padded]
  · rintro rfl
    rfl

theorem length_ofNat_le {width n : Nat} (h : n < 10 ^ (width + 1)) :
    (ofNat n).length ≤ width + 1 := by
  induction width generalizing n with
  | zero =>
    rw [ofNat, if_pos (by omega)]
    exact Nat.le_refl 1
  | succ width ih =>
    rw [ofNat]
    split
    · simp
    · have hlt : n / 10 < 10 ^ (width + 1) := by
        rw [Nat.pow_succ] at h
        omega
      rw [List.length_append, List.length_singleton]
      exact Nat.succ_le_succ (ih hlt)

theorem length_padded {width n : Nat} (h : n < 10 ^ (width + 1)) :
    (padded (width + 1) n).length = width + 1 := by
  have hle := length_ofNat_le h
  rw [padded, List.length_append, List.length_replicate]
  omega

end CaseSheet.Digits

/-!
# Hexadecimal digits

Digits to the base sixteen and the numbers they write. Digits are read in either case and written in
the one that is asked for.
-/

namespace CaseSheet

namespace Hex

/-- The value of a digit, of either case. -/
def value? (c : Char) : Option Nat :=
  if '0' ≤ c ∧ c ≤ '9' then some (c.toNat - 48)
  else if 'a' ≤ c ∧ c ≤ 'f' then some (c.toNat - 87)
  else if 'A' ≤ c ∧ c ≤ 'F' then some (c.toNat - 55)
  else none

/-- The lower-case digit of a number below sixteen. -/
def lowerDigit (n : Nat) : Char := if n < 10 then Char.ofNat (48 + n) else Char.ofNat (87 + n)

/-- The upper-case digit of a number below sixteen. -/
def upperDigit (n : Nat) : Char := if n < 10 then Char.ofNat (48 + n) else Char.ofNat (55 + n)

/-- The lower-case digits of `n`, without leading zeros. -/
def lower (n : Nat) : List Char :=
  if n < 16 then [lowerDigit n] else lower (n / 16) ++ [lowerDigit (n % 16)]

/-- The last `count` upper-case digits of `n`. -/
def upperPadded : (count n : Nat) → List Char
  | 0, _ => []
  | count + 1, n => upperPadded count (n / 16) ++ [upperDigit (n % 16)]

theorem value?_lowerDigit {n : Nat} (h : n < 16) : value? (lowerDigit n) = some n := by
  revert h; revert n; decide

theorem value?_upperDigit {n : Nat} (h : n < 16) : value? (upperDigit n) = some n := by
  revert h; revert n; decide

@[simp] theorem length_upperPadded (count n : Nat) : (upperPadded count n).length = count := by
  induction count generalizing n with
  | zero => rfl
  | succ count ih => simp [upperPadded, ih]

end Hex
end CaseSheet

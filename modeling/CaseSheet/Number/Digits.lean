/-!
# Decimal digits

Natural numbers as lists of decimal digit characters, and back.
-/

namespace CaseSheet

-- Powers in the library are the primitive ones, also where monoids bring powers of their own.
attribute [instance (high), default_instance (high)] instPowNat

namespace Digits

/-- The character of a digit below ten. -/
def ofDigit (d : Nat) : Char := Char.ofNat (48 + d)

/-- The value of a digit character. -/
def toDigit (c : Char) : Nat := c.toNat - 48

/-- The ten ASCII digits. -/
def isDigit (c : Char) : Bool := '0' ≤ c && c ≤ '9'

/-- The digits of `n` in decimal, without leading zeros. -/
def ofNat (n : Nat) : List Char :=
  if n < 10 then [ofDigit n] else ofNat (n / 10) ++ [ofDigit (n % 10)]

/-- The number that a list of digits writes. -/
def toNat (ds : List Char) : Nat := ds.foldl (fun n c => n * 10 + toDigit c) 0

/-- The digits of `n`, with zeros in front up to `width` digits. -/
def padded (width n : Nat) : List Char :=
  let ds := ofNat n
  List.replicate (width - ds.length) '0' ++ ds

theorem toNat_append (ds : List Char) (c : Char) :
    toNat (ds ++ [c]) = toNat ds * 10 + toDigit c := by
  simp [toNat]

theorem toDigit_ofDigit {d : Nat} (h : d < 10) : toDigit (ofDigit d) = d := by
  revert h; revert d; decide

theorem toNat_ofNat (n : Nat) : toNat (ofNat n) = n := by
  induction n using Nat.strongRecOn with
  | _ n ih =>
    rw [ofNat]
    split
    · next h => simp [toNat, toDigit_ofDigit h]
    · next h =>
      rw [toNat_append, ih (n / 10) (by omega), toDigit_ofDigit (by omega)]
      omega

/-- The text of a natural number. -/
def text (n : Nat) : String := String.ofList (ofNat n)

/-- The text of a whole number, with a minus sign in front of a negative one. -/
def signed : Int → List Char
  | .ofNat n => ofNat n
  | .negSucc n => '-' :: ofNat (n + 1)

end Digits
end CaseSheet

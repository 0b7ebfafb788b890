import CaseSheet.Number.Double
import CaseSheet.Number.Digits
/-!
# Reading decimals

The double nearest to a decimal, read exactly: digits with a point anywhere among them, and perhaps
an exponent. Numbers far outside the range of doubles are settled by their order of magnitude.
-/

namespace CaseSheet.Decimals

/-- Beyond this order of magnitude a decimal is infinite or zero as a double. -/
def farOut : Int := 400

/-- The double nearest to `n * 10 ^ e`; `n` has `digits` digits at most. -/
def nearest (n digits : Nat) (e : Int) : Double :=
  if n = 0 then .zero
  else if farOut < e + digits then .infinity
  else if e + digits < -farOut then .zero
  else if 0 ≤ e then .ofRatio (n * 10 ^ e.toNat) 1
  else .ofRatio n (10 ^ (-e).toNat)

/-- The sign at the start of a text. -/
def leadingSign : List Char → Bool × List Char
  | '+' :: r => (false, r)
  | '-' :: r => (true, r)
  | r => (false, r)

/-- The exponent that makes up a whole text; none stands for zero. -/
def exponent? : List Char → Option Int
  | [] => some 0
  | c :: r =>
    if c = 'e' ∨ c = 'E' then
      let (negative, ds) := leadingSign r
      if ds.isEmpty || !ds.all Digits.isDigit then none
      else some (if negative then -(Digits.toNat ds : Int) else Digits.toNat ds)
    else none

/-- The digits of a decimal before and behind its point, and what follows. -/
def mantissa (cs : List Char) : List Char × List Char × List Char :=
  let whole := cs.takeWhile Digits.isDigit
  match cs.dropWhile Digits.isDigit with
  | '.' :: r => (whole, r.takeWhile Digits.isDigit, r.dropWhile Digits.isDigit)
  | r => (whole, [], r)

/-- The double that a text writes, which may be infinite if the text is a large decimal. -/
def read? (cs : List Char) : Option Double := do
  let (negative, r) := leadingSign cs
  let (whole, fraction, r) := mantissa r
  let e ← exponent? r
  if whole.isEmpty && fraction.isEmpty then none
  else
    let x := nearest (Digits.toNat (whole ++ fraction)) (whole.length + fraction.length)
      (e - fraction.length)
    return if negative then x.neg else x

end CaseSheet.Decimals

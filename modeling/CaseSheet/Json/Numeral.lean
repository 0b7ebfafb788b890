import CaseSheet.Json.Value
import CaseSheet.Number.Digits
/-!
# JSON numerals

The written form of a number and what it stands for. A numeral without fraction and exponent that
fits a 64-bit word is a whole number. Every other numeral is a double: as many digits as fit an
unsigned word make the significand, and that is scaled by a power of ten in steps of at most 308,
each step rounding. Minus zero is a double. A numeral too large for a double has no value.
-/

namespace CaseSheet.Json

/-- A numeral by its parts. -/
structure Numeral where
  negative : Bool
  whole : List Char
  fraction : List Char
  /-- The sign and digits of the exponent. -/
  exponent : Option (Bool × List Char)
deriving DecidableEq, Repr

namespace Numeral

/-- The digits at the start of a text and the rest of it. -/
def spanDigits (cs : List Char) : List Char × List Char :=
  (cs.takeWhile Digits.isDigit, cs.dropWhile Digits.isDigit)

/-- The whole part: a zero alone, or digits that do not start with one. -/
def wholePart? (cs : List Char) : Option (List Char × List Char) :=
  match spanDigits cs with
  | ([], _) => none
  | ('0' :: _ :: _, _) => none
  | (ds, r) => some (ds, r)

/-- The fraction, if a point follows; it has at least one digit. -/
def fractionPart? : List Char → Option (List Char × List Char)
  | '.' :: r =>
    match spanDigits r with
    | ([], _) => none
    | (ds, r) => some (ds, r)
  | cs => some ([], cs)

/-- The sign of an exponent; plus may be left out. -/
def exponentSign : List Char → Bool × List Char
  | '+' :: r => (false, r)
  | '-' :: r => (true, r)
  | r => (false, r)

/-- The exponent, if its mark follows; it has at least one digit. -/
def exponentPart? : List Char → Option (Option (Bool × List Char) × List Char)
  | c :: r =>
    if c = 'e' ∨ c = 'E' then
      let (negative, r) := exponentSign r
      match spanDigits r with
      | ([], _) => none
      | (ds, r) => some (some (negative, ds), r)
    else some (none, c :: r)
  | [] => some (none, [])

/-- The sign of a numeral. -/
def leadingSign : List Char → Bool × List Char
  | '-' :: r => (true, r)
  | r => (false, r)

/-- Reads a numeral at the start of a text. -/
def read? (cs : List Char) : Option (Numeral × List Char) := do
  let (negative, r) := leadingSign cs
  let (whole, r) ← wholePart? r
  let (fraction, r) ← fractionPart? r
  let (exponent, r) ← exponentPart? r
  return (⟨negative, whole, fraction, exponent⟩, r)

/-- Appends digits to a significand while it fits an unsigned 64-bit word, and returns the digits
that are left over from the first that does not fit. -/
def absorb (s : Nat) : List Char → Nat × List Char
  | [] => (s, [])
  | c :: r =>
    let s' := s * 10 + Digits.toDigit c
    if s' < 2 ^ 64 then absorb s' r else (s, c :: r)

/-- The power of ten of the largest single step. -/
def maxStep : Nat := 308

/-- A significand times a power of ten; none if it is too large. -/
def scaleUp? (x : Double) (e : Nat) : Option Double :=
  if e ≤ maxStep then
    let y := x.mul (.ofNat (10 ^ e))
    if y.isFinite then some y else none
  else if x.isZero then some x
  else none

/-- A significand divided by a power of ten. -/
def scaleDown (x : Double) (e : Nat) : Double :=
  if e ≤ maxStep then x.div (.ofNat (10 ^ e))
  else if x.isZero then x
  else scaleDown (x.div (.ofNat (10 ^ maxStep))) (e - maxStep)
termination_by e
decreasing_by simp only [maxStep] at *; omega

/-- The power of ten that the exponent part asks for. -/
def exponentValue (n : Numeral) : Int :=
  match n.exponent with
  | none => 0
  | some (true, ds) => -(Digits.toNat ds : Int)
  | some (false, ds) => Digits.toNat ds

/-- The double that a numeral stands for. -/
def double? (n : Numeral) : Option Double := do
  let (s, dropped) := absorb 0 n.whole
  let (s, unread) := absorb s n.fraction
  let e : Int := n.exponentValue + dropped.length - (n.fraction.length - unread.length : Nat)
  let x ← if 0 ≤ e then scaleUp? (.ofNat s) e.toNat else some (scaleDown (.ofNat s) e.natAbs)
  return if n.negative then x.neg else x

/-- Whether a numeral is written without fraction and exponent. -/
def isPlain (n : Numeral) : Bool := n.fraction.isEmpty && n.exponent.isNone

/-- What a numeral stands for. -/
def value? (n : Numeral) : Option Number :=
  let k := Digits.toNat n.whole
  if n.isPlain && !n.negative && k < 2 ^ 64 then some (.whole k)
  else if n.isPlain && n.negative && 0 < k && k ≤ 2 ^ 63 then some (.whole (-k))
  else n.double?.map .double

end Numeral
end CaseSheet.Json

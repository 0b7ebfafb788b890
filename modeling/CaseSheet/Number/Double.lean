import CaseSheet.Number.Digits
/-!
# Doubles

An IEEE 754 double by its bits, with the few operations that the program needs, each of them exact
arithmetic on natural numbers followed by one rounding. `Double.ofRatio` is that rounding: the
nearest double to a quotient, a tie going to the even neighbour.
-/

namespace CaseSheet

/-- A double-precision number, held as its 64 bits. -/
structure Double where
  bits : UInt64
deriving DecidableEq, Inhabited, Repr

namespace Double

/-- The weight of the sign bit. -/
def signWeight : Nat := 2 ^ 63

/-- The bits of positive infinity. -/
def infinityBits : Nat := 0x7FF * 2 ^ 52

def infinity : Double := ⟨UInt64.ofNat infinityBits⟩

def zero : Double := ⟨0⟩

/-- The bits without the sign; they grow with the absolute value. -/
def magnitude (x : Double) : Nat := x.bits.toNat % signWeight

def isNegative (x : Double) : Bool := signWeight ≤ x.bits.toNat

def isNaN (x : Double) : Bool := infinityBits < x.magnitude

def isFinite (x : Double) : Bool := x.magnitude < infinityBits

def isZero (x : Double) : Bool := x.magnitude == 0

/-- The number with the opposite sign. -/
def neg (x : Double) : Double :=
  ⟨UInt64.ofNat (if x.isNegative then x.magnitude else x.magnitude + signWeight)⟩

/-- The absolute value of a finite number is `significand * 2 ^ (scale - 1074)`. -/
def scale (x : Double) : Nat := x.magnitude / 2 ^ 52 - 1

/-- See `scale`. -/
def significand (x : Double) : Nat :=
  if x.magnitude < 2 ^ 52 then x.magnitude else x.magnitude % 2 ^ 52 + 2 ^ 52

/-- The absolute value of a finite number as a quotient of natural numbers. -/
def ratio (x : Double) : Nat × Nat := (x.significand * 2 ^ x.scale, 2 ^ 1074)

/-- `n / d` rounded to a natural number, a tie going to the even neighbour. -/
def roundDiv (n d : Nat) : Nat :=
  let q := n / d
  let r := n % d
  if 2 * r > d ∨ (2 * r = d ∧ q % 2 = 1) then q + 1 else q

/-- The number of binary digits of `n`. -/
def bitLength (n : Nat) : Nat := if n = 0 then 0 else n.log2 + 1

/-- The double nearest to the quotient `n / d`, infinite if the quotient is too large. The
significand is read off at the scale at which it has 53 digits, or at scale zero for small
numbers; as bits grow with the value, a carry out of the significand lands in the exponent. -/
def ofRatio (n d : Nat) : Double :=
  let n := n * 2 ^ 1074
  let s := bitLength n - bitLength d - 53
  let s := if n / (d * 2 ^ s) < 2 ^ 53 then s else s + 1
  let b := s * 2 ^ 52 + roundDiv n (d * 2 ^ s)
  ⟨UInt64.ofNat (min b infinityBits)⟩

def ofNat (n : Nat) : Double := ofRatio n 1

/-- The sum of two numbers that are not negative. -/
def add (x y : Double) : Double :=
  ofRatio (x.ratio.1 + y.ratio.1) x.ratio.2

/-- The product of two numbers that are not negative. -/
def mul (x y : Double) : Double :=
  ofRatio (x.ratio.1 * y.ratio.1) (x.ratio.2 * y.ratio.2)

/-- The quotient of two numbers that are not negative, the second not zero. -/
def div (x y : Double) : Double := ofRatio x.ratio.1 y.ratio.1

/-- The nearest whole number, a half going up; for numbers that are not negative. -/
def round (x : Double) : Double :=
  ofNat ((2 * x.ratio.1 + x.ratio.2) / (2 * x.ratio.2))

/-- Whether a number is at least the whole number `n`; no for what is not a number. -/
def atLeast (x : Double) (n : Nat) : Bool :=
  !x.isNaN && !(x.isNegative && !x.isZero) && (ofNat n).magnitude ≤ x.magnitude

end Double
end CaseSheet

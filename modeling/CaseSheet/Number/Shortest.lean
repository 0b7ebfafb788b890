import CaseSheet.Number.Double
import CaseSheet.Number.Digits
/-!
# Shortest decimal texts

The fewest decimal digits that read back as the same double, and of those the nearest. A finite
double stands for the interval of reals that round to it, with the ends included exactly when its
significand is even. On the decimal grids of one, two, … seventeen digits the two neighbours of
the value are tested; the first grid with a hit wins.
-/

namespace CaseSheet

/-- A decimal number `0.d₁d₂… * 10 ^ point` by its digits, the first of which is not zero. -/
structure Decimal where
  digits : List Char
  point : Int
deriving DecidableEq, Repr

namespace Shortest

/-- Twice the lower end, twice the value and twice the upper end of the interval of a positive
finite double, over the common denominator `den`. -/
structure Interval where
  low : Nat
  value : Nat
  high : Nat
  den : Nat
  closed : Bool

/-- The interval of reals that round to a positive finite double. Below a power of two the grid
of doubles is twice as fine. -/
def interval (x : Double) : Interval :=
  let m := x.significand
  let unit := 2 ^ x.scale
  let below := if m = 2 ^ 52 ∧ 0 < x.scale then 1 else 2
  { low := (4 * m - below) * unit
    value := 4 * m * unit
    high := (4 * m + 2) * unit
    den := 4 * 2 ^ 1074
    closed := m % 2 == 0 }

/-- Whether the fraction `n / d` lies in the interval. -/
def Interval.holds (i : Interval) (n d : Nat) : Bool :=
  if i.closed then i.low * d ≤ n * i.den && n * i.den ≤ i.high * d
  else i.low * d < n * i.den && n * i.den < i.high * d

/-- The least `e` with `n / d < 10 ^ e`, searched upward from `start` over `fuel` candidates. -/
def pointOf (n d : Nat) : Nat → Int → Int
  | 0, start => start
  | fuel + 1, start =>
    let small :=
      if 0 ≤ start then n < d * 10 ^ start.toNat else n * 10 ^ (-start).toNat < d
    if small then start else pointOf n d fuel (start + 1)

/-- The neighbours of a value on the grid of `count` digits, as whole numbers of grid steps, with
the step as a fraction. -/
def step (point : Int) (count : Nat) : Nat × Nat :=
  let e := point - count
  if 0 ≤ e then (10 ^ e.toNat, 1) else (1, 10 ^ (-e).toNat)

/-- The nearest point of the interval on the grid of `count` digits, if it holds one. -/
def onGrid? (i : Interval) (point : Int) (count : Nat) : Option Nat :=
  let (sn, sd) := step point count
  let down := i.value * sd / (i.den * sn)
  let up := down + 1
  let fits := fun k => i.holds (k * sn) sd
  match fits down, fits up with
  | true, false => some down
  | false, true => some up
  | false, false => none
  | true, true =>
    -- twice the distance of the value from the lower neighbour, against one step
    let twice := 2 * (i.value * sd - down * i.den * sn)
    let one := i.den * sn
    if twice < one ∨ (twice = one ∧ down % 2 = 0) then some down else some up

/-- The first grid from `count` digits on that has a point in the interval. -/
def search (i : Interval) (point : Int) : Nat → Nat → Nat × Nat
  | 0, count => (i.value * 10 ^ count / i.den, count)
  | fuel + 1, count =>
    match onGrid? i point count with
    | some k => (k, count)
    | none => search i point fuel (count + 1)

/-- The shortest decimal of a positive finite double. -/
def decimal (x : Double) : Decimal :=
  let i := interval x
  let start : Int :=
    ((Double.bitLength i.value : Int) - Double.bitLength i.den - 1) * 30103 / 100000
  let point := pointOf i.value i.den 8 (start - 2)
  let (k, count) := search i point 17 1
  let ds := Digits.ofNat k
  -- a carry out of the grid gives one digit more, and the point moves with it
  let point := point + (ds.length : Int) - count
  { digits := (ds.reverse.dropWhile (· == '0')).reverse, point := point }

end Shortest

/-- Decides how a decimal is laid out: positionally between two powers of ten, and otherwise with
one digit before the point and an exponent. -/
structure DecimalLayout where
  /-- The least position of the point that is written positionally. -/
  lowest : Int
  /-- The greatest position of the point that is written positionally. -/
  highest : Int
  /-- What stands between the digits and the sign of the exponent. -/
  mark : Char

namespace DecimalLayout

/-- The text of an exponent; its sign is always written. -/
def exponent (e : Int) : List Char :=
  (if e < 0 then '-' else '+') :: Digits.ofNat e.natAbs

/-- The text of a decimal: positional texts keep at least one digit on each side of the point. -/
def write (f : DecimalLayout) (d : Decimal) : List Char :=
  if f.lowest ≤ d.point ∧ d.point ≤ f.highest then
    if d.point ≤ 0 then
      '0' :: '.' :: (List.replicate (-d.point).toNat '0' ++ d.digits)
    else
      let n := d.point.toNat
      let whole := d.digits.take n ++ List.replicate (n - d.digits.length) '0'
      let rest := d.digits.drop n
      whole ++ '.' :: (if rest.isEmpty then ['0'] else rest)
  else
    let e := f.mark :: exponent (d.point - 1)
    match d.digits with
    | [] => '0' :: e
    | [c] => c :: e
    | c :: rest => c :: '.' :: (rest ++ e)

end DecimalLayout
end CaseSheet

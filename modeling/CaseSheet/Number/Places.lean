import CaseSheet.Number.Double
import CaseSheet.Number.Digits
/-!
# Fixed decimal places

A fraction with a fixed number of decimal places: the nearest decimal of that many places, a tie
going to the even neighbour.
-/

namespace CaseSheet.Places

/-- The text of the fraction `n / d` with `places` decimal places, at least one. -/
def write (places n d : Nat) : List Char :=
  let scaled := Double.roundDiv (n * 10 ^ places) d
  Digits.ofNat (scaled / 10 ^ places) ++ '.' :: Digits.padded places (scaled % 10 ^ places)

/-- The text of a finite number that is not negative. -/
def ofDouble (places : Nat) (x : Double) : List Char := write places x.ratio.1 x.ratio.2

end CaseSheet.Places

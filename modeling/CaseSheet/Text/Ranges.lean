/-!
# Ranges of code points

Properties of characters are listed as ranges of code points, in increasing order. Letter case is
listed as runs: letters that stand at the same distance from each other as what they are spelled
with in the other case.
-/

namespace CaseSheet.Text

/-- A range of code points, both ends included. -/
structure CodeRange where
  first : Nat
  last : Nat
deriving DecidableEq, Repr

namespace CodeRange

def holds (r : CodeRange) (n : Nat) : Bool := r.first ≤ n && n ≤ r.last

/-- Whether a character is in one of several ranges. -/
def cover (rs : List CodeRange) (c : Char) : Bool := rs.any fun r => r.holds c.toNat

end CodeRange

/-- Letters at a fixed distance from each other, and their spelling in the other case. -/
structure CaseRun where of ::
  first : Nat
  last : Nat
  /-- The distance from one letter to the next. -/
  step : Nat
  /-- What the spelling of the first letter starts with. -/
  image : Nat
  /-- What stands behind that, where letters are spelled with several characters. -/
  more : List Char
  /-- No spelling starts with a surrogate or beyond the last code point. -/
  isScalar : image + (last - first) < 0xD800 ∨
    0xE000 ≤ image ∧ image + (last - first) < 0x110000 := by decide
deriving DecidableEq

namespace CaseRun

def holds (r : CaseRun) (n : Nat) : Bool :=
  r.first ≤ n && n ≤ r.last && (n - r.first) % r.step == 0

/-- The spelling of a letter of the run. -/
def spelling (r : CaseRun) (n : Nat) : List Char :=
  Char.ofNat (r.image + (n - r.first)) :: r.more

/-- The spelling of a character by several runs; one that is in none of them is kept. -/
def spellingBy (rs : List CaseRun) (c : Char) : List Char :=
  match rs.find? fun r => r.holds c.toNat with
  | some r => r.spelling c.toNat
  | none => [c]

end CaseRun
end CaseSheet.Text

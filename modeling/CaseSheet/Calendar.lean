import CaseSheet.Number.Digits
/-!
# Calendar

Instants as seconds since the start of 1970, and their dates in the Gregorian calendar. Years are
counted from the first of March, so that a leap day ends a year: 400 of them have 146097 days.
-/

namespace CaseSheet

/-- An instant: seconds since the start of 1970, and nanoseconds. -/
structure Instant where
  secs : Int
  nanos : Nat
deriving DecidableEq, Repr, Inhabited

/-- A date and a time of day. -/
structure DateTime where
  year : Int
  month : Nat
  day : Nat
  hour : Nat
  minute : Nat
  second : Nat
deriving DecidableEq, Repr, Inhabited

namespace DateTime

/-- The year, month and day of a day counted from the first of January 1970. -/
def dateOf (days : Int) : Int × Nat × Nat :=
  let sinceMarch := days + 719468
  let era := sinceMarch / 146097
  let dayOfEra := (sinceMarch % 146097).toNat
  let yearOfEra := (dayOfEra - dayOfEra / 1460 + dayOfEra / 36524 - dayOfEra / 146096) / 365
  let dayOfYear := dayOfEra - (365 * yearOfEra + yearOfEra / 4 - yearOfEra / 100)
  let monthFromMarch := (5 * dayOfYear + 2) / 153
  let day := dayOfYear - (153 * monthFromMarch + 2) / 5 + 1
  let month := if monthFromMarch < 10 then monthFromMarch + 3 else monthFromMarch - 9
  (era * 400 + yearOfEra + (if month ≤ 2 then 1 else 0), month, day)

/-- The date and the time of day of an instant. -/
def ofInstant (t : Instant) : DateTime :=
  let (year, month, day) := dateOf (t.secs / 86400)
  let second := (t.secs % 86400).toNat
  { year, month, day
    hour := second / 3600
    minute := second / 60 % 60
    second := second % 60 }

/-- Four digits; years that need more, or lie before year zero, have a sign. -/
def yearText (year : Int) : List Char :=
  if 0 ≤ year ∧ year ≤ 9999 then Digits.padded 4 year.toNat
  else (if year < 0 then '-' else '+') :: Digits.padded 4 year.natAbs

def dateText (d : DateTime) : List Char :=
  yearText d.year ++ '-' :: (Digits.padded 2 d.month ++ '-' :: Digits.padded 2 d.day)

def timeText (d : DateTime) : List Char :=
  Digits.padded 2 d.hour ++ ':' :: (Digits.padded 2 d.minute ++ ':' :: Digits.padded 2 d.second)

/-- A date and a time for readers. -/
def text (d : DateTime) : String := String.ofList (d.dateText ++ ' ' :: d.timeText)

/-- A date and a time as they stand in file names. -/
def stamp (d : DateTime) : String :=
  String.ofList (yearText d.year ++ Digits.padded 2 d.month ++ Digits.padded 2 d.day ++ '_' ::
    (Digits.padded 2 d.hour ++ Digits.padded 2 d.minute ++ Digits.padded 2 d.second))

end DateTime

namespace Instant

/-- The fraction of a second, in as many digits as it needs of none, three, six and nine. -/
def fractionText (nanos : Nat) : List Char :=
  if nanos = 0 then []
  else if nanos % 1000000 = 0 then '.' :: Digits.padded 3 (nanos / 1000000)
  else if nanos % 1000 = 0 then '.' :: Digits.padded 6 (nanos / 1000)
  else '.' :: Digits.padded 9 nanos

/-- The text of an instant in universal time; `zone` is how that is written. -/
def textWith (zone : String) (t : Instant) : String :=
  let d := DateTime.ofInstant t
  String.ofList (d.dateText ++ 'T' :: d.timeText ++ fractionText t.nanos) ++ zone

end Instant
end CaseSheet

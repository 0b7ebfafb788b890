import CaseSheet.Json.Value
import CaseSheet.Number.Hex
import CaseSheet.Number.Shortest
/-!
# Writing JSON

One writer serves the one-line and the indented form: a layout says what stands before each item,
before a closing bracket and behind a colon. Empty arrays and objects are two brackets in both.
-/

namespace CaseSheet.Json

/-- Doubles are written positionally from a hundred-thousandth up to ten to the sixteenth. -/
def doubleLayout : DecimalLayout := { lowest := -4, highest := 16, mark := 'e' }

/-- The text of a double. JSON has none for infinities and for what is not a number. -/
def writeDouble (x : Double) : List Char :=
  let sign := if x.isNegative then ['-'] else []
  if x.isZero then sign ++ ['0', '.', '0']
  else if x.isFinite then sign ++ doubleLayout.write (Shortest.decimal x)
  else ['n', 'u', 'l', 'l']

/-- The text of a number. -/
def writeNumber : Number → List Char
  | .whole n => Digits.signed n
  | .double x => writeDouble x

/-- A character as it stands between quotes. -/
def escapeChar (c : Char) : List Char :=
  match c with
  | '"' => ['\\', '"']
  | '\\' => ['\\', '\\']
  | '\x08' => ['\\', 'b']
  | '\x0c' => ['\\', 'f']
  | '\n' => ['\\', 'n']
  | '\r' => ['\\', 'r']
  | '\t' => ['\\', 't']
  | c =>
    if c.toNat < 0x20 then
      ['\\', 'u', '0', '0', Hex.lowerDigit (c.toNat / 16), Hex.lowerDigit (c.toNat % 16)]
    else [c]

/-- A string between quotes. -/
def writeString (s : String) : List Char := '"' :: (s.toList.flatMap escapeChar ++ ['"'])

/-- How items are set apart. -/
structure Layout where
  /-- What stands before an item or a closing bracket at a depth of nesting. -/
  before : Nat → List Char
  /-- What stands behind a colon. -/
  gap : List Char

/-- Everything on one line without blanks. -/
def oneLine : Layout := { before := fun _ => [], gap := [] }

/-- Each item on a line of its own, two spaces further in than its bracket. -/
def indented : Layout :=
  { before := fun depth => '\n' :: List.replicate (2 * depth) ' ', gap := [' '] }

mutual

/-- The text of a value that stands at a depth of nesting. -/
def write (f : Layout) (depth : Nat) : Value → List Char
  | .null => ['n', 'u', 'l', 'l']
  | .bool true => ['t', 'r', 'u', 'e']
  | .bool false => ['f', 'a', 'l', 's', 'e']
  | .number n => writeNumber n
  | .string s => writeString s
  | .array [] => ['[', ']']
  | .array (v :: vs) =>
    '[' :: (f.before (depth + 1) ++ write f (depth + 1) v ++ writeItems f depth vs)
  | .object [] => ['\x7b', '\x7d']
  | .object ((k, v) :: fs) =>
    '\x7b' :: (f.before (depth + 1) ++ writeString k ++ ':' :: f.gap ++ write f (depth + 1) v ++
      writeFields f depth fs)

/-- The items behind the first one, and the closing bracket. -/
def writeItems (f : Layout) (depth : Nat) : List Value → List Char
  | [] => f.before depth ++ [']']
  | v :: vs => ',' :: (f.before (depth + 1) ++ write f (depth + 1) v ++ writeItems f depth vs)

/-- The fields behind the first one, and the closing bracket. -/
def writeFields (f : Layout) (depth : Nat) : List (String × Value) → List Char
  | [] => f.before depth ++ ['\x7d']
  | (k, v) :: fs =>
    ',' :: (f.before (depth + 1) ++ writeString k ++ ':' :: f.gap ++ write f (depth + 1) v ++
      writeFields f depth fs)

end

/-- The text of a value on one line. -/
def Value.compact (v : Value) : String := String.ofList (write oneLine 0 v)

/-- The text of a value with one item a line. -/
def Value.pretty (v : Value) : String := String.ofList (write indented 0 v)

end CaseSheet.Json

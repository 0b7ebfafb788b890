import CaseSheet.Yaml.Scalar
import CaseSheet.Number.Decimal
import CaseSheet.Text.Search
/-!
# What scalars mean

A plain scalar without a tag is null, a truth value, a number or a text, by its form alone; quoted
scalars are texts. Numbers with superfluous leading zeros are texts.
-/

namespace CaseSheet.Yaml

/-- What a scalar means. -/
inductive Meaning where
  | null
  | bool (b : Bool)
  /-- A whole number that fits a signed or an unsigned 64-bit word. -/
  | int (n : Int)
  /-- A whole number beyond that, but within 128 bits. -/
  | wideInt (n : Int)
  | float (x : Double)
  | text
deriving DecidableEq, Repr

namespace Meaning

/-- The words for null. -/
def isNull (cs : List Char) : Bool :=
  ["null".toList, "Null".toList, "NULL".toList, "~".toList].contains cs

/-- The truth value that a word names. -/
def bool? (cs : List Char) : Option Bool :=
  if ["true".toList, "True".toList, "TRUE".toList].contains cs then some true
  else if ["false".toList, "False".toList, "FALSE".toList].contains cs then some false
  else none

/-- The text without a sign in front. -/
def unsigned : List Char → List Char
  | '+' :: r => r
  | '-' :: r => r
  | r => r

/-- Digits with a superfluous zero in front. -/
def isPaddedNumber (cs : List Char) : Bool :=
  match unsigned cs with
  | '0' :: d :: r => (d :: r).all Digits.isDigit
  | _ => false

/-- A number in base `radix` from one or more digits below it. -/
def natOfRadix? (radix : Nat) (cs : List Char) : Option Nat :=
  if cs.isEmpty then none
  else cs.foldlM (fun n c => do
    let d ← Hex.value? c
    if d < radix then some (n * radix + d) else none) 0

/-- A number with a mark of its base in front, and no sign. -/
def natOfMarked? : List Char → Option Nat
  | '0' :: 'x' :: ds => natOfRadix? 16 ds
  | '0' :: 'o' :: ds => natOfRadix? 8 ds
  | '0' :: 'b' :: ds => natOfRadix? 2 ds
  | _ => none

/-- The text without a plus sign in front. -/
def unpositive : List Char → List Char
  | '+' :: r => r
  | r => r

/-- The whole number that a text writes. -/
def wholeNumber? (cs : List Char) : Option Int :=
  let natural := fun r => (natOfMarked? r).or (if isPaddedNumber cs then none else natOfRadix? 10 r)
  match cs with
  | '-' :: r => (natural r).map fun (n : Nat) => -(n : Int)
  | cs => (natural (unpositive cs)).map Int.ofNat

/-- Whether a whole number fits a signed or an unsigned word of `bits` bits. -/
def fits (bits : Nat) (n : Int) : Bool := -(2 ^ (bits - 1) : Int) ≤ n && n < (2 ^ bits : Int)

/-- The double that a text writes: infinity and what is not a number have words of their own, and
a decimal must be finite. -/
def double? (cs : List Char) : Option Double :=
  let infinite := [".inf".toList, ".Inf".toList, ".INF".toList]
  if infinite.contains (unpositive cs) then some .infinity
  else if cs.head? == some '-' && infinite.contains (cs.drop 1) then some Double.infinity.neg
  else if [".nan".toList, ".NaN".toList, ".NAN".toList].contains cs then
    some ⟨0x7ff8000000000000⟩
  else match cs with
    | '+' :: c :: r =>
      if c = '+' ∨ c = '-' then none else (Decimals.read? (c :: r)).filter Double.isFinite
    | cs => (Decimals.read? cs).filter Double.isFinite

/-- What a plain scalar without a tag means. -/
def ofPlain (cs : List Char) : Meaning :=
  if cs.isEmpty || isNull cs then .null
  else match bool? cs with
    | some b => .bool b
    | none =>
      match (wholeNumber? cs).filter (fits 64), (wholeNumber? cs).filter (fits 128) with
      | some n, _ => .int n
      | none, some n => .wideInt n
      | none, none =>
        if isPaddedNumber cs then .text
        else match double? cs with
          | some x => .float x
          | none => .text

/-- The tags of the basic types, behind their common start. -/
def coreTag? (tag : List Char) : Option (List Char) :=
  Text.stripStart? "tag:yaml.org,2002:".toList tag

/-- What a scalar means; none if it has the tag of a basic type that does not fit. -/
def ofScalar? (tag : Option (List Char)) (style : Style) (cs : List Char) : Option Meaning :=
  let untagged := if style = .plain then ofPlain cs else .text
  match tag with
  | none => some untagged
  | some tag =>
    match (coreTag? tag).map String.ofList with
    | some "bool" => (bool? cs).map .bool
    | some "int" =>
      match (wholeNumber? cs).filter (fits 64), (wholeNumber? cs).filter (fits 128) with
      | some n, _ => some (.int n)
      | none, some n => some (.wideInt n)
      | none, none => none
    | some "float" => (double? cs).map .float
    | some "null" => if isNull cs then some .null else none
    | _ => some (if tag.head? == some '!' then untagged else .text)

end Meaning
end CaseSheet.Yaml

import CaseSheet.Url.Percent
import CaseSheet.Number.Digits
import CaseSheet.Text.Lines
import CaseSheet.Text.Letters
import CaseSheet.Text.Search
/-!
# Hosts

The host of a URL is a domain, an IPv4 address or an IPv6 address. In a special scheme a domain is
percent-decoded and brought into its ASCII form, and one that ends in a number is an IPv4 address. In
another scheme it is any text without delimiters. The ASCII form of an international name takes
tables of letters and of what may stand together in a label; it is a parameter, `Idna`.
-/

namespace CaseSheet.Url

/-- Why a text is not a URL. -/
inductive ParseError where
  | emptyHost
  | invalidDomain
  | forbiddenHostCharacter
  | invalidPort
  | invalidIPv4
  | invalidIPv6
  | relativeWithoutBase
  | relativeToPlainPath
deriving DecidableEq, Repr

/-- The text of an error. -/
def ParseError.message : ParseError → String
  | .emptyHost => "empty host"
  | .invalidDomain => "invalid international domain name"
  | .forbiddenHostCharacter => "invalid domain character"
  | .invalidPort => "invalid port number"
  | .invalidIPv4 => "invalid IPv4 address"
  | .invalidIPv6 => "invalid IPv6 address"
  | .relativeWithoutBase => "relative URL without a base"
  | .relativeToPlainPath => "relative URL with a cannot-be-a-base base"

/-- The host of a URL. The empty domain stands for a host that is left out after `//`. -/
inductive Host where
  | domain (name : List Char)
  | ipv4 (address : Nat)
  | ipv6 (pieces : List Nat)
deriving DecidableEq, Repr

/-! ## IPv4 -/

/-- A number in base `radix` from digits that must all be below it. -/
def natOfRadix? (radix : Nat) (cs : List Char) : Option Nat :=
  cs.foldlM (fun n c => do
    let d ← Hex.value? c
    if d < radix then some (n * radix + d) else none) 0

/-- A part of an IPv4 address: decimal, octal after a zero, or hexadecimal after `0x`. -/
def ipv4Part? : List Char → Option Nat
  | [] => none
  | ['0'] => some 0
  | '0' :: 'x' :: ds => natOfRadix? 16 ds
  | '0' :: 'X' :: ds => natOfRadix? 16 ds
  | '0' :: ds => natOfRadix? 8 ds
  | ds => natOfRadix? 10 ds

/-- Whether the last label of a domain, not counting an empty one at the end, is a number. -/
def endsInNumber (name : List Char) : Bool :=
  let labels := (Text.splitAll '.' name).reverse
  let last? := match labels with
    | [] :: rest => rest.head?
    | labels => labels.head?
  match last? with
  | none => false
  | some label =>
    (!label.isEmpty && label.all Digits.isDigit) || (ipv4Part? label).isSome

/-- The address of a list of one to four parts; the last part fills the remaining bytes. -/
def ipv4OfParts? (parts : List Nat) : Option Nat :=
  match parts.reverse with
  | [] => none
  | last :: leading =>
    let leading := leading.reverse
    let k := leading.length
    if 3 < k then none
    else if 256 ^ (4 - k) ≤ last then none
    else if leading.any (255 < ·) then none
    else some (leading.foldl (fun n p => n * 256 + p) 0 * 256 ^ (4 - k) + last)

/-- The IPv4 address that a domain ending in a number writes. -/
def ipv4? (name : List Char) : Option Nat := do
  let labels := Text.splitAll '.' name
  let labels := if labels.getLast? == some [] then labels.dropLast else labels
  ipv4OfParts? (← labels.mapM ipv4Part?)

/-! ## IPv6 -/

/-- The pieces of an IPv6 address while it is read: those before and those after the `::`. -/
structure Pieces where
  before : List Nat
  /-- Absent until the `::` has been read. -/
  after : Option (List Nat)

namespace Pieces

def count (p : Pieces) : Nat := p.before.length + (p.after.getD []).length

def push (p : Pieces) (n : Nat) : Pieces :=
  match p.after with
  | none => { p with before := p.before ++ [n] }
  | some after => { p with after := some (after ++ [n]) }

/-- How many pieces there are when a gap is counted as one. -/
def position (p : Pieces) : Nat := p.count + (if p.after.isSome then 1 else 0)

/-- All eight pieces, with zeros in place of the gap. -/
def all? (p : Pieces) : Option (List Nat) :=
  match p.after with
  | none => if p.before.length = 8 then some p.before else none
  | some after => some (p.before ++ List.replicate (8 - p.count) 0 ++ after)

end Pieces

/-- One decimal byte of an IPv4 tail, without leading zeros. -/
def ipv4Byte? (ds : List Char) : Option Nat :=
  match ds with
  | [] => none
  | ['0'] => some 0
  | '0' :: _ => none
  | ds => if ds.all Digits.isDigit && Digits.toNat ds ≤ 255 then some (Digits.toNat ds) else none

/-- The two pieces that a dotted IPv4 tail stands for. -/
def ipv4Tail? (cs : List Char) : Option (Nat × Nat) :=
  match (Text.splitAll '.' cs).mapM ipv4Byte? with
  | some [a, b, c, d] => some (a * 256 + b, c * 256 + d)
  | _ => none

/-- Reads the pieces of an IPv6 address, with at most as many steps as there are characters. -/
def readPieces? : Nat → Pieces → List Char → Option Pieces
  | _, p, [] => some p
  | 0, _, _ => none
  | fuel + 1, p, c :: r =>
    if p.position = 8 then none
    else if c = ':' then
      match p.after with
      | some _ => none
      | none => readPieces? fuel { p with after := some [] } r
    else
      let ds := ((c :: r).take 4).takeWhile fun c => (Hex.value? c).isSome
      let value := ds.foldl (fun n c => n * 16 + (Hex.value? c).getD 0) 0
      match (c :: r).drop ds.length with
      | [] => some (p.push value)
      | ':' :: [] => none
      | ':' :: rest => readPieces? fuel (p.push value) rest
      | '.' :: _ =>
        if ds.isEmpty || 6 < p.position then none
        else (ipv4Tail? (c :: r)).map fun (a, b) => (p.push a).push b
      | _ => none

/-- The IPv6 address between the brackets of a host. -/
def ipv6? (cs : List Char) : Option (List Nat) :=
  match cs with
  | [] | [_] => none
  | ':' :: ':' :: r => (readPieces? r.length ⟨[], some []⟩ r).bind Pieces.all?
  | ':' :: _ => none
  | cs => (readPieces? cs.length ⟨[], none⟩ cs).bind Pieces.all?

/-- The number of zeros at the start of a list. -/
def zeroRun (ps : List Nat) : Nat := (ps.takeWhile (· == 0)).length

/-- The start and length of the first longest run of zeros. -/
def longestZeroRun : Nat → List Nat → Nat × Nat
  | _, [] => (0, 0)
  | i, p :: ps =>
    let here := zeroRun (p :: ps)
    let (j, later) := longestZeroRun (i + 1) ps
    if later ≤ here then (i, here) else (j, later)

/-- The text of an IPv6 address: the first longest run of two or more zeros becomes `::`. -/
def ipv6Text (pieces : List Nat) : List Char :=
  let (start, len) := longestZeroRun 0 pieces
  let text := fun ps => Text.joinWith [':'] (ps.map Hex.lower)
  if len < 2 then text pieces
  else text (pieces.take start) ++ [':', ':'] ++ text (pieces.drop (start + len))

/-! ## Reading and writing hosts -/

/-- Characters that no domain of a special scheme may hold once it is decoded. -/
def isForbiddenInDomain (c : Char) : Bool :=
  c.toNat ≤ 0x20 || 0x7F ≤ c.toNat || ['%', '#', '/', ':', '<', '>', '?', '@', '[', '\\', ']',
    '^', '|'].contains c

/-- Characters that no host of another scheme may hold. -/
def isForbiddenInHost (c : Char) : Bool :=
  ['\x00', '\t', '\n', '\r', ' ', '#', '/', ':', '<', '>', '?', '@', '[', '\\', ']', '^',
    '|'].contains c

/-- The ASCII forms of international domain names. Nothing is said of which names are valid and what
their forms are, only that a form is fit for a domain. -/
class Idna where
  /-- The ASCII form of a name with a character beyond ASCII or a label in Punycode, from its bytes;
  absent if they are not UTF-8 or the name is not valid. -/
  toAscii? : List UInt8 → Option (List Char)
  allowed : ∀ {bytes : List UInt8} {name : List Char}, toAscii? bytes = some name →
    name.any isForbiddenInDomain = false

/-- A character for each byte. -/
def byteChars (bytes : List UInt8) : List Char := bytes.map fun b => Char.ofNat b.toNat

/-- The ASCII form of a name that is ASCII: it is in small letters. -/
def smallName? (bytes : List UInt8) : Option (List Char) :=
  let name := (byteChars bytes).map Text.foldAscii
  if name.any isForbiddenInDomain then none else some name

theorem allowed_of_smallName? {bytes : List UInt8} {name : List Char}
    (h : smallName? bytes = some name) : name.any isForbiddenInDomain = false := by
  dsimp only [smallName?] at h
  split at h
  · cases h
  · next hallowed =>
    cases h
    exact Bool.eq_false_iff.2 hallowed

/-- For programs without tables of letters: no name beyond ASCII is valid, and labels in Punycode are
taken as they are. -/
instance : Idna where
  toAscii? := smallName?
  allowed := allowed_of_smallName?

/-- Whether a label is in Punycode. -/
def isPunycode (label : List Char) : Bool :=
  Text.startsWith "xn--".toList (label.map Text.foldAscii)

/-- Whether a name has a byte beyond ASCII or a label in Punycode. -/
def isInternational (bytes : List UInt8) : Bool :=
  let name := byteChars bytes
  name.any (0x80 ≤ ·.toNat) || (Text.splitAll '.' name).any isPunycode

/-- The ASCII form of a name. -/
def nameOf? [Idna] (bytes : List UInt8) : Option (List Char) :=
  if isInternational bytes then Idna.toAscii? bytes else smallName? bytes

namespace Host

/-- Reads what stands between brackets as an IPv6 address, brackets included. -/
def bracketed (cs : List Char) : Except ParseError Host :=
  match cs.reverse with
  | ']' :: r =>
    match ipv6? (r.reverse.drop 1) with
    | some pieces => .ok (.ipv6 pieces)
    | none => .error .invalidIPv6
  | _ => .error .invalidIPv6

/-- The host that a text names in a special scheme. -/
def parse [Idna] (cs : List Char) : Except ParseError Host :=
  match cs with
  | '[' :: _ => bracketed cs
  | cs =>
    match nameOf? (decode cs) with
    | none => .error .invalidDomain
    | some name =>
      if name.isEmpty then .error .emptyHost
      else if endsInNumber name then
        match ipv4? name with
        | some address => .ok (.ipv4 address)
        | none => .error .invalidIPv4
      else .ok (.domain name)

/-- The host that a text names in a scheme that is not special. -/
def parsePlain (cs : List Char) : Except ParseError Host :=
  match cs with
  | '[' :: _ => bracketed cs
  | cs =>
    if cs.any isForbiddenInHost then .error .forbiddenHostCharacter
    else .ok (.domain (encode controlSet cs))

/-- The text of a host. -/
def write : Host → List Char
  | .domain name => name
  | .ipv4 n =>
    Text.joinWith ['.'] ([n / 256 ^ 3, n / 256 ^ 2 % 256, n / 256 % 256, n % 256].map Digits.ofNat)
  | .ipv6 pieces => '[' :: (ipv6Text pieces ++ [']'])

/-- Whether a host is left out. -/
def isEmpty : Host → Bool
  | .domain name => name.isEmpty
  | _ => false

end Host
end CaseSheet.Url

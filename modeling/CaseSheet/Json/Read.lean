import CaseSheet.Json.Numeral
import CaseSheet.Number.Hex
import CaseSheet.Text.Search
/-!
# Reading JSON

`parse?` reads a whole text as one JSON value. Arrays and objects may nest `maxDepth` deep. Blanks
are spaces, tabs, line feeds and carriage returns. Escapes that name half of a surrogate pair are
refused, as are raw control characters in strings.
-/

namespace CaseSheet.Json

/-- The greatest depth to which arrays and objects may nest. -/
def maxDepth : Nat := 127

def isBlank (c : Char) : Bool := c == ' ' || c == '\t' || c == '\n' || c == '\r'

/-- The text behind its leading blanks. -/
def skipBlanks (cs : List Char) : List Char := cs.dropWhile isBlank

/-- The code unit that four hexadecimal digits name. -/
def codeUnit? : List Char → Option (Nat × List Char)
  | a :: b :: c :: d :: r => do
    let a ← Hex.value? a
    let b ← Hex.value? b
    let c ← Hex.value? c
    let d ← Hex.value? d
    return (a * 4096 + b * 256 + c * 16 + d, r)
  | _ => none

def isLeading (u : Nat) : Bool := 0xD800 ≤ u && u ≤ 0xDBFF
def isTrailing (u : Nat) : Bool := 0xDC00 ≤ u && u ≤ 0xDFFF

/-- The character that follows as hexadecimal escape, or as a pair of them. -/
def escapedUnit? (cs : List Char) : Option (Char × List Char) := do
  let (u, r) ← codeUnit? cs
  if isTrailing u then none
  else if isLeading u then
    match r with
    | '\\' :: 'u' :: r =>
      let (t, r) ← codeUnit? r
      if isTrailing t then
        return (Char.ofNat (0x10000 + (u - 0xD800) * 0x400 + (t - 0xDC00)), r)
      else none
    | _ => none
  else return (Char.ofNat u, r)

/-- The character that an escape names; the text starts behind the backslash. -/
def escape? : List Char → Option (Char × List Char)
  | '"' :: r => some ('"', r)
  | '\\' :: r => some ('\\', r)
  | '/' :: r => some ('/', r)
  | 'b' :: r => some ('\x08', r)
  | 'f' :: r => some ('\x0c', r)
  | 'n' :: r => some ('\n', r)
  | 'r' :: r => some ('\r', r)
  | 't' :: r => some ('\t', r)
  | 'u' :: r => escapedUnit? r
  | _ => none

theorem length_codeUnit? {cs r : List Char} {u : Nat} (h : codeUnit? cs = some (u, r)) :
    r.length < cs.length := by
  unfold codeUnit? at h
  split at h
  · simp only [Option.bind_eq_bind, Option.bind_eq_some_iff, Option.pure_def, Option.some.injEq,
      Prod.mk.injEq] at h
    obtain ⟨_, _, _, _, _, _, _, _, _, rfl⟩ := h
    simp only [List.length_cons]; omega
  · cases h

theorem length_escapedUnit? {cs r : List Char} {c : Char} (h : escapedUnit? cs = some (c, r)) :
    r.length < cs.length := by
  unfold escapedUnit? at h
  simp only [Option.bind_eq_bind, Option.bind_eq_some_iff, Prod.exists] at h
  obtain ⟨u, r₁, h₁, h⟩ := h
  have hl := length_codeUnit? h₁
  split at h
  · cases h
  · split at h
    · split at h
      · simp only [Option.bind_eq_some_iff, Prod.exists] at h
        obtain ⟨t, r₂, h₂, h⟩ := h
        have hl₂ := length_codeUnit? h₂
        split at h
        · simp only [Option.pure_def, Option.some.injEq, Prod.mk.injEq] at h
          obtain ⟨_, rfl⟩ := h
          simp only [List.length_cons] at hl; omega
        · cases h
      · cases h
    · simp only [Option.pure_def, Option.some.injEq, Prod.mk.injEq] at h
      obtain ⟨_, rfl⟩ := h
      exact hl

theorem length_escape? {cs r : List Char} {c : Char} (h : escape? cs = some (c, r)) :
    r.length < cs.length := by
  unfold escape? at h
  split at h
  case h_9 =>
    have := length_escapedUnit? h
    simp only [List.length_cons]; omega
  case h_10 => cases h
  all_goals
    simp only [Option.some.injEq, Prod.mk.injEq] at h
    obtain ⟨_, rfl⟩ := h
    simp

/-- The characters of a string and the text behind it; the text starts behind the opening
quote. -/
def stringBody? : List Char → Option (List Char × List Char)
  | [] => none
  | '"' :: r => some ([], r)
  | '\\' :: r =>
    match h : escape? r with
    | none => none
    | some (c, r') =>
      have : r'.length < r.length := length_escape? h
      (stringBody? r').map fun (s, r) => (c :: s, r)
  | c :: r =>
    if c.toNat < 0x20 then none
    else (stringBody? r).map fun (s, r) => (c :: s, r)
termination_by cs => cs.length
decreasing_by all_goals simp only [List.length_cons]; omega

/-- One or more items with commas between them, and the closing character. -/
def items? {α : Type} (item? : List Char → Option (α × List Char)) (close : Char)
    (cs : List Char) : Option (List α × List Char) :=
  match item? cs with
  | none => none
  | some (a, r) =>
    match skipBlanks r with
    | [] => none
    | c :: r =>
      if c = close then some ([a], r)
      else if c = ',' then
        if r.length < cs.length then (items? item? close r).map fun (as, r) => (a :: as, r)
        else none
      else none
termination_by cs.length

/-- A key and its value. -/
def member? (value? : List Char → Option (Value × List Char)) (cs : List Char) :
    Option ((String × Value) × List Char) := do
  match skipBlanks cs with
  | '"' :: r =>
    let (k, r) ← stringBody? r
    match skipBlanks r with
    | ':' :: r =>
      let (v, r) ← value? r
      return ((String.ofList k, v), r)
    | _ => none
  | _ => none

/-- A number at the start of a text. -/
def number? (cs : List Char) : Option (Value × List Char) := do
  let (n, r) ← Numeral.read? cs
  let n ← n.value?
  return (.number n, r)

/-- A word with a value of its own, at the start of a text. -/
def word? (cs : List Char) : Option (Value × List Char) :=
  match Text.stripStart? ['n', 'u', 'l', 'l'] cs with
  | some r => some (.null, r)
  | none =>
    match Text.stripStart? ['t', 'r', 'u', 'e'] cs with
    | some r => some (.bool true, r)
    | none => (Text.stripStart? ['f', 'a', 'l', 's', 'e'] cs).map fun r => (.bool false, r)

/-- A value that holds no other. -/
def scalar? : List Char → Option (Value × List Char)
  | '"' :: r => (stringBody? r).map fun (s, r) => (.string (String.ofList s), r)
  | cs => (word? cs).or (number? cs)

/-- A value at the start of a text, with at most `depth` levels of arrays and objects. -/
def value? : Nat → List Char → Option (Value × List Char)
  | depth, cs =>
    match skipBlanks cs, depth with
    | '[' :: r, depth + 1 =>
      match skipBlanks r with
      | ']' :: r => some (.array [], r)
      | r => (items? (value? depth) ']' r).map fun (vs, r) => (.array vs, r)
    | '\x7b' :: r, depth + 1 =>
      match skipBlanks r with
      | '\x7d' :: r => some (.object [], r)
      | r => (items? (member? (value? depth)) '\x7d' r).map fun (fs, r) =>
          (.object (Fields.ofList fs), r)
    | cs, _ => scalar? cs
termination_by structural depth => depth

/-- The value that a whole text writes. -/
def parse? (cs : List Char) : Option Value :=
  match value? maxDepth cs with
  | some (v, r) => if (skipBlanks r).isEmpty then some v else none
  | none => none

end CaseSheet.Json

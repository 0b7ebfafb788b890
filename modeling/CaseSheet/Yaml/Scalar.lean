import CaseSheet.Number.Hex
import CaseSheet.Yaml.Source
/-!
# Scalars in a source

The text of a scalar in each of its written styles. Within a scalar a single line end reads as a
space and further ones as themselves; gaps around a line end do not count. A literal keeps its
lines as they are below their indentation.
-/

namespace CaseSheet.Yaml

/-- The written styles of a scalar. -/
inductive Style where
  | plain
  | singleQuoted
  | doubleQuoted
  | literal
  | folded
deriving DecidableEq, Repr

/-- What has been read since the last character of a word. -/
inductive Pending where
  /-- Gaps on the same line. -/
  | gaps (text : List Char)
  /-- A line end, which a continuation mark in front may have taken away, and further ones. -/
  | breaks (first : Option Char) (more : List Char)
deriving DecidableEq, Repr

namespace Pending

def nothing : Pending := .gaps []

/-- Adds a gap; behind a line end it does not count. -/
def addGap (p : Pending) (c : Char) : Pending :=
  match p with
  | .gaps text => .gaps (text ++ [c])
  | p => p

/-- Adds a line end; gaps in front of the first do not count. -/
def addBreak (p : Pending) (c : Char) : Pending :=
  match p with
  | .gaps _ => .breaks (some c) []
  | .breaks first more => .breaks first (more ++ [c])

/-- What stands in the scalar for what was read between two words. -/
def fold : Pending → List Char
  | .gaps text => text
  | .breaks (some '\n') [] => [' ']
  | .breaks (some '\n') more => more
  | .breaks (some c) more => c :: more
  | .breaks none more => more

def hasBreak : Pending → Bool
  | .gaps _ => false
  | .breaks _ _ => true

end Pending

/-! ## Plain scalars -/

/-- Indicators of flow collections. -/
def isFlowIndicator (c : Char) : Bool :=
  c == ',' || c == '[' || c == ']' || c == '\x7b' || c == '\x7d'

/-- How a plain scalar goes on at a character of a word. -/
inductive PlainNext where
  | goesOn
  | ends
  | malformed
deriving DecidableEq, Repr

/-- How a plain scalar goes on at a character of a word: it ends at a colon before a gap, and
inside flow collections at their indicators. -/
def plainNext (flow : Bool) (c : Char) (rest : List Located) : PlainNext :=
  let colonBeforeIndicator := match rest with
    | l :: _ => isFlowIndicator l.char || l.char == '?'
    | [] => false
  if flow && c == ':' && colonBeforeIndicator then .malformed
  else if c == ':' && atGap rest then .ends
  else if flow && isFlowIndicator c then .ends
  else .goesOn

/-- A plain scalar: its text in reverse so far, what was read since, and the rest of the source.
Words further left than `least` belong to it only inside flow collections. -/
def plainScalar? (flow : Bool) (least : Nat) :
    List Char → Pending → List Located → Option (List Char × Pending × List Located)
  | text, pending, [] => some (text.reverse, pending, [])
  | text, pending, l :: r =>
    if isGap l.char then
      if pending.hasBreak && l.mark.column < least && l.char == '\t' then none
      else plainScalar? flow least text (pending.addGap l.char) r
    else if isBreak l.char then plainScalar? flow least text (pending.addBreak l.char) r
    else
      let behindGap := pending != .nothing
      if behindGap && ((!flow && l.mark.column < least) || atAnyMarker (l :: r) || l.char == '#')
      then some (text.reverse, pending, l :: r)
      else match plainNext flow l.char r with
        | .malformed => none
        | .ends => some (text.reverse, pending, l :: r)
        | .goesOn =>
          plainScalar? flow least (l.char :: (pending.fold.reverse ++ text)) .nothing r

/-! ## Quoted scalars -/

/-- A number from exactly `count` hexadecimal digits. -/
def hexNumber? : Nat → Nat → List Located → Option (Nat × List Located)
  | 0, n, ls => some (n, ls)
  | _ + 1, _, [] => none
  | count + 1, n, l :: r =>
    match Hex.value? l.char with
    | some d => hexNumber? count (n * 16 + d) r
    | none => none

/-- The character that a number names, if it names one. -/
def charOfNumber? (n : Nat) : Option Char :=
  if n < 0xD800 ∨ (0xDFFF < n ∧ n ≤ 0x10FFFF) then some (Char.ofNat n) else none

/-- The character that an escape of one letter names. -/
def simpleEscape? (c : Char) : Option Char :=
  match c with
  | '0' => some '\x00'
  | 'a' => some '\x07'
  | 'b' => some '\x08'
  | 't' | '\t' => some '\t'
  | 'n' => some '\n'
  | 'v' => some '\x0b'
  | 'f' => some '\x0c'
  | 'r' => some '\r'
  | 'e' => some '\x1b'
  | ' ' => some ' '
  | '"' => some '"'
  | '/' => some '/'
  | '\\' => some '\\'
  | 'N' => some '\u0085'
  | '_' => some '\u00a0'
  | 'L' => some '\u2028'
  | 'P' => some '\u2029'
  | _ => none

/-- How many digits follow an escape that names a character by number. -/
def numberedEscape? (c : Char) : Option Nat :=
  match c with
  | 'x' => some 2
  | 'u' => some 4
  | 'U' => some 8
  | _ => none

/-- The character that an escape names; the source starts behind the backslash. -/
def escape? : List Located → Option (Char × List Located)
  | [] => none
  | l :: r =>
    match numberedEscape? l.char with
    | some count => do
      let (n, r) ← hexNumber? count 0 r
      let c ← charOfNumber? n
      return (c, r)
    | none => (simpleEscape? l.char).map fun c => (c, r)

theorem length_hexNumber? {count n m : Nat} {ls r : List Located}
    (h : hexNumber? count n ls = some (m, r)) : r.length ≤ ls.length := by
  induction count generalizing n ls with
  | zero => simp only [hexNumber?, Option.some.injEq, Prod.mk.injEq] at h; simp [h.2]
  | succ count ih =>
    cases ls with
    | nil => simp [hexNumber?] at h
    | cons l r' =>
      simp only [hexNumber?] at h
      split at h
      · have := ih h; simp only [List.length_cons]; omega
      · cases h

theorem length_escape? {ls r : List Located} {c : Char} (h : escape? ls = some (c, r)) :
    r.length < ls.length := by
  cases ls with
  | nil => simp [escape?] at h
  | cons l r' =>
    simp only [escape?] at h
    split at h
    · simp only [Option.bind_eq_bind, Option.bind_eq_some_iff, Prod.exists, Option.pure_def,
        Option.some.injEq, Prod.mk.injEq] at h
      obtain ⟨n, r₁, h₁, c', _, _, rfl⟩ := h
      have := length_hexNumber? h₁
      simp only [List.length_cons]; omega
    · simp only [Option.map_eq_some_iff, Prod.mk.injEq] at h
      obtain ⟨_, _, _, rfl⟩ := h
      simp

/-- A scalar between single quotes; the source starts behind the opening quote. -/
def singleQuoted? : List Char → Pending → List Located → Option (List Char × List Located)
  | _, _, [] => none
  | text, pending, l :: r =>
    if isGap l.char then singleQuoted? text (pending.addGap l.char) r
    else if isBreak l.char then singleQuoted? text (pending.addBreak l.char) r
    else if atAnyMarker (l :: r) then none
    else
      let text := pending.fold.reverse ++ text
      if l.char = '\'' then
        match r with
        | q :: r' =>
          if q.char = '\'' then singleQuoted? ('\'' :: text) .nothing r'
          else some (text.reverse, q :: r')
        | [] => some (text.reverse, [])
      else singleQuoted? (l.char :: text) .nothing r

/-- A scalar between double quotes; the source starts behind the opening quote. -/
def doubleQuoted? (text : List Char) (pending : Pending) (ls : List Located) :
    Option (List Char × List Located) :=
  match ls with
  | [] => none
  | l :: r =>
    if isGap l.char then doubleQuoted? text (pending.addGap l.char) r
    else if isBreak l.char then doubleQuoted? text (pending.addBreak l.char) r
    else if atAnyMarker (l :: r) then none
    else
      let text := pending.fold.reverse ++ text
      if l.char = '"' then some (text.reverse, r)
      else if l.char = '\\' then
        match r with
        | b :: r' =>
          if isBreak b.char then doubleQuoted? text (.breaks none []) r'
          else match h : escape? (b :: r') with
            | some (c, r'') =>
              have : r''.length < (b :: r').length := length_escape? h
              doubleQuoted? (c :: text) .nothing r''
            | none => none
        | [] => none
      else doubleQuoted? (l.char :: text) .nothing r
termination_by ls.length
decreasing_by all_goals simp only [List.length_cons] at *; omega

/-! ## Literal and folded scalars -/

/-- What is kept of the line ends behind the last line. -/
inductive Chomp where
  | clip
  | strip
  | keep
deriving DecidableEq, Repr

/-- The header of a literal or folded scalar. -/
structure BlockHeader where
  chomp : Chomp
  /-- The indentation below that of the collection around, if it is given. -/
  increment : Option Nat
deriving DecidableEq, Repr

/-- A mark that says what is kept of the last line ends. -/
def chompMark? (c : Char) : Option Chomp :=
  match c with
  | '+' => some .keep
  | '-' => some .strip
  | _ => none

/-- The digits from one to nine. -/
def incrementMark? (c : Char) : Option Nat :=
  if '1' ≤ c ∧ c ≤ '9' then some (c.toNat - 48) else none

/-- The two marks of a header, in either order, each of them optional. A zero is malformed. -/
def blockHeader? (ls : List Located) : Option (BlockHeader × List Located) :=
  let header : BlockHeader × List Located :=
    match ls with
    | [] => (⟨.clip, none⟩, [])
    | a :: r =>
      match chompMark? a.char, incrementMark? a.char with
      | some chomp, _ =>
        match r with
        | b :: r' =>
          match incrementMark? b.char with
          | some n => (⟨chomp, some n⟩, r')
          | none => (⟨chomp, none⟩, r)
        | [] => (⟨chomp, none⟩, [])
      | none, some n =>
        match r with
        | b :: r' =>
          match chompMark? b.char with
          | some chomp => (⟨chomp, some n⟩, r')
          | none => (⟨.clip, some n⟩, r)
        | [] => (⟨.clip, some n⟩, [])
      | none, none => (⟨.clip, none⟩, a :: r)
  let r := header.2.dropWhile fun l => isGap l.char
  let r := match r with
    | l :: _ => if l.char = '#' then r.dropWhile fun (l : Located) => !isBreak l.char else r
    | [] => []
  match r with
  | [] => some (header.1, [])
  | l :: r => if isBreak l.char then some (header.1, r) else none

/-- The furthest column that the first word of a scalar or a line of gaps before it reaches; a tab
may not stand there. -/
def leadingColumn? : Nat → List Located → Option Nat
  | reached, [] => some reached
  | reached, l :: r =>
    let reached := max reached l.mark.column
    if l.char = ' ' then leadingColumn? reached r
    else if l.char = '\t' then none
    else if isBreak l.char then leadingColumn? reached r
    else some reached

/-- A literal or folded scalar while it is read; texts are in reverse. -/
structure Block where
  text : List Char
  /-- The line end of the last line. -/
  lineEnd : Option Char
  /-- Line ends of empty lines behind it. -/
  empties : List Char
  /-- Whether the last line starts with a gap. -/
  gapFirst : Bool
  inLine : Bool
deriving Repr

namespace Block

def start : Block :=
  { text := [], lineEnd := none, empties := [], gapFirst := false, inLine := false }

/-- Starts a line with a character: the line end before it is kept, or folded into a space between
two lines that both start with a word. -/
def startLine (b : Block) (folded : Bool) (c : Char) : Block :=
  let joined :=
    if folded && b.lineEnd == some '\n' && !b.gapFirst && !isGap c then
      if b.empties.isEmpty then [' '] else []
    else b.lineEnd.toList
  { text := c :: (b.empties ++ joined ++ b.text), lineEnd := none, empties := []
    gapFirst := isGap c, inLine := true }

/-- The text of the scalar. -/
def finish (b : Block) (chomp : Chomp) : List Char :=
  let text := b.text.reverse
  match chomp with
  | .strip => text
  | .clip => text ++ b.lineEnd.toList
  | .keep => text ++ b.lineEnd.toList ++ b.empties.reverse

end Block

/-- Reads the lines of a literal or folded scalar at an indentation. -/
def blockLines? (folded : Bool) (indent : Nat) :
    Block → List Located → Option (Block × List Located)
  | b, [] => some (b, [])
  | b, l :: r =>
    if b.inLine then
      if isBreak l.char then
        blockLines? folded indent { b with lineEnd := some l.char, inLine := false } r
      else blockLines? folded indent { b with text := l.char :: b.text } r
    else if l.mark.column < indent && l.char == ' ' then blockLines? folded indent b r
    else if l.mark.column < indent && l.char == '\t' then none
    else if isBreak l.char then
      blockLines? folded indent { b with empties := l.char :: b.empties } r
    else if l.mark.column = indent then
      blockLines? folded indent (b.startLine folded l.char) r
    else some (b, l :: r)

/-- A literal or folded scalar inside a collection at column `outer`, or outside any (`none`); the
source starts behind the indicator. -/
def blockScalar? (folded : Bool) (outer : Option Nat) (ls : List Located) :
    Option (List Char × List Located) := do
  let (header, ls) ← blockHeader? ls
  let indent ← match header.increment with
    | some n => some (outer.getD 0 + n)
    | none => do
      let reached ← leadingColumn? 0 ls
      some (max reached (match outer with
        | some n => n + 1
        | none => 1))
  let (b, r) ← blockLines? folded indent .start ls
  return (b.finish header.chomp, r)

end CaseSheet.Yaml

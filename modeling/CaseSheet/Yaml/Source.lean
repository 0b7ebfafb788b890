/-!
# Source texts

A YAML source is a list of characters, each with its place. Line ends are made uniform first: a
carriage return, a carriage return with a line feed, and a next-line character all count as one
line feed. The two Unicode separators end a line as well, and stay what they are.
-/

namespace CaseSheet.Yaml

/-- A place in a source, counted from zero. -/
structure Mark where
  index : Nat
  line : Nat
  column : Nat
deriving DecidableEq, Repr, Inhabited

/-- A character with its place. -/
structure Located where
  char : Char
  mark : Mark
deriving DecidableEq, Repr

/-- The characters that end a line, once line ends are uniform. -/
def isBreak (c : Char) : Bool := c == '\n' || c == '\u2028' || c == '\u2029'

/-- The characters that part words on a line. -/
def isGap (c : Char) : Bool := c == ' ' || c == '\t'

/-- The characters that a source may hold. -/
def isAllowed (c : Char) : Bool :=
  let n := c.toNat
  n == 0x9 || n == 0xA || n == 0xD || (0x20 ≤ n && n ≤ 0x7E) || n == 0x85 ||
    (0xA0 ≤ n && n ≤ 0xFFFD) || 0x10000 ≤ n

def byteOrderMark : Char := '\ufeff'

namespace Mark

def start : Mark := { index := 0, line := 0, column := 0 }

/-- The place behind a character of a line. -/
def right (m : Mark) : Mark := { m with index := m.index + 1, column := m.column + 1 }

/-- The place behind a line end of `width` characters. -/
def down (m : Mark) (width : Nat) : Mark :=
  { index := m.index + width, line := m.line + 1, column := 0 }

/-- The start of the line at or behind a place. -/
def forceLine (m : Mark) : Mark :=
  if m.column = 0 then m else { m with line := m.line + 1, column := 0 }

end Mark

/-- The characters of a text from a place on, with the place behind them. -/
def locateFrom : Mark → List Char → List Located × Mark
  | m, [] => ([], m)
  | m, '\r' :: '\n' :: r =>
    let (ls, stop) := locateFrom (m.down 2) r
    (⟨'\n', m⟩ :: ls, stop)
  | m, c :: r =>
    if c = '\r' ∨ c = '\n' ∨ c = '\u0085' then
      let (ls, stop) := locateFrom (m.down 1) r
      (⟨'\n', m⟩ :: ls, stop)
    else
      let (ls, stop) := locateFrom (if isBreak c then m.down 1 else m.right) r
      (⟨c, m⟩ :: ls, stop)

/-- The characters of a text, with the place behind the last. A byte order mark in front is not
part of the source. -/
def locate (cs : List Char) : List Located × Mark :=
  match cs with
  | c :: r => if c = byteOrderMark then locateFrom .start r else locateFrom .start (c :: r)
  | [] => ([], .start)

/-- The place at which a list of characters starts. -/
def placeOf (stop : Mark) : List Located → Mark
  | [] => stop
  | l :: _ => l.mark

/-- Whether a list starts with a gap or a line end, or is empty. -/
def atGap : List Located → Bool
  | [] => true
  | l :: _ => isGap l.char || isBreak l.char

/-- Whether a list starts with a line end, or is empty. -/
def atBreak : List Located → Bool
  | [] => true
  | l :: _ => isBreak l.char

/-- Whether a list starts with a marker of three equal characters that parts documents. -/
def atDocumentMarker (c : Char) : List Located → Bool
  | a :: b :: d :: r =>
    a.mark.column == 0 && a.char == c && b.char == c && d.char == c && atGap r
  | _ => false

/-- Whether a list starts with either document marker. -/
def atAnyMarker (ls : List Located) : Bool :=
  atDocumentMarker '-' ls || atDocumentMarker '.' ls

end CaseSheet.Yaml

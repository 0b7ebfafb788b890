import CaseSheet.Yaml.Meaning
/-!
# Writing YAML scalars

A text is written in the plainest style that reads back as the same text. Several lines make a
literal; a text that would mean something else when plain is put between single quotes; and what
none of these can hold is put between double quotes with escapes.
-/

namespace CaseSheet.Yaml

/-- The characters that may stand in a scalar without an escape. -/
def isPrintable (c : Char) : Bool :=
  let n := c.toNat
  c == '\n' || (0x20 ≤ n && n ≤ 0x7E) || (0xA0 ≤ n && n ≤ 0xFFFD && n != 0xFEFF) || 0x10000 ≤ n

namespace ScalarText

/-- Whether somewhere a member with `p` is followed directly by one with `q`. -/
def hasPair (p q : Char → Bool) : List Char → Bool
  | c :: d :: r => (p c && q d) || hasPair p q (d :: r)
  | _ => false

def isSpace (c : Char) : Bool := c == ' '

/-- Whether the last member satisfies `p`. -/
def endsIn (p : Char → Bool) (cs : List Char) : Bool := cs.getLast?.any p

/-- Whether the first member satisfies `p`. -/
def startsIn (p : Char → Bool) (cs : List Char) : Bool := cs.head?.any p

/-- A text of which some character or gap could only be written with an escape. -/
def needsEscape (cs : List Char) : Bool :=
  cs.any (fun c => !isPrintable c) || hasPair isSpace isBreak cs

/-- Whether a plain scalar with this text would be cut or taken for something else, because of an
indicator or a document marker. -/
def hasIndicator (cs : List Char) : Bool :=
  Text.startsWith ['-', '-', '-'] cs || Text.startsWith ['.', '.', '.'] cs ||
    startsIn (['#', ',', '[', ']', '\x7b', '\x7d', '&', '*', '!', '|', '>', '\'', '"', '%', '@',
      '`'].contains ·) cs ||
    (startsIn (fun c => c == '?' || c == '-') cs && (cs.drop 1).head?.all isGap) ||
    hasPair (· == ':') isGap cs || endsIn (· == ':') cs || hasPair isGap (· == '#') cs

/-- Whether a plain scalar with this text has a meaning other than the text. -/
def meansOther (cs : List Char) : Bool :=
  Meaning.ofPlain cs != .text || Meaning.isPaddedNumber cs

/-- The style in which a text is written. -/
def styleOf (cs : List Char) : Style :=
  if needsEscape cs then .doubleQuoted
  else if cs.contains '\n' then
    if endsIn isSpace cs then .doubleQuoted else .literal
  else if hasPair isBreak isSpace cs then .doubleQuoted
  else if meansOther cs || cs.any isBreak || startsIn isSpace cs || endsIn isSpace cs ||
    hasIndicator cs then .singleQuoted
  else .plain

/-- The spaces in front of a continued line. -/
def margin (indent : Nat) : List Char := List.replicate indent ' '

/-- The inside of a scalar between single quotes; `broken` says that a line has just ended. Behind a
line end stands the margin of the next line. -/
def writeSingle (indent : Nat) : (broken : Bool) → List Char → List Char
  | broken, [] => if broken then margin indent else []
  | broken, c :: r =>
    if isBreak c then c :: writeSingle indent true r
    else (if broken then margin indent else []) ++
      (if c = '\'' then ['\'', '\''] else [c]) ++ writeSingle indent false r

/-- The letter of the escape for a character that has a short one. -/
def shortEscape? (c : Char) : Option Char :=
  match c with
  | '\x00' => some '0'
  | '\x07' => some 'a'
  | '\x08' => some 'b'
  | '\t' => some 't'
  | '\n' => some 'n'
  | '\x0b' => some 'v'
  | '\x0c' => some 'f'
  | '\r' => some 'r'
  | '\x1b' => some 'e'
  | '"' => some '"'
  | '\\' => some '\\'
  | '\x85' => some 'N'
  | '\u2028' => some 'L'
  | '\u2029' => some 'P'
  | _ => none

/-- A character between double quotes. -/
def writeDouble (c : Char) : List Char :=
  match shortEscape? c with
  | some e => ['\\', e]
  | none =>
    if isPrintable c then [c]
    else if c.toNat < 0x100 then '\\' :: 'x' :: Hex.upperPadded 2 c.toNat
    else if c.toNat < 0x10000 then '\\' :: 'u' :: Hex.upperPadded 4 c.toNat
    else '\\' :: 'U' :: Hex.upperPadded 8 c.toNat

/-- The indicators behind the bar of a literal: the indentation where the text itself starts with a
space or a line end, and how the line ends behind its last character are kept. -/
def literalHeader (cs : List Char) : List Char :=
  let hint := if startsIn (fun c => isSpace c || isBreak c) cs then ['2'] else []
  let keep :=
    match cs.reverse with
    | [] => ['-']
    | [c] => if isBreak c then ['+'] else ['-']
    | c :: d :: _ => if !isBreak c then ['-'] else if isBreak d then ['+'] else []
  hint ++ keep

/-- The lines of a literal; `broken` says that a line starts here. Empty lines have no margin. -/
def writeLiteral (indent : Nat) : (broken : Bool) → List Char → List Char
  | _, [] => []
  | broken, c :: r =>
    if isBreak c then c :: writeLiteral indent true r
    else (if broken then margin indent else []) ++ c :: writeLiteral indent false r

/-- The text of a scalar up to the end of its line, its further lines being indented. -/
def write (indent : Nat) (cs : List Char) : List Char :=
  match styleOf cs with
  | .plain | .folded => cs ++ ['\n']
  | .singleQuoted => '\'' :: (writeSingle indent false cs ++ ['\'', '\n'])
  | .doubleQuoted => '"' :: (cs.flatMap writeDouble ++ ['"', '\n'])
  | .literal =>
    '|' :: (literalHeader cs ++ '\n' :: writeLiteral indent true cs ++
      if endsIn isBreak cs then [] else ['\n'])

end ScalarText
end CaseSheet.Yaml

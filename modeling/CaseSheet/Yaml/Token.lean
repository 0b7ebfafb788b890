import CaseSheet.Yaml.Scalar
/-!
# Tokens

A source is cut into tokens. Indentation becomes tokens of its own: a collection in block style
starts where a first entry stands further right than the collection around it, and ends where the
source goes back to the left. A key without an indicator is only known for one when its colon is
reached, so the place of the last possible key is kept, one for each level of flow collections;
the key token is put in there.
-/

namespace CaseSheet.Yaml

/-- A tag as written: `!suffix`, `!!suffix`, `!handle!suffix` or a whole tag without a handle. -/
structure RawTag where
  handle : List Char
  suffix : List Char
deriving DecidableEq, Repr

/-- The kinds of token. -/
inductive TokenKind where
  | streamEnd
  | version (major minor : Nat)
  | tagHandle (handle front : List Char)
  | documentStart
  | documentEnd
  | blockSequence
  | blockMapping
  | blockEnd
  | flowSequence
  | flowSequenceEnd
  | flowMapping
  | flowMappingEnd
  | blockEntry
  | flowEntry
  | key
  | value
  | alias (name : List Char)
  | anchor (name : List Char)
  | tag (tag : RawTag)
  | scalar (style : Style) (text : List Char)
deriving DecidableEq, Repr

/-- A token with the places at which it starts and ends. -/
structure Token where
  kind : TokenKind
  start : Mark
  stop : Mark
deriving DecidableEq, Repr

/-! ## Pieces of tokens -/

/-- The characters of names. -/
def isNameChar (c : Char) : Bool :=
  ('a' ≤ c && c ≤ 'z') || ('A' ≤ c && c ≤ 'Z') || ('0' ≤ c && c ≤ '9') || c == '_' || c == '-'

/-- The name at the start of a source, perhaps empty, and the rest. -/
def spanName (ls : List Located) : List Char × List Located :=
  ((ls.takeWhile fun l => isNameChar l.char).map Located.char,
    ls.dropWhile fun l => isNameChar l.char)

def skipGaps (ls : List Located) : List Located := ls.dropWhile fun l => isGap l.char

/-- What may stand behind the name of an anchor or alias. -/
def endsAnchor : List Located → Bool
  | [] => true
  | l :: _ =>
    isGap l.char || isBreak l.char ||
      ['?', ':', ',', ']', '\x7d', '%', '@', '`'].contains l.char

/-- The name of an anchor or alias; the source starts behind the indicator. -/
def anchorName? (ls : List Located) : Option (List Char × List Located) :=
  let (name, r) := spanName ls
  if name.isEmpty || !endsAnchor r then none else some (name, r)

/-- The characters of tags, besides those of names; in a whole tag also commas and brackets. -/
def isTagChar (whole : Bool) (c : Char) : Bool :=
  isNameChar c || [';', '/', '?', ':', '@', '&', '=', '+', '$', '.', '%', '!', '~', '*', '\'', '(',
    ')'].contains c || (whole && [',', '[', ']'].contains c)

/-- The byte that a percent sign with two digits names. -/
def escapedByte? : List Located → Option (Nat × List Located)
  | p :: a :: b :: r =>
    if p.char = '%' then
      match Hex.value? a.char, Hex.value? b.char with
      | some h, some l => some (h * 16 + l, r)
      | _, _ => none
    else none
  | _ => none

/-- Adds bytes that continue a character of several. -/
def continuation? : Nat → Nat → List Located → Option (Nat × List Located)
  | 0, n, ls => some (n, ls)
  | k + 1, n, ls => do
    let (b, r) ← escapedByte? ls
    if b / 64 = 2 then continuation? k (n * 64 + b % 64) r else none

/-- The character that percent-encoded bytes name. -/
def escapedChar? (ls : List Located) : Option (Char × List Located) := do
  let (b, r) ← escapedByte? ls
  let (n, r) ←
    if b < 0x80 then some (b, r)
    else if b / 32 = 6 then continuation? 1 (b % 32) r
    else if b / 16 = 14 then continuation? 2 (b % 16) r
    else if b / 8 = 30 then continuation? 3 (b % 8) r
    else none
  let c ← charOfNumber? n
  return (c, r)

/-- The characters of a tag, with at most as many steps as there are characters. -/
def tagChars? (whole : Bool) : Nat → List Located → Option (List Char × List Located)
  | 0, ls => some ([], ls)
  | _ + 1, [] => some ([], [])
  | fuel + 1, l :: r =>
    if !isTagChar whole l.char then some ([], l :: r)
    else if l.char = '%' then do
      let (c, r) ← escapedChar? (l :: r)
      let (cs, r) ← tagChars? whole fuel r
      return (c :: cs, r)
    else do
      let (cs, r) ← tagChars? whole fuel r
      return (l.char :: cs, r)

/-- The characters of a tag, of which there must be some unless `front` is not empty. -/
def tagText? (whole : Bool) (front : List Char) (ls : List Located) :
    Option (List Char × List Located) := do
  let (cs, r) ← tagChars? whole ls.length ls
  if front.isEmpty && cs.isEmpty then none else some (front.drop 1 ++ cs, r)

/-- A handle: an exclamation mark, a name and perhaps another mark. -/
def handleText? : List Located → Option (List Char × List Located)
  | l :: r =>
    if l.char = '!' then
      let (name, r) := spanName r
      match r with
      | m :: r' =>
        if m.char = '!' then some ('!' :: (name ++ ['!']), r') else some ('!' :: name, r)
      | [] => some ('!' :: name, [])
    else none
  | [] => none

/-- A tag; the source starts with its exclamation mark. -/
def rawTag? (flow : Bool) (ls : List Located) : Option (RawTag × List Located) := do
  let (tag, r) ← match ls with
    | a :: b :: r =>
      if a.char = '!' ∧ b.char = '<' then
        match tagText? true [] r with
        | some (cs, m :: r') => if m.char = '>' then some (RawTag.mk [] cs, r') else none
        | _ => none
      else shorthand? ls
    | ls => shorthand? ls
  let ends := match r with
    | [] => true
    | l :: _ => isGap l.char || isBreak l.char || (flow && l.char == ',')
  if ends then some (tag, r) else none
where
  shorthand? (ls : List Located) : Option (RawTag × List Located) := do
    let (handle, r) ← handleText? ls
    if 2 ≤ handle.length && handle.getLast? == some '!' then
      let (cs, r) ← tagText? false [] r
      return (⟨handle, cs⟩, r)
    else
      let (cs, r) ← tagText? false handle r
      if cs.isEmpty then return (⟨[], ['!']⟩, r) else return (⟨['!'], cs⟩, r)

/-- A number of one to nine digits. -/
def versionNumber? (ls : List Located) : Option (Nat × List Located) :=
  let isDigit := fun (l : Located) => '0' ≤ l.char && l.char ≤ '9'
  let ds := ls.takeWhile isDigit
  if ds.isEmpty || 9 < ds.length then none
  else some (ds.foldl (fun n l => n * 10 + (l.char.toNat - 48)) 0, ls.dropWhile isDigit)

/-- The rest of the line of a directive, which may be a comment. -/
def directiveEnd? (ls : List Located) : Option (List Located) :=
  let r := skipGaps ls
  let r := match r with
    | l :: _ => if l.char = '#' then r.dropWhile fun (l : Located) => !isBreak l.char else r
    | [] => []
  match r with
  | [] => some []
  | l :: r => if isBreak l.char then some r else none

/-- A directive; the source starts behind the percent sign. Only versions and tag handles are
known. -/
def directive? (ls : List Located) : Option (TokenKind × List Located) := do
  let (name, r) := spanName ls
  if !atGap r then none
  else if name = "YAML".toList then
    let (major, r) ← versionNumber? (skipGaps r)
    match r with
    | l :: r =>
      if l.char = '.' then
        let (minor, r) ← versionNumber? r
        let r ← directiveEnd? r
        return (.version major minor, r)
      else none
    | [] => none
  else if name = "TAG".toList then
    let (handle, r) ← handleText? (skipGaps r)
    if handle ≠ ['!'] ∧ handle.getLast? ≠ some '!' then none
    else match r with
      | l :: _ =>
        if isGap l.char then
          let (front, r) ← tagText? true [] (skipGaps r)
          if atGap r then
            let r ← directiveEnd? r
            return (.tagHandle handle front, r)
          else none
        else none
      | [] => none
  else none

/-! ## The scanner -/

/-- A place at which a key without an indicator may have started. -/
structure PossibleKey where
  /-- How many tokens stand before it. -/
  number : Nat
  /-- Whether only a key can stand there. -/
  required : Bool
  mark : Mark
deriving DecidableEq, Repr

/-- The scanner between two tokens. -/
structure Scanner where
  rest : List Located
  stop : Mark
  /-- The tokens so far, in reverse. -/
  tokens : List Token
  /-- The column of the innermost block collection, and those around it; `none` is outside any. -/
  indent : Option Nat
  outer : List (Option Nat)
  /-- How many flow collections are open. -/
  flow : Nat
  /-- Whether a key without an indicator may start. -/
  keyAllowed : Bool
  /-- The possible key of each flow level, innermost first. -/
  keys : List (Option PossibleKey)

namespace Scanner

def start (cs : List Char) : Scanner :=
  let (rest, stop) := locate cs
  { rest, stop, tokens := [], indent := none, outer := [], flow := 0, keyAllowed := true
    keys := [none] }

def here (s : Scanner) : Mark := placeOf s.stop s.rest

def inFlow (s : Scanner) : Bool := s.flow != 0

/-- Whether a column lies right of the innermost block collection. -/
def isInside (s : Scanner) (column : Nat) : Bool :=
  match s.indent with
  | none => true
  | some n => n < column

def push (s : Scanner) (kind : TokenKind) (start stop : Mark) : Scanner :=
  { s with tokens := ⟨kind, start, stop⟩ :: s.tokens }

/-- Adds the token that reaches from here to the rest of the source. -/
def take (s : Scanner) (kind : TokenKind) (rest : List Located) : Scanner :=
  { s.push kind s.here (placeOf s.stop rest) with rest }

/-- Puts a token in behind the first `number` tokens. -/
def putIn (s : Scanner) (number : Nat) (kind : TokenKind) (mark : Mark) : Scanner :=
  { s with tokens := s.tokens.insertIdx (s.tokens.length - number) ⟨kind, mark, mark⟩ }

/-- Skips gaps, comments and line ends. Outside flow collections a line end allows a key, and tabs
are only skipped where none is allowed. -/
def skipBlank (flow : Bool) : (keyAllowed comment : Bool) → List Located → Bool × List Located
  | k, _, [] => (k, [])
  | k, comment, l :: r =>
    if isBreak l.char then skipBlank flow (k || !flow) false r
    else if comment then skipBlank flow k true r
    else if l.char = byteOrderMark ∧ l.mark.column = 0 then skipBlank flow k false r
    else if l.char = ' ' ∨ (l.char = '\t' ∧ (flow || !k)) then skipBlank flow k false r
    else if l.char = '#' then skipBlank flow k true r
    else (k, l :: r)

/-- Drops the possible keys that are not on this line or too far back. -/
def dropStale? (s : Scanner) : Option Scanner := do
  let here := s.here
  let keys ← s.keys.mapM fun
    | some k =>
      if k.mark.line < here.line || k.mark.index + 1024 < here.index then
        if k.required then none else some none
      else some (some k)
    | none => some none
  return { s with keys }

/-- Ends the block collections right of a column. -/
def unroll (column : Option Nat) (mark : Mark) :
    List (Option Nat) → Option Nat → List Token → Option Nat × List (Option Nat) × List Token
  | outer, none, tokens => (none, outer, tokens)
  | outer, some n, tokens =>
    let further := match column with
      | none => true
      | some c => c < n
    if further then
      match outer with
      | o :: outer => unroll column mark outer o (⟨.blockEnd, mark, mark⟩ :: tokens)
      | [] => (none, [], ⟨.blockEnd, mark, mark⟩ :: tokens)
    else (some n, outer, tokens)

/-- Ends the block collections right of a column, unless inside a flow collection. -/
def unrollTo (s : Scanner) (column : Option Nat) : Scanner :=
  if s.inFlow then s
  else
    let (indent, outer, tokens) := unroll column s.here s.outer s.indent s.tokens
    { s with indent, outer, tokens }

/-- Starts a block collection at a column, behind the first `number` tokens, if it lies further
right than the one around it. -/
def roll (s : Scanner) (column number : Nat) (kind : TokenKind) (mark : Mark) : Scanner :=
  if s.inFlow || !s.isInside column then s
  else { s.putIn number kind mark with indent := some column, outer := s.indent :: s.outer }

/-- Gives up the possible key of this level. -/
def dropKey? (s : Scanner) : Option Scanner :=
  match s.keys with
  | some k :: keys => if k.required then none else some { s with keys := none :: keys }
  | _ => some s

/-- Notes that a key may start here. -/
def saveKey? (s : Scanner) : Option Scanner :=
  if s.keyAllowed then do
    let required := !s.inFlow && s.indent == some s.here.column
    let s ← s.dropKey?
    return { s with
      keys := some { number := s.tokens.length, required, mark := s.here } :: s.keys.drop 1 }
  else some s

/-- A token at which a key may start: a scalar, an anchor, an alias or a tag. -/
def takeAsKey? (s : Scanner) (kind : TokenKind) (rest : List Located) : Option Scanner := do
  let s ← s.saveKey?
  return { s.take kind rest with keyAllowed := false }

def streamEnd? (s : Scanner) : Option Scanner := do
  let s := { s with stop := s.stop.forceLine }
  let s ← (s.unrollTo none).dropKey?
  return s.push .streamEnd s.here s.here

def documentToken? (s : Scanner) (kind : TokenKind) (rest : List Located) : Option Scanner := do
  let s ← (s.unrollTo none).dropKey?
  return { s.take kind rest with keyAllowed := false }

def flowStart? (s : Scanner) (kind : TokenKind) (rest : List Located) : Option Scanner := do
  let s ← s.saveKey?
  return { s.take kind rest with
    keys := none :: s.keys, flow := s.flow + 1, keyAllowed := true }

def flowEnd? (s : Scanner) (kind : TokenKind) (rest : List Located) : Option Scanner := do
  let s ← s.dropKey?
  let s := if s.inFlow then { s with keys := s.keys.drop 1, flow := s.flow - 1 } else s
  return { s.take kind rest with keyAllowed := false }

def flowEntry? (s : Scanner) (rest : List Located) : Option Scanner := do
  let s ← s.dropKey?
  return { s.take .flowEntry rest with keyAllowed := true }

/-- An entry or a key with an indicator, which may start a block collection. -/
def blockItem? (s : Scanner) (kind collection : TokenKind) (keyAllowed : Bool)
    (rest : List Located) : Option Scanner := do
  if !s.inFlow && !s.keyAllowed then none
  else
    let s := s.roll s.here.column s.tokens.length collection s.here
    let s ← s.dropKey?
    return { s.take kind rest with keyAllowed }

/-- The colon behind a key. -/
def value? (s : Scanner) (rest : List Located) : Option Scanner :=
  match s.keys with
  | some k :: keys =>
    let s := s.putIn k.number .key k.mark
    let s := s.roll k.mark.column k.number .blockMapping k.mark
    some { s.take .value rest with keys := none :: keys, keyAllowed := false }
  | _ =>
    if !s.inFlow && !s.keyAllowed then none
    else
      let s := s.roll s.here.column s.tokens.length .blockMapping s.here
      some { s.take .value rest with keyAllowed := !s.inFlow }

def literal? (s : Scanner) (folded : Bool) (rest : List Located) : Option Scanner := do
  let s ← s.dropKey?
  let (text, rest) ← blockScalar? folded s.indent rest
  return { s.take (.scalar (if folded then .folded else .literal) text) rest with
    keyAllowed := true }

/-- Characters that cannot start a plain scalar. -/
def isIndicator (c : Char) : Bool :=
  ['-', '?', ':', ',', '[', ']', '\x7b', '\x7d', '#', '&', '*', '!', '|', '>', '\'', '"', '%', '@',
    '`'].contains c

/-- Whether a plain scalar starts with a character: one that is neither a gap nor an indicator, or
a dash, question mark or colon that cannot be an indicator where it stands. -/
def startsPlain (flow : Bool) (c : Char) (rest : List Located) : Bool :=
  (!isGap c && !isIndicator c) ||
    (c == '-' && !(match rest with
      | l :: _ => isGap l.char
      | [] => false)) ||
    (!flow && (c == '?' || c == ':') && !atGap rest)

def plain? (s : Scanner) : Option Scanner := do
  let s ← s.saveKey?
  let least := match s.indent with
    | some n => n + 1
    | none => 0
  let (text, pending, rest) ← plainScalar? s.inFlow least [] .nothing s.rest
  return { s.take (.scalar .plain text) rest with keyAllowed := pending.hasBreak }

/-- Takes the token that starts with a character. -/
def token? (s : Scanner) (c : Char) (r : List Located) : Option Scanner :=
  let column := s.here.column
  let flow := s.inFlow
  if column = 0 ∧ c = '%' then do
    let (kind, rest) ← directive? r
    s.documentToken? kind rest
  else if atDocumentMarker '-' s.rest then s.documentToken? .documentStart (s.rest.drop 3)
  else if atDocumentMarker '.' s.rest then s.documentToken? .documentEnd (s.rest.drop 3)
  else if c = '[' then s.flowStart? .flowSequence r
  else if c = '\x7b' then s.flowStart? .flowMapping r
  else if c = ']' then s.flowEnd? .flowSequenceEnd r
  else if c = '\x7d' then s.flowEnd? .flowMappingEnd r
  else if c = ',' then s.flowEntry? r
  else if c = '-' ∧ atGap r then s.blockItem? .blockEntry .blockSequence true r
  else if c = '?' ∧ (flow || atGap r) then s.blockItem? .key .blockMapping (!flow) r
  else if c = ':' ∧ (flow || atGap r) then s.value? r
  else if c = '*' then do
    let (name, rest) ← anchorName? r
    s.takeAsKey? (.alias name) rest
  else if c = '&' then do
    let (name, rest) ← anchorName? r
    s.takeAsKey? (.anchor name) rest
  else if c = '!' then do
    let (tag, rest) ← rawTag? flow s.rest
    s.takeAsKey? (.tag tag) rest
  else if c = '|' ∧ !flow then s.literal? false r
  else if c = '>' ∧ !flow then s.literal? true r
  else if c = '\'' then do
    let (text, rest) ← singleQuoted? [] .nothing r
    s.takeAsKey? (.scalar .singleQuoted text) rest
  else if c = '"' then do
    let (text, rest) ← doubleQuoted? [] .nothing r
    s.takeAsKey? (.scalar .doubleQuoted text) rest
  else if startsPlain flow c r then s.plain?
  else none

/-- Takes the next token, with the end of block collections in front of it. -/
def next? (s : Scanner) : Option Scanner := do
  let (keyAllowed, rest) := skipBlank s.inFlow s.keyAllowed false s.rest
  let s ← { s with keyAllowed, rest }.dropStale?
  match rest with
  | [] => (s.unrollTo (some s.here.column)).streamEnd?
  | l :: r => (s.unrollTo (some s.here.column)).token? l.char r

/-- Whether the last token ends the source. -/
def isDone (s : Scanner) : Bool :=
  match s.tokens with
  | t :: _ => t.kind == .streamEnd
  | [] => false

/-- Takes all tokens, of which there are at most as many steps as characters, and one. -/
def run? : Nat → Scanner → Option Scanner
  | 0, s => if s.isDone then some s else none
  | fuel + 1, s => if s.isDone then some s else s.next?.bind (run? fuel)

end Scanner

/-- The tokens of a text; none if it is malformed. -/
def tokens? (cs : List Char) : Option (List Token) :=
  if cs.all isAllowed then
    (Scanner.run? (cs.length + 1) (.start cs)).map fun s => s.tokens.reverse
  else none

end CaseSheet.Yaml

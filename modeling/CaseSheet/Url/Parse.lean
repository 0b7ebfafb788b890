import CaseSheet.Url.Basic
import CaseSheet.Text.Blank
import CaseSheet.Text.Search
/-!
# Reading URLs

`parse` reads a text as a URL of its own, `join` as a reference against a base. Tabs and line breaks
anywhere in the text and blanks around it are ignored. Dot segments are resolved while a path is
read.
-/

namespace CaseSheet.Url

/-- A slash, or in a special scheme a backslash. -/
def isSlash (special : Bool) (c : Char) : Bool := c == '/' || (special && c == '\\')

/-- The end of a path: a query or a fragment follows. -/
def isPathEnd (c : Char) : Bool := c == '?' || c == '#'

/-- The text without what a URL ignores. -/
def clean (cs : List Char) : List Char :=
  let isEdge := fun c : Char => c.toNat ≤ 0x20
  (Text.dropEndWhile isEdge (cs.dropWhile isEdge)).filter
    fun c => !(c == '\t' || c == '\n' || c == '\r')

/-! ## Paths -/

/-- Cuts a path at its slashes. -/
def splitPath (special : Bool) : List Char → List (List Char)
  | [] => [[]]
  | c :: r =>
    if isSlash special c then [] :: splitPath special r
    else match splitPath special r with
      | [] => [[c]]
      | s :: ss => (c :: s) :: ss

/-- A segment that stands for the segment it is in; the dot may be percent-encoded. -/
def isSingleDot (s : List Char) : Bool :=
  s.map Text.foldAscii == ".".toList || s.map Text.foldAscii == "%2e".toList

/-- A segment that stands for the one above; each dot may be percent-encoded. -/
def isDoubleDot (s : List Char) : Bool :=
  ["..".toList, ".%2e".toList, "%2e.".toList, "%2e%2e".toList].contains (s.map Text.foldAscii)

def isAsciiLetter (c : Char) : Bool := ('a' ≤ c && c ≤ 'z') || ('A' ≤ c && c ≤ 'Z')

/-- A drive letter, as first segment of a file path. -/
def isDrive : List Char → Bool
  | [a, b] => isAsciiLetter a && (b == ':' || b == '|')
  | _ => false

/-- A drive letter in its normal form. -/
def isNormalDrive : List Char → Bool
  | [a, ':'] => isAsciiLetter a
  | _ => false

/-- The path one level up; the drive of a file path stays. -/
def shorten (kind : SchemeKind) (path : List (List Char)) : List (List Char) :=
  match path with
  | [drive] => if kind = .file && isNormalDrive drive then path else []
  | path => path.dropLast

/-- A drive letter that starts a file path, in its normal form. -/
def normalDrive (kind : SchemeKind) (path : List (List Char)) (s : List Char) : List Char :=
  match kind, path, s with
  | .file, [], [a, '|'] => if isAsciiLetter a then [a, ':'] else s
  | _, _, _ => s

/-- Adds raw segments to a path, resolving those made of dots. A dot segment at the end leaves an
empty segment behind. -/
def addSegments (kind : SchemeKind) : List (List Char) → List (List Char) → List (List Char)
  | path, [] => path
  | path, raw :: rest =>
    let s := encode pathSet raw
    let atEnd := if rest.isEmpty then [[]] else []
    if isDoubleDot s then addSegments kind (shorten kind path ++ atEnd) rest
    else if isSingleDot s then addSegments kind (path ++ atEnd) rest
    else addSegments kind (path ++ [normalDrive kind path s]) rest

/-- Reads a path below the segments of another; the text starts behind the slash. -/
def pathUnder (kind : SchemeKind) (above : List (List Char)) (cs : List Char) : Path :=
  let path := addSegments kind above (splitPath kind.isSpecial cs)
  if kind = .file then
    -- no empty segment leads a file path, but there is always one segment
    let path := path.dropWhile List.isEmpty
    .segments (if path.isEmpty then [[]] else path)
  else .segments path

/-- Reads the path behind an authority: empty only where the scheme is not special. -/
def pathBehindAuthority (kind : SchemeKind) : List Char → Path
  | [] => if kind.isSpecial then pathUnder kind [] [] else .segments []
  | c :: r => pathUnder kind [] (if isSlash kind.isSpecial c then r else c :: r)

/-! ## Query and fragment -/

/-- A text cut into what stands before the query, the query and the fragment. -/
structure Cut where
  front : List Char
  query : Option (List Char)
  fragment : Option (List Char)

/-- Cuts a text at its first question mark and at its first number sign. -/
def cut (cs : List Char) : Cut :=
  let (front, r) := cs.span fun c => !isPathEnd c
  match r with
  | '#' :: f => ⟨front, none, some f⟩
  | '?' :: r =>
    match r.span (· != '#') with
    | (q, _ :: f) => ⟨front, some q, some f⟩
    | (q, []) => ⟨front, some q, none⟩
  | _ => ⟨front, none, none⟩

/-- The query in the form in which it is written. -/
def encodeQuery (kind : SchemeKind) (q : List Char) : List Char :=
  encode (if kind.isSpecial then specialQuerySet else querySet) q

/-- A URL whose query and fragment are those of a cut text. -/
def withTail (c : Cut) (scheme : List Char) (authority : Option Authority) (path : Path) : Url :=
  { scheme, authority, path
    query := c.query.map (encodeQuery (kindOf scheme))
    fragment := c.fragment.map (encode fragmentSet) }

/-! ## Authorities -/

/-- Reads a port, and returns what stands behind it. -/
def parsePort (scheme cs : List Char) : Except ParseError (Option Nat × List Char) :=
  let ds := cs.takeWhile Digits.isDigit
  let r := cs.dropWhile Digits.isDigit
  let n := Digits.toNat ds
  if 65535 < n then .error .invalidPort
  else if !r.isEmpty && r.head? != some '\\' then .error .invalidPort
  else .ok (if ds.isEmpty || defaultPort? scheme = some n then none else some n, r)

/-- Cuts a text at the first colon that does not stand between brackets. -/
def splitHost : Bool → List Char → List Char × Option (List Char)
  | _, [] => ([], none)
  | inside, c :: r =>
    if c = ':' ∧ inside = false then ([], some r)
    else
      let inside := if c = '[' then true else if c = ']' then false else inside
      let (h, p) := splitHost inside r
      (c :: h, p)

/-- The user name and the password before the last at sign. -/
def parseCredentials (cs : List Char) : List Char × List Char :=
  match cs.span (· != ':') with
  | (u, _ :: p) => (encode userinfoSet u, encode userinfoSet p)
  | (u, []) => (encode userinfoSet u, [])

/-- Cuts a text at its last at sign. -/
def splitCredentials (cs : List Char) : Option (List Char) × List Char :=
  match cs.reverse.span (· != '@') with
  | (_, []) => (none, cs)
  | (h, _ :: u) => (some u.reverse, h.reverse)

variable [Idna]

/-- Reads an authority, and returns what stands behind it. -/
def parseAuthority (scheme cs : List Char) : Except ParseError (Authority × List Char) := do
  let special := (kindOf scheme).isSpecial
  let (chunk, rest) := cs.span fun c => !(isSlash special c || isPathEnd c)
  let (userinfo, hostAndPort) := splitCredentials chunk
  if userinfo = some [] ∧ hostAndPort.isEmpty ∧ !rest.isEmpty then throw .emptyHost
  let (username, password) := parseCredentials (userinfo.getD [])
  let (hostText, portText) := splitHost false hostAndPort
  if special ∧ hostText.isEmpty then throw .emptyHost
  let host ← if special then Host.parse hostText else Host.parsePlain hostText
  if host.isEmpty ∧ portText.isSome then throw .emptyHost
  let (port, behind) ← match portText with
    | none => pure (none, [])
    | some p => parsePort scheme p
  if host.isEmpty ∧ !(username.isEmpty && password.isEmpty) then throw .emptyHost
  return ({ username, password, host, port }, behind ++ rest)

/-- Reads the part of a URL behind `//`. -/
def parseBehindSlashes (scheme cs : List Char) : Except ParseError Url := do
  let (authority, r) ← parseAuthority scheme cs
  let c := cut r
  return withTail c scheme (some authority) (pathBehindAuthority (kindOf scheme) c.front)

/-! ## File URLs -/

/-- Whether a text starts with a drive letter that makes a whole segment. -/
def startsWithDrive : List Char → Bool
  | a :: b :: r =>
    isDrive [a, b] && (match r with
      | [] => true
      | c :: _ => isSlash true c || isPathEnd c)
  | _ => false

def fileScheme : List Char := "file".toList

/-- The authority of a file URL, which has a host at most. -/
def fileAuthority (host : Host) : Option Authority :=
  some { username := [], password := [], host, port := none }

def noHost : Host := .domain []

/-- Reads a file URL with a host; the text starts behind the slashes. -/
def parseFileHost (cs : List Char) : Except ParseError Url := do
  let (chunk, rest) := cs.span fun c => !(isSlash true c || isPathEnd c)
  let (chunk, rest) := if isDrive chunk then ([], cs) else (chunk, rest)
  let host ← if chunk.isEmpty then pure noHost else Host.parse chunk
  let host := if host = .domain "localhost".toList then noHost else host
  let c := cut rest
  let path :=
    if host.isEmpty then pathUnder .file [] c.front else pathBehindAuthority .file c.front
  let host := match path with
    | .segments (first :: _) => if isNormalDrive first then noHost else host
    | _ => host
  return withTail c fileScheme (fileAuthority host) path

/-- Reads a file URL; the text starts behind the scheme. -/
def parseFile (base? : Option Url) (cs : List Char) : Except ParseError Url :=
  let alone := fun cs =>
    let c := cut cs
    withTail c fileScheme (fileAuthority noHost) (pathUnder .file [] c.front)
  match cs with
  | a :: r =>
    if isSlash true a then
      match r with
      | b :: r' =>
        if isSlash true b then parseFileHost r'
        else .ok (below base? r)
      | [] => .ok (below base? r)
    else match base? with
      | none => .ok (alone cs)
      | some base =>
        if a = '?' then
          let c := cut cs
          .ok { withTail c fileScheme base.authority base.path with scheme := base.scheme }
        else if a = '#' then .ok { base with fragment := some (encode fragmentSet r) }
        else if startsWithDrive cs then .ok (alone cs)
        else
          let c := cut cs
          let above := match base.path with
            | .segments list => shorten .file list
            | .plain _ => []
          .ok (withTail c fileScheme base.authority (pathUnder .file above c.front))
  | [] =>
    match base? with
    | none => .ok (alone [])
    | some base => .ok { base with fragment := none }
where
  /-- A path from the root: host and drive are those of the base. -/
  below (base? : Option Url) (cs : List Char) : Url :=
    let c := cut cs
    match base? with
    | some { authority, path := .segments (first :: _), .. } =>
      if startsWithDrive cs then
        withTail c fileScheme (fileAuthority noHost) (pathUnder .file [] c.front)
      else if isNormalDrive first then
        withTail c fileScheme (fileAuthority noHost) (pathUnder .file [first] c.front)
      else withTail c fileScheme authority (pathUnder .file [] c.front)
    | _ => withTail c fileScheme (fileAuthority noHost) (pathUnder .file [] c.front)

/-! ## References -/

/-- The scheme at the start of a text, in small letters, and what stands behind the colon. -/
def scheme? (cs : List Char) : Option (List Char × List Char) :=
  let isSchemeChar := fun c : Char =>
    isAsciiLetter c || Digits.isDigit c || c == '+' || c == '-' || c == '.'
  match cs with
  | c :: _ =>
    if isAsciiLetter c then
      match cs.span isSchemeChar with
      | (s, ':' :: r) => some (s.map Text.foldAscii, r)
      | _ => none
    else none
  | [] => none

/-- Reads a reference without a scheme against a base that is not a file URL. -/
def parseRelative (base : Url) (cs : List Char) : Except ParseError Url :=
  let kind := kindOf base.scheme
  match cs with
  | [] => .ok { base with fragment := none }
  | c :: r =>
    if c = '?' then .ok (withTail (cut cs) base.scheme base.authority base.path)
    else if c = '#' then .ok { base with fragment := some (encode fragmentSet r) }
    else if c = '/' ∨ c = '\\' then
      let slashes := cs.takeWhile (isSlash true)
      if 2 ≤ slashes.length then
        parseBehindSlashes base.scheme
          ((Text.stripStart? ['/', '/'] cs).getD (cs.dropWhile (isSlash true)))
      else
        let t := cut r
        .ok (withTail t base.scheme base.authority (pathUnder kind [] t.front))
    else
      let t := cut cs
      let above := match base.path with
        | .segments list => list.dropLast
        | .plain _ => []
      .ok (withTail t base.scheme base.authority (pathUnder kind above t.front))

/-- Reads what stands behind a scheme. -/
def parseBehindScheme (base? : Option Url) (scheme cs : List Char) : Except ParseError Url :=
  match kindOf scheme with
  | .file => parseFile (base?.filter (·.scheme == scheme)) cs
  | .special =>
    let slashes := cs.takeWhile (isSlash true)
    match base? with
    | some base =>
      if slashes.length < 2 ∧ base.scheme = scheme then parseRelative base cs
      else parseBehindSlashes scheme (cs.dropWhile (isSlash true))
    | none => parseBehindSlashes scheme (cs.dropWhile (isSlash true))
  | .other =>
    match Text.stripStart? ['/', '/'] cs with
    | some r => parseBehindSlashes scheme r
    | none =>
      let c := cut cs
      .ok (withTail c scheme none (match c.front with
        | '/' :: r => pathUnder .other [] r
        | plain => .plain (encode controlSet plain)))

/-- Reads a text as a URL, against a base if there is one. -/
def read (base? : Option Url) (text : List Char) : Except ParseError Url :=
  let cs := clean text
  match scheme? cs with
  | some (scheme, r) => parseBehindScheme base? scheme r
  | none =>
    match base? with
    | none => .error .relativeWithoutBase
    | some base =>
      match cs with
      | '#' :: r => .ok { base with fragment := some (encode fragmentSet r) }
      | cs =>
        match base.path with
        | .plain _ => .error .relativeToPlainPath
        | .segments _ =>
          if kindOf base.scheme = .file then parseFile (some base) cs else parseRelative base cs

/-- Reads a text as a URL of its own. -/
def parse (text : List Char) : Except ParseError Url := read none text

/-- Reads a text as a reference against a base. -/
def join (base : Url) (text : List Char) : Except ParseError Url := read (some base) text

/-- The URL with a slash at the end of its path. -/
def withFinalSlash (u : Url) : Url :=
  if Text.endsWith ['/'] u.path.write then u
  else match u.path with
    | .segments list => { u with path := .segments (list ++ [[]]) }
    | .plain text =>
      { u with path := .plain (if text.isEmpty then "%2F".toList else text ++ ['/']) }

end CaseSheet.Url

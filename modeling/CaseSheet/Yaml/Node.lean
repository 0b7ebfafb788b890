import CaseSheet.Yaml.Token
/-!
# Nodes

The tokens of a source make up a tree of nodes, each with the place at which it starts. A value
that is left out is an empty plain scalar. Reading is by descent: every function takes a bound on
its steps, which `documentOf?` sets so high that it is never reached.
-/

namespace CaseSheet.Yaml

/-- What a node may carry in front of its content. -/
structure Properties (ι : Type) where
  anchor : Option ι
  tag : Option (List Char)
deriving DecidableEq, Repr

def Properties.none {ι : Type} : Properties ι := { anchor := .none, tag := .none }

/-- A node of a document, in which `ι` identifies anchors: by name as they are read. -/
inductive Node (ι : Type) where
  | scalar (mark : Mark) (properties : Properties ι) (style : Style) (text : List Char)
  | sequence (mark : Mark) (properties : Properties ι) (items : List (Node ι))
  | mapping (mark : Mark) (properties : Properties ι) (entries : List (Node ι × Node ι))
  | alias (mark : Mark) (name : ι)
deriving Repr, Inhabited

/-- A node whose anchors have names. -/
abbrev NamedNode : Type := Node (List Char)

namespace Node

/-- The place at which a node starts. -/
def mark {ι : Type} : Node ι → Mark
  | .scalar m _ _ _ => m
  | .sequence m _ _ => m
  | .mapping m _ _ => m
  | .alias m _ => m

/-- A value that is left out. -/
def omitted {ι : Type} (m : Mark) : Node ι := .scalar m .none .plain []

end Node

/-- What tag handles stand for. -/
abbrev TagHandles : Type := List (List Char × List Char)

/-- The handles that are known without a directive. -/
def TagHandles.default : TagHandles :=
  [("!".toList, "!".toList), ("!!".toList, "tag:yaml.org,2002:".toList)]

/-- A tag in full; none if its handle is not known. -/
def TagHandles.expand? (handles : TagHandles) (t : RawTag) : Option (List Char) :=
  if t.handle.isEmpty then some t.suffix
  else (handles.lookup t.handle).map (· ++ t.suffix)

namespace Node

/-- The kind of the first token; behind the last one it is as if the source went on ending. -/
def kindOf : List Token → TokenKind
  | [] => .streamEnd
  | t :: _ => t.kind

/-- The place of the first token. -/
def placeOf : List Token → Mark
  | [] => .start
  | t :: _ => t.start

/-- A node from a scalar token: a plain scalar without tag, or one with the tag `!`, has none. -/
def ofScalar {ι : Type} (m : Mark) (p : Properties ι) (style : Style) (text : List Char) : Node ι :=
  .scalar m { p with tag := if p.tag = some ['!'] then none else p.tag } style text

/-- The anchor and the tag at the start of tokens, in either order. -/
def properties? (handles : TagHandles) : List Token → Option (Properties (List Char) × List Token)
  | ⟨.anchor a, _, _⟩ :: ⟨.tag t, _, _⟩ :: ts =>
    (handles.expand? t).map fun tag => (⟨some a, some tag⟩, ts)
  | ⟨.tag t, _, _⟩ :: ⟨.anchor a, _, _⟩ :: ts =>
    (handles.expand? t).map fun tag => (⟨some a, some tag⟩, ts)
  | ⟨.anchor a, _, _⟩ :: ts => some (⟨some a, none⟩, ts)
  | ⟨.tag t, _, _⟩ :: ts => (handles.expand? t).map fun tag => (⟨none, some tag⟩, ts)
  | ts => some (.none, ts)

/-- Whether a block entry is left out in front of a token. -/
def endsEntry (indentless : Bool) : TokenKind → Bool
  | .blockEntry | .blockEnd => true
  | .key | .value => indentless
  | _ => false

/-- Whether a key or value in block style is left out in front of a token. -/
def endsPart : TokenKind → Bool
  | .key | .value | .blockEnd => true
  | _ => false

/-- Whether a key in a flow mapping is left out in front of a token. -/
def endsFlowKey : TokenKind → Bool
  | .value | .flowEntry | .flowMappingEnd => true
  | _ => false

/-- Whether a value in a flow mapping is left out in front of a token. -/
def endsFlowValue : TokenKind → Bool
  | .flowEntry | .flowMappingEnd => true
  | _ => false

mutual

/-- A node. Collections in block style are only read where `block` allows them; a sequence that is
the value of a key need not be indented. -/
def read? : Nat → TagHandles → (block indentless : Bool) → List Token →
    Option (NamedNode × List Token)
  | 0, _, _, _, _ => none
  | fuel + 1, handles, block, indentless, ts =>
    let start := placeOf ts
    match ts with
    | ⟨.alias name, m, _⟩ :: r => some (.alias m name, r)
    | ts => do
      let (p, ts) ← properties? handles ts
      if indentless && kindOf ts == .blockEntry then
        let (items, r) ← entries? fuel handles true ts
        return (.sequence start p items, r)
      else match ts with
        | ⟨.scalar style text, _, _⟩ :: r => return (ofScalar start p style text, r)
        | ⟨.flowSequence, _, _⟩ :: r => do
          let (items, r) ← flowItems? fuel handles true r
          return (.sequence start p items, r)
        | ⟨.flowMapping, _, _⟩ :: r => do
          let (entries, r) ← flowPairs? fuel handles true r
          return (.mapping start p entries, r)
        | t :: r =>
          if block && t.kind == .blockSequence then do
            let (items, r) ← entries? fuel handles false r
            return (.sequence start p items, r)
          else if block && t.kind == .blockMapping then do
            let (entries, r) ← pairs? fuel handles r
            return (.mapping start p entries, r)
          else if p = .none then none
          else return (.scalar start p .plain [], t :: r)
        | [] => none

/-- The items of a sequence in block style. -/
def entries? : Nat → TagHandles → (indentless : Bool) → List Token →
    Option (List NamedNode × List Token)
  | 0, _, _, _ => none
  | fuel + 1, handles, indentless, ts =>
    match ts with
    | ⟨.blockEntry, _, stop⟩ :: r => do
      if endsEntry indentless (kindOf r) then
        let (items, r) ← entries? fuel handles indentless r
        return (omitted stop :: items, r)
      else
        let (item, r) ← read? fuel handles true false r
        let (items, r) ← entries? fuel handles indentless r
        return (item :: items, r)
    | t :: r =>
      if indentless then some ([], t :: r)
      else if t.kind = .blockEnd then some ([], r)
      else none
    | [] => none

/-- The entries of a mapping in block style. -/
def pairs? : Nat → TagHandles → List Token → Option (List (NamedNode × NamedNode) × List Token)
  | 0, _, _ => none
  | fuel + 1, handles, ts =>
    match ts with
    | ⟨.key, _, stop⟩ :: r => do
      let (k, r) ← if endsPart (kindOf r) then some (omitted stop, r)
        else read? fuel handles true true r
      let (v, r) ← blockValue? fuel handles r
      let (entries, r) ← pairs? fuel handles r
      return ((k, v) :: entries, r)
    | ⟨.blockEnd, _, _⟩ :: r => some ([], r)
    | _ => none

/-- The value of a mapping entry in block style. -/
def blockValue? : Nat → TagHandles → List Token → Option (NamedNode × List Token)
  | 0, _, _ => none
  | fuel + 1, handles, ts =>
    match ts with
    | ⟨.value, _, stop⟩ :: r =>
      if endsPart (kindOf r) then some (omitted stop, r) else read? fuel handles true true r
    | ts => some (omitted (placeOf ts), ts)

/-- The items of a sequence in flow style; `first` says that none has been read. -/
def flowItems? : Nat → TagHandles → (first : Bool) → List Token →
    Option (List NamedNode × List Token)
  | 0, _, _, _ => none
  | fuel + 1, handles, first, ts =>
    match ts with
    | ⟨.flowSequenceEnd, _, _⟩ :: r => some ([], r)
    | ts => do
      let ts ← if first then some ts
        else match ts with
          | ⟨.flowEntry, _, _⟩ :: r => some r
          | _ => none
      match ts with
      | ⟨.key, m, _⟩ :: r => do
        let (entry, r) ← flowPair? fuel handles r
        let (items, r) ← flowItems? fuel handles false r
        return (.mapping m .none [entry] :: items, r)
      | ⟨.flowSequenceEnd, _, _⟩ :: r => return ([], r)
      | ts => do
        let (item, r) ← read? fuel handles false false ts
        let (items, r) ← flowItems? fuel handles false r
        return (item :: items, r)

/-- A mapping entry that stands in a flow sequence by itself. Where its key is left out, the token
in its place is passed over. -/
def flowPair? : Nat → TagHandles → List Token → Option ((NamedNode × NamedNode) × List Token)
  | 0, _, _ => none
  | fuel + 1, handles, ts => do
    let (k, r) ← match ts with
      | ⟨.value, _, stop⟩ :: r => some (omitted stop, r)
      | ⟨.flowEntry, _, stop⟩ :: r => some (omitted stop, r)
      | ⟨.flowSequenceEnd, _, stop⟩ :: r => some (omitted stop, r)
      | ts => read? fuel handles false false ts
    match r with
    | ⟨.value, _, _⟩ :: r => do
      if kindOf r == .flowEntry || kindOf r == .flowSequenceEnd then
        return ((k, omitted (placeOf r)), r)
      else
        let (v, r) ← read? fuel handles false false r
        return ((k, v), r)
    | r => return ((k, omitted (placeOf r)), r)

/-- The entries of a mapping in flow style; `first` says that none has been read. -/
def flowPairs? : Nat → TagHandles → (first : Bool) → List Token →
    Option (List (NamedNode × NamedNode) × List Token)
  | 0, _, _, _ => none
  | fuel + 1, handles, first, ts =>
    match ts with
    | ⟨.flowMappingEnd, _, _⟩ :: r => some ([], r)
    | ts => do
      let ts ← if first then some ts
        else match ts with
          | ⟨.flowEntry, _, _⟩ :: r => some r
          | _ => none
      match ts with
      | ⟨.key, _, _⟩ :: r => do
        let (k, r) ← if endsFlowKey (kindOf r) then some (omitted (placeOf r), r)
          else read? fuel handles false false r
        let (v, r) ← flowValue? fuel handles r
        let (entries, r) ← flowPairs? fuel handles false r
        return ((k, v) :: entries, r)
      | ⟨.flowMappingEnd, _, _⟩ :: r => return ([], r)
      | ts => do
        let (k, r) ← read? fuel handles false false ts
        let (entries, r) ← flowPairs? fuel handles false r
        return ((k, omitted (placeOf r)) :: entries, r)

/-- The value of a mapping entry in flow style. -/
def flowValue? : Nat → TagHandles → List Token → Option (NamedNode × List Token)
  | 0, _, _ => none
  | fuel + 1, handles, ts =>
    match ts with
    | ⟨.value, _, _⟩ :: r =>
      if endsFlowValue (kindOf r) then some (omitted (placeOf r), r)
      else read? fuel handles false false r
    | ts => some (omitted (placeOf ts), ts)

end

/-- Adds a tag handle of a directive; each handle is given once. -/
def directives? : (version : Bool) → TagHandles → List Token → Option (TagHandles × List Token)
  | version, handles, ⟨.version major minor, _, _⟩ :: ts =>
    if !version && major == 1 && (minor == 1 || minor == 2) then directives? true handles ts
    else none
  | version, handles, ⟨.tagHandle handle front, _, _⟩ :: ts =>
    if (handles.lookup handle).isSome then none
    else directives? version (handles ++ [(handle, front)]) ts
  | _, handles, ts => some (handles, ts)

/-- Whether the content of a document is left out in front of a token. -/
def endsDocument : TokenKind → Bool
  | .version _ _ | .tagHandle _ _ | .documentStart | .documentEnd | .streamEnd => true
  | _ => false

/-- The bound on the steps of reading. -/
def fuelFor (ts : List Token) : Nat := 3 * ts.length + 3

/-- Whether tokens hold no further document. -/
def isOver : List Token → Bool
  | [] => true
  | ⟨.documentEnd, _, _⟩ :: ts => isOver ts
  | t :: _ => t.kind == .streamEnd

/-- The document of a whole source: its node, or the place at which a source without any ends.
There must not be a second one. -/
def documentOf? (ts : List Token) : Option (Except Mark NamedNode) :=
  let fuel := fuelFor ts
  match kindOf ts with
  | .streamEnd => some (.error (placeOf ts))
  | .version _ _ | .tagHandle _ _ | .documentStart => do
    let (own, ts) ← directives? false [] ts
    match ts with
    | ⟨.documentStart, _, _⟩ :: ts =>
      if endsDocument (kindOf ts) then
        if isOver ts then some (.ok (omitted (placeOf ts))) else none
      else
        let (n, r) ← read? fuel (own ++ .default) true false ts
        if isOver r then some (.ok n) else none
    | _ => none
  | _ => do
    let (n, r) ← read? fuel .default true false ts
    if isOver r then some (.ok n) else none

end Node

/-- The document of a text; none if the text is malformed. -/
def document? (cs : List Char) : Option (Except Mark NamedNode) :=
  (tokens? cs).bind Node.documentOf?

end CaseSheet.Yaml

import CaseSheet.Yaml.Anchor
import CaseSheet.Yaml.Meaning
/-!
# YAML values

A document as a value, with aliases replaced by what they stand for. The keys of a mapping differ
from each other; collections nest at most `maxDepth` deep, and aliases may be followed only so often
that a small document cannot stand for a huge value.
-/

namespace CaseSheet.Yaml

/-- A value; mappings list their entries in the order of the source. -/
inductive Value where
  | null
  | bool (b : Bool)
  /-- A whole number that fits a signed or an unsigned 64-bit word. -/
  | int (n : Int)
  | float (x : Double)
  | text (s : String)
  | sequence (items : List Value)
  | mapping (entries : List (Value × Value))
  /-- A value with a tag of its own. -/
  | tagged (tag : String) (value : Value)
deriving Repr, Inhabited

namespace Value

/-- Equality of floating-point numbers as keys: the zeros are equal, and so are all that are no
numbers. -/
def sameDouble (x y : Double) : Bool :=
  x == y || (x.isZero && y.isZero) || (x.isNaN && y.isNaN)

mutual

/-- Equality of values. The order of the entries of a mapping does not matter. -/
def same : Value → Value → Bool
  | .null, .null => true
  | .bool a, .bool b => a == b
  | .int a, .int b => a == b
  | .float a, .float b => sameDouble a b
  | .text a, .text b => a == b
  | .sequence a, .sequence b => sameItems a b
  | .mapping a, .mapping b => a.length == b.length && allIn a b
  | .tagged s a, .tagged t b => s == t && same a b
  | _, _ => false

/-- Equality of lists of values. -/
def sameItems : List Value → List Value → Bool
  | [], [] => true
  | a :: as, b :: bs => same a b && sameItems as bs
  | _, _ => false

/-- Whether all entries of the first list are in the second. -/
def allIn : List (Value × Value) → List (Value × Value) → Bool
  | [], _ => true
  | (k, v) :: es, others => (others.any fun e => same k e.1 && same v e.2) && allIn es others

end

/-- A value without its tags. -/
def untagged : Value → Value
  | .tagged _ v => untagged v
  | v => v

/-- Whether a key is among those of entries. -/
def hasKey (entries : List (Value × Value)) (k : Value) : Bool := entries.any fun e => e.1.same k

/-- Sets the value of a key, which comes last if it is new. -/
def put (k v : Value) : List (Value × Value) → List (Value × Value)
  | [] => [(k, v)]
  | e :: es => if e.1.same k then (e.1, v) :: es else e :: put k v es

end Value

/-! ## From documents -/

/-- The tag of an author's own, without its exclamation mark. -/
def ownTag? (tag : Option (List Char)) : Option String :=
  match tag with
  | some ['!'] => some "!"
  | some ('!' :: t) => some (String.ofList t)
  | _ => none

/-- The value of a scalar whose own tag has been dealt with. -/
def scalarValue? (tag : Option (List Char)) (style : Style) (text : List Char) : Option Value :=
  match Meaning.ofScalar? tag style text with
  | some .null => some .null
  | some (.bool b) => some (.bool b)
  | some (.int n) => some (.int n)
  | some (.wideInt _) => none
  | some (.float x) => some (.float x)
  | some .text => some (.text (String.ofList text))
  | none => none

/-- How deep collections nest at most. -/
def maxDepth : Nat := 128

/-- How many aliases are followed at most, for each part of the document. -/
def aliasAllowance : Nat := 100

/-- A computation that counts the aliases followed, and may fail. -/
abbrev Counting : Type → Type := StateT Nat Option

namespace Document

def allowance (d : Document) : Nat := aliasAllowance * d.root.weight

/-- What a node stands for, counted if it is an alias. -/
def followed (d : Document) (n : LinkedNode) : Counting LinkedNode :=
  match n with
  | .alias m i => fun used =>
    if used < d.allowance then some (d.follow (.alias m i), used + 1) else none
  | n => pure n

/-- The value with an own tag, if there is one. -/
def withTag (tag : Option (List Char)) (v : Value) : Value :=
  match ownTag? tag with
  | some t => .tagged t v
  | none => v

/-- The value of a scalar. -/
def ofScalar (p : Properties Nat) (style : Style) (text : List Char) : Counting Value :=
  match scalarValue? (if (ownTag? p.tag).isSome then none else p.tag) style text with
  | some v => pure (withTag p.tag v)
  | none => failure

/-- Adds an entry behind others, unless its key is among theirs. -/
def addEntry (es : List (Value × Value)) (k v : Value) : Counting (List (Value × Value)) :=
  if Value.hasKey es k then failure else pure (es ++ [(k, v)])

/-- Adds the entry of two nodes, whose values `inner` tells. -/
def takeEntry (inner : LinkedNode → Counting Value) (es : List (Value × Value))
    (e : LinkedNode × LinkedNode) : Counting (List (Value × Value)) := do
  let k ← inner e.1
  let v ← inner e.2
  addEntry es k v

/-- The value of a node below which collections nest at most `depth` deep. -/
def valueOf (d : Document) : (depth : Nat) → LinkedNode → Counting Value
  | 0, n => do
    match ← d.followed n with
    | .scalar _ p style text => ofScalar p style text
    | _ => failure
  | depth + 1, n => do
    match ← d.followed n with
    | .scalar _ p style text => ofScalar p style text
    | .sequence _ p items => do
      let vs ← items.mapM (valueOf d depth)
      return withTag p.tag (.sequence vs)
    | .mapping _ p entries => do
      let es ← entries.foldlM (takeEntry (valueOf d depth)) []
      return withTag p.tag (.mapping es)
    | .alias _ _ => failure

/-- The value of a document, if it has one. -/
def value? (d : Document) : Option Value := ((d.valueOf maxDepth d.root).run 0).map (·.1)

end Document
end CaseSheet.Yaml

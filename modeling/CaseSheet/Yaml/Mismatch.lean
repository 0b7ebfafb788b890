import CaseSheet.Number.Shortest
import CaseSheet.Text.Quoted
import CaseSheet.Yaml.Value
/-!
# Mismatches

What may be wrong with a document that is well formed: a value of another kind than wanted, a value
out of range, a field that is missing, and a field that is given twice.
-/

namespace CaseSheet.Yaml

/-- What stood where something else was wanted. -/
inductive Found where
  | null
  | bool (b : Bool)
  | int (n : Int)
  | float (x : Double)
  | text (s : String)
  | sequence
  | mapping
deriving DecidableEq, Repr

namespace Found

/-- Floating-point numbers are shown without an exponent. -/
def floatLayout : DecimalLayout := { lowest := -400, highest := 400, mark := 'e' }

/-- The text of a floating-point number. -/
def writeFloat (x : Double) : List Char :=
  if x.isNaN then "NaN".toList
  else
    let sign := if x.isNegative then ['-'] else []
    if x.isZero then sign ++ ['0', '.', '0']
    else if x.isFinite then sign ++ floatLayout.write (Shortest.decimal x)
    else sign ++ "inf".toList

/-- What was found, in words. -/
def describe : Found → String
  | .null => "unit value"
  | .bool true => "boolean `true`"
  | .bool false => "boolean `false`"
  | .int n => "integer `" ++ String.ofList (Digits.signed n) ++ "`"
  | .float x => "floating point `" ++ String.ofList (writeFloat x) ++ "`"
  | .text s => "string " ++ quoted s
  | .sequence => "sequence"
  | .mapping => "map"

/-- What a value is found to be; an own tag does not count. -/
def ofValue : Value → Found
  | .null => .null
  | .bool b => .bool b
  | .int n => .int n
  | .float x => .float x
  | .text s => .text s
  | .sequence _ => .sequence
  | .mapping _ => .mapping
  | .tagged _ v => ofValue v

/-- What a node is found to be, whatever its own tag; a scalar that has no value counts as text. -/
def ofNode : LinkedNode → Found
  | .sequence _ _ _ => .sequence
  | .mapping _ _ _ => .mapping
  | .scalar _ p style cs => ((scalarValue? p.tag style cs).map ofValue).getD
      (.text (String.ofList cs))
  | .alias _ _ => .null

end Found

/-- What is wrong with a value. -/
inductive Mismatch where
  | wrongKind (found : Found) (wanted : String)
  | outOfRange (found : Found) (wanted : String)
  | missing (field : String)
  | duplicate (field : String)
deriving DecidableEq, Repr

/-- The wording of a mismatch. -/
def Mismatch.message : Mismatch → String
  | .wrongKind found wanted => "invalid type: " ++ found.describe ++ ", expected " ++ wanted
  | .outOfRange found wanted => "invalid value: " ++ found.describe ++ ", expected " ++ wanted
  | .missing field => "missing field `" ++ field ++ "`"
  | .duplicate field => "duplicate field `" ++ field ++ "`"

/-! ## Where a document is at fault -/

/-- A step from a node to one inside it. -/
inductive NodeStep where
  | item (index : Nat)
  | key (name : String)
  /-- The value of a key that is no scalar. -/
  | unnamed
deriving DecidableEq, Repr

namespace NodeStep

/-- The text of a path behind one more step; the empty text is the path of the root. -/
def extend (path : String) : NodeStep → String
  | .item i => path ++ "[" ++ Digits.text i ++ "]"
  | .key name => if path.isEmpty then name else path ++ "." ++ name
  | .unnamed => if path.isEmpty then "?" else path ++ ".?"

/-- The text of a path from the root. -/
def pathText (steps : List NodeStep) : String := steps.foldl extend ""

end NodeStep

/-- A mismatch with the path to the value and the place where it starts. -/
structure Fault where
  cause : Mismatch
  path : List NodeStep
  mark : Mark
deriving DecidableEq, Repr

/-- The wording of a fault: the root has no path, and the very start of a source no place. -/
def Fault.message (f : Fault) : String :=
  let path := if f.path.isEmpty then "" else NodeStep.pathText f.path ++ ": "
  let place :=
    if f.mark.line = 0 ∧ f.mark.column = 0 then ""
    else
      " at line " ++ Digits.text (f.mark.line + 1) ++
        " column " ++ Digits.text (f.mark.column + 1)
  path ++ f.cause.message ++ place

/-! ## Taking documents apart -/

/-- A node of a document, with the way to it from the root. -/
structure Spot where
  document : Document
  path : List NodeStep
  node : LinkedNode

namespace Spot

def ofDocument (d : Document) : Spot := { document := d, path := [], node := d.root }

/-- The spot with an alias replaced by what it stands for. -/
def followed (s : Spot) : Spot := { s with node := s.document.follow s.node }

def fault (s : Spot) (cause : Mismatch) : Fault := { cause, path := s.path, mark := s.node.mark }

/-- The fault of a node that is not of the wanted kind. -/
def wrongKind (s : Spot) (wanted : String) : Fault := s.fault (.wrongKind (.ofNode s.node) wanted)

/-- An empty plain scalar, which stands for an empty collection as well. -/
def isOmitted : LinkedNode → Bool
  | .scalar _ _ .plain [] => true
  | _ => false

/-- The text of a scalar, whatever it means. -/
def text (s : Spot) (wanted : String) : Except Fault String :=
  let s := s.followed
  match s.node with
  | .scalar _ _ _ cs => .ok (String.ofList cs)
  | _ => .error (s.wrongKind wanted)

/-- The spots of the items of a sequence, the first with the given number. -/
def itemsFrom (s : Spot) : Nat → List LinkedNode → List Spot
  | _, [] => []
  | i, n :: ns => { s with path := s.path ++ [.item i], node := n } :: itemsFrom s (i + 1) ns

/-- The items of a sequence. -/
def items (s : Spot) (wanted : String) : Except Fault (List Spot) :=
  let s := s.followed
  match s.node with
  | .sequence _ _ ns => .ok (s.itemsFrom 0 ns)
  | n => if isOmitted n then .ok [] else .error (s.wrongKind wanted)

/-- The step to the value of a key. -/
def stepOf : LinkedNode → NodeStep
  | .scalar _ _ _ cs => .key (String.ofList cs)
  | _ => .unnamed

/-- The entries of a mapping: the spots of keys and values, a key being on the path of the
mapping. -/
def entries (s : Spot) (wanted : String) : Except Fault (List (Spot × Spot)) :=
  let s := s.followed
  match s.node with
  | .mapping _ _ es => .ok (es.map fun e =>
      ({ s with node := e.1 }, { s with path := s.path ++ [stepOf e.1], node := e.2 }))
  | n => if isOmitted n then .ok [] else .error (s.wrongKind wanted)

end Spot
end CaseSheet.Yaml

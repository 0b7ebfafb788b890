import CaseSheet.Text.Blank
import CaseSheet.Text.Lines
/-!
# Paths

A path is a text in which slashes part names. Empty pieces and single dots mean nothing, except a
dot in front, which is kept. Everything here looks at the text alone, not at what stands on a disk.
-/

namespace CaseSheet.Path

/-- A step of a path. The order of paths goes by these: first the root, then a dot in front, then
steps up, then names. -/
inductive Part where
  | root
  | here
  | up
  | name (text : List Char)
deriving DecidableEq, Repr

/-- What a path starts with: the root, a dot in front, or neither. -/
def front : List Char → List Char × List Char
  | '/' :: r => (['/'], r)
  | ['.'] => (['.'], [])
  | '.' :: '/' :: r => (['.'], '/' :: r)
  | r => ([], r)

/-- A piece that means nothing. -/
def isIdle (piece : List Char) : Bool := piece == [] || piece == ['.']

/-- The pieces between slashes. -/
def pieces (cs : List Char) : List (List Char) := Text.splitAll '/' cs

/-- The pieces without idle ones at the end. -/
def trimmedPieces (cs : List Char) : List (List Char) := Text.dropEndWhile isIdle (pieces cs)

/-- The part that a path starts with. -/
def frontPart : List Char → List Part
  | ['/'] => [.root]
  | ['.'] => [.here]
  | _ => []

/-- The part that a piece names. -/
def partOf (piece : List Char) : Part := if piece = ['.', '.'] then .up else .name piece

/-- The parts of a path. -/
def parts (path : String) : List Part :=
  let (start, body) := front path.toList
  frontPart start ++ ((pieces body).filter fun p => !isIdle p).map partOf

/-- The last name of a path, if it ends in one. -/
def name? (path : String) : Option (List Char) :=
  match (trimmedPieces (front path.toList).2).getLast? with
  | some p => if p = ['.', '.'] then none else some p
  | none => none

/-- The path of the directory around; none for the root and the empty path. -/
def parent? (path : String) : Option String :=
  let (start, body) := front path.toList
  match trimmedPieces body with
  | [] => if start = ['.'] then some "" else none
  | ps =>
    let outer := Text.dropEndWhile isIdle ps.dropLast
    some (String.ofList (start ++ Text.joinWith ['/'] outer))

/-- A name cut at its last dot, which must not be its first character. -/
def cutName (name : List Char) : List Char × Option (List Char) :=
  match (Text.splitAll '.' name).reverse with
  | last :: before =>
    let stem := Text.joinWith ['.'] before.reverse
    if stem = [] then (name, none) else (stem, some last)
  | [] => (name, none)

/-- What follows the last dot of the last name. -/
def extension? (path : String) : Option (List Char) := (name? path).bind fun n => (cutName n).2

def isAbsolute (path : String) : Bool := path.toList.head? == some '/'

/-- A path seen from another one; an absolute path stays what it is. -/
def join (base path : String) : String :=
  if isAbsolute path || base.isEmpty then path
  else if base.toList.getLast? = some '/' then base ++ path
  else base ++ "/" ++ path

/-! ## Order -/

/-- The order of names by their characters. -/
def nameLt (a b : List Char) : Bool := String.ofList a < String.ofList b

/-- Whether a part stands before another. -/
def Part.before : Part → Part → Bool
  | .root, .root => false
  | .root, _ => true
  | .here, .root => false
  | .here, .here => false
  | .here, _ => true
  | .up, .name _ => true
  | .up, _ => false
  | .name a, .name b => nameLt a b
  | .name _, _ => false

/-- Whether the first list of parts stands before the second, or is the same. -/
def notAfter : List Part → List Part → Bool
  | [], _ => true
  | _ :: _, [] => false
  | a :: as, b :: bs => a.before b || (a == b && notAfter as bs)

/-- Paths in the order of their parts. -/
def sort (paths : List String) : List String :=
  paths.mergeSort fun a b => notAfter (parts a) (parts b)

end CaseSheet.Path

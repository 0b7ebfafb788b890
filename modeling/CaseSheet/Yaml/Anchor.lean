import CaseSheet.Yaml.Node
/-!
# Anchors

An anchor is identified by how many different names were in use before it, and a name stands for its
latest anchor. An alias stands for the last node of the document with the number that its name had
where the alias stands. An alias whose name is not in use is a fault of the document.
-/

namespace CaseSheet.Yaml

/-- A node whose anchors are numbered. -/
abbrev LinkedNode : Type := Node Nat

/-- The names in use, each with its number. -/
abbrev AnchorNames : Type := List (List Char × Nat)

namespace AnchorNames

/-- Gives a name the next number. -/
def assign (names : AnchorNames) (name : List Char) : AnchorNames :=
  let others := names.filter fun n => n.1 != name
  others ++ [(name, names.length)]

/-- Properties with their anchor numbered, and the names in use behind it. -/
def properties (names : AnchorNames) (p : Properties (List Char)) :
    Properties Nat × AnchorNames :=
  match p.anchor with
  | some name => (⟨some names.length, p.tag⟩, names.assign name)
  | none => (⟨none, p.tag⟩, names)

end AnchorNames

namespace Node

mutual

/-- Numbers the anchors and aliases of a node. -/
def link? : AnchorNames → NamedNode → Option (LinkedNode × AnchorNames)
  | names, .alias m name => (names.lookup name).map fun i => (.alias m i, names)
  | names, .scalar m p style text =>
    let (p, names) := names.properties p
    some (.scalar m p style text, names)
  | names, .sequence m p items => do
    let (p, names) := names.properties p
    let (items, names) ← linkAll? names items
    return (.sequence m p items, names)
  | names, .mapping m p entries => do
    let (p, names) := names.properties p
    let (entries, names) ← linkEntries? names entries
    return (.mapping m p entries, names)

/-- Numbers the anchors and aliases of nodes in order. -/
def linkAll? : AnchorNames → List NamedNode → Option (List LinkedNode × AnchorNames)
  | names, [] => some ([], names)
  | names, n :: ns => do
    let (n, names) ← link? names n
    let (ns, names) ← linkAll? names ns
    return (n :: ns, names)

/-- Numbers the anchors and aliases of entries in order, of each the key first. -/
def linkEntries? : AnchorNames → List (NamedNode × NamedNode) →
    Option (List (LinkedNode × LinkedNode) × AnchorNames)
  | names, [] => some ([], names)
  | names, (k, v) :: es => do
    let (k, names) ← link? names k
    let (v, names) ← link? names v
    let (es, names) ← linkEntries? names es
    return ((k, v) :: es, names)

end

/-- A node under the number of its anchor, if it has one. -/
def numbered (p : Properties Nat) (n : LinkedNode) : List (Nat × LinkedNode) :=
  match p.anchor with
  | some i => [(i, n)]
  | none => []

mutual

/-- The nodes with an anchor, in document order. -/
def anchored : LinkedNode → List (Nat × LinkedNode)
  | .alias _ _ => []
  | .scalar m p style text => numbered p (.scalar m p style text)
  | .sequence m p items => numbered p (.sequence m p items) ++ anchoredAll items
  | .mapping m p entries => numbered p (.mapping m p entries) ++ anchoredEntries entries

/-- The nodes with an anchor in a list of nodes. -/
def anchoredAll : List LinkedNode → List (Nat × LinkedNode)
  | [] => []
  | n :: ns => anchored n ++ anchoredAll ns

/-- The nodes with an anchor in a list of entries. -/
def anchoredEntries : List (LinkedNode × LinkedNode) → List (Nat × LinkedNode)
  | [] => []
  | (k, v) :: es => anchored k ++ anchored v ++ anchoredEntries es

end

mutual

/-- How many scalars, aliases and ends of collections a node is made of. -/
def weight {ι : Type} : Node ι → Nat
  | .alias _ _ => 1
  | .scalar _ _ _ _ => 1
  | .sequence _ _ items => 2 + weightAll items
  | .mapping _ _ entries => 2 + weightEntries entries

/-- The weight of nodes together. -/
def weightAll {ι : Type} : List (Node ι) → Nat
  | [] => 0
  | n :: ns => weight n + weightAll ns

/-- The weight of entries together. -/
def weightEntries {ι : Type} : List (Node ι × Node ι) → Nat
  | [] => 0
  | (k, v) :: es => weight k + weight v + weightEntries es

end

end Node

/-- A document with its anchors. -/
structure Document where
  root : LinkedNode
  /-- The nodes with an anchor, the last of the document first. -/
  anchors : List (Nat × LinkedNode)

namespace Document

/-- The document of a node with names; none if an alias has a name that is not in use. -/
def ofNode? (n : NamedNode) : Option Document :=
  (Node.link? [] n).map fun (root, _) => { root, anchors := root.anchored.reverse }

/-- What a node stands for. -/
def follow (d : Document) : LinkedNode → LinkedNode
  | .alias m i => (d.anchors.lookup i).getD (.alias m i)
  | n => n

end Document

/-- The document of a text; none if the text is malformed. A source without a document counts as
one with an empty scalar where it ends. -/
def readDocument? (cs : List Char) : Option Document := do
  match ← document? cs with
  | .ok n => Document.ofNode? n
  | .error stop => return { root := .omitted stop, anchors := [] }

end CaseSheet.Yaml

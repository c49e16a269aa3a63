import FormGraph.Graph.Wiring

/-!
# Outlines

What a document says, as a tree: every node with what hangs below it. An outline has no names for
its nodes; the clauses of a group point at its branches by their position. `Graph.ofOutline` gives
the names, counting through the tree from the top, and lays the tree out as a graph.

* Names: the definitions first, then each node before what hangs below it (`Outline.places`).
* Nodes: the root and the definitions first, then each node after what hangs below it.
* Edges: by the node above, each before the nodes below it.
-/

namespace FormGraph

/-- A node with what hangs below it. -/
inductive Outline where
  /-- The node, whose clauses point at positions among what hangs below it. -/
  | mk (node : Node Nat) (below : List (EdgeKind × Outline))

namespace Outline

/-- The node on top. -/
def node : Outline → Node Nat
  | mk n _ => n

/-- What hangs below the node on top. -/
def hanging : Outline → List (EdgeKind × Outline)
  | mk _ bs => bs

mutual

/-- How many nodes there are. -/
def size : Outline → Nat
  | mk _ bs => sizeAll bs + 1

/-- How many nodes hang below a node. -/
def sizeAll : List (EdgeKind × Outline) → Nat
  | [] => 0
  | (_, o) :: bs => size o + sizeAll bs

end

/-- The numbers of the nodes hanging directly below a node, when counting goes on from `used`: each
comes after everything that hangs below the ones before it. -/
def places (used : Nat) : List (EdgeKind × Outline) → List Nat
  | [] => []
  | (_, o) :: bs => (used + 1) :: places (used + o.size) bs

/-- The edges below a node. -/
def edges (source : NodeId) (used : Nat) (bs : List (EdgeKind × Outline)) : List Edge :=
  (bs.zip (places used bs)).map fun p => ⟨source, IdSupply.nameOf p.2, p.1.1⟩

/-- The row of edges below a node, if there are any. -/
def edgeRow (source : NodeId) (used : Nat) (bs : List (EdgeKind × Outline)) :
    List (NodeId × List Edge) :=
  if bs.isEmpty then [] else [(source, edges source used bs)]

/-- The node with its clauses pointing at names. -/
def named (n : Node Nat) (used : Nat) (bs : List (EdgeKind × Outline)) : Node NodeId :=
  n.mapClauses (Clause.bindTargets fun i => (places used bs)[i]?.map IdSupply.nameOf)

mutual

/-- The nodes with their names, each after what hangs below it; the node on top gets the number
after `used`. -/
def nodes (used : Nat) : Outline → List (NodeId × Node NodeId)
  | mk n bs => nodesBelow (used + 1) bs ++ [(IdSupply.nameOf (used + 1), named n (used + 1) bs)]

/-- The nodes hanging below a node, with their names. -/
def nodesBelow (used : Nat) : List (EdgeKind × Outline) → List (NodeId × Node NodeId)
  | [] => []
  | (_, o) :: bs => nodes used o ++ nodesBelow (used + size o) bs

end

mutual

/-- The rows of edges, each before those of the nodes below. -/
def rows (used : Nat) : Outline → List (NodeId × List Edge)
  | mk _ bs => edgeRow (IdSupply.nameOf (used + 1)) (used + 1) bs ++ rowsBelow (used + 1) bs

/-- The rows of edges of what hangs below a node. -/
def rowsBelow (used : Nat) : List (EdgeKind × Outline) → List (NodeId × List Edge)
  | [] => []
  | (_, o) :: bs => rows used o ++ rowsBelow (used + size o) bs

end

end Outline

/-- A definition with its content, if it has any. -/
structure DefinitionOutline where
  /-- The name. -/
  name : String
  /-- The content. -/
  content : Option Outline

namespace DefinitionOutline

/-- What hangs below the definition node. -/
def hanging (d : DefinitionOutline) : List (EdgeKind × Outline) :=
  d.content.toList.map fun o => (.child, o)

/-- How many nodes the content has. -/
def size (d : DefinitionOutline) : Nat := Outline.sizeAll d.hanging

/-- How many nodes all contents have. -/
def sizeAll : List DefinitionOutline → Nat
  | [] => 0
  | d :: ds => d.size + sizeAll ds

/-- The nodes of the contents, with their names. -/
def nodes (used : Nat) : List DefinitionOutline → List (NodeId × Node NodeId)
  | [] => []
  | d :: ds => Outline.nodesBelow used d.hanging ++ nodes (used + d.size) ds

/-- The rows of edges of the definitions, whose nodes have the numbers after `number`. -/
def rows (number used : Nat) : List DefinitionOutline → List (NodeId × List Edge)
  | [] => []
  | d :: ds =>
    Outline.edgeRow (IdSupply.nameOf (number + 1)) used d.hanging ++
      Outline.rowsBelow used d.hanging ++ rows (number + 1) (used + d.size) ds

end DefinitionOutline

/-- A whole document as a tree: its definitions and its root. -/
structure DocumentOutline where
  /-- The definitions, in order. -/
  definitions : List DefinitionOutline
  /-- The root. -/
  root : Outline

namespace DocumentOutline

/-- How many nodes need a name: all but the root. -/
def size (d : DocumentOutline) : Nat :=
  d.definitions.length + DefinitionOutline.sizeAll d.definitions + Outline.sizeAll d.root.hanging

/-- The nodes of the definitions, with their names and the names of their nodes. -/
def definitionRows (used : Nat) (d : DocumentOutline) : List (String × NodeId) :=
  d.definitions.zipIdx.map fun p => (p.1.name, IdSupply.nameOf (used + 1 + p.2))

/-- The outline laid out as a graph, when `used` names have been given before. -/
def toGraph (used : Nat) (d : DocumentOutline) : Graph :=
  let definitions := d.definitionRows used
  let contents := used + d.definitions.length
  let top := contents + DefinitionOutline.sizeAll d.definitions
  let rows := DefinitionOutline.rows used contents d.definitions ++
    Outline.edgeRow rootName top d.root.hanging ++ Outline.rowsBelow top d.root.hanging
  { nodes := Table.ofList
      ((rootName, Outline.named d.root.node top d.root.hanging) ::
        definitions.map (fun p => (p.2, Node.ofDefinition p.1)) ++
        DefinitionOutline.nodes contents d.definitions ++
        Outline.nodesBelow top d.root.hanging)
    outgoing := Table.ofList rows
    owners := Table.ofList ((rows.flatMap (·.2)).map fun e => (e.target, e))
    definitions := Table.ofList definitions
    version := 1 }

end DocumentOutline

namespace Graph

/-- Lay an outline out as a graph, taking names for its nodes. -/
def ofOutline (d : DocumentOutline) : Edit Graph :=
  fun s => .ok (d.toGraph s.used, ⟨s.used + d.size⟩)

end Graph

end FormGraph

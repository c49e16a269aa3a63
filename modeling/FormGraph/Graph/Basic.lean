import FormGraph.Node.Basic
import FormGraph.Node.Key

/-!
# Graphs of forms

A graph holds the nodes of a form under their names, the edges below each node in order, for each
node the edge that owns it, and the table of named definitions. A graph is a value: an operation
makes a new one, with the next version number.

The type admits graphs whose parts do not fit together (an edge to a missing node, a node with two
owners); `Check.Graph` says what is wrong with a graph, and the edits of `Edit` never bring anything
wrong about. A walk over such a graph ends all the same: `ancestors` stops where it comes back to a
node, and `subtreeIds` visits every node once.
-/

namespace FormGraph

/-- A node hangs below another one. -/
structure Edge where
  /-- The node above. -/
  source : NodeId
  /-- The node below. -/
  target : NodeId
  /-- How it hangs there. -/
  kind : EdgeKind
  deriving DecidableEq, Repr, Inhabited

namespace Edge

/-- The edge as a document value. -/
def toValue (e : Edge) : Value :=
  .obj [("source", .str e.source), ("target", .str e.target), ("kind", .str e.kind.name)]

end Edge

/-- The name of the root of every graph that the library makes. -/
def rootName : NodeId := "root"

/-- A form as a graph of its parts. -/
structure Graph where
  /-- The nodes by name. -/
  nodes : Table (Node NodeId)
  /-- The edges below a node, in order. -/
  outgoing : Table (List Edge)
  /-- The edge that owns a node. -/
  owners : Table Edge
  /-- The definition node of a definition's name. -/
  definitions : Table NodeId
  /-- The name of the root. -/
  rootId : NodeId := rootName
  /-- How many changes led to this graph. -/
  version : Nat := 0
  deriving DecidableEq

namespace Graph

/-- The graph that holds a root object only. -/
def empty (title description : Value) : Graph where
  nodes := Table.empty.put rootName
    { key := rootName
      body := Body.initial .object
      title := title
      description := description }
  outgoing := Table.empty
  owners := Table.empty
  definitions := Table.empty

variable (g : Graph)

/-- The node of that name. -/
def node? (id : NodeId) : Option (Node NodeId) := g.nodes.find? id

/-- The node of that name, or a refusal. -/
def get (id : NodeId) : Except Fault (Node NodeId) :=
  match g.node? id with
  | some n => .ok n
  | none => refuse (.unknownNode id)

/-- The node that an edge or a definition points at. -/
def pointedAt (id : NodeId) : Except Fault (Node NodeId) := orBreakDown (g.node? id) .missingNode

/-- The root node. -/
def root : Except Fault (Node NodeId) := g.pointedAt g.rootId

/-- The edge that owns a node. -/
def owningEdge (id : NodeId) : Option Edge := g.owners.find? id

/-- The node above a node. -/
def parentId (id : NodeId) : Option NodeId := (g.owningEdge id).map (·.source)

/-- The edges below a node, in order. -/
def edgesFrom (id : NodeId) : List Edge := (g.outgoing.find? id).getD []

/-- The edges of one kind below a node, in order. -/
def edgesOfKind (id : NodeId) (kind : EdgeKind) : List Edge :=
  (g.edgesFrom id).filter fun e => e.kind = kind

/-- The names of what hangs below a node over edges of one kind. -/
def targetsOfKind (id : NodeId) (kind : EdgeKind) : List NodeId :=
  (g.edgesOfKind id kind).map (·.target)

/-- The names of the children of a node, in order. -/
def childIds (id : NodeId) : List NodeId := g.targetsOfKind id .child

/-- The children of a node with their names, in order. -/
def children (id : NodeId) : Except Fault (List (NodeId × Node NodeId)) :=
  (g.childIds id).mapM fun c => return (c, ← g.pointedAt c)

/-- All edges, by the nodes above them. -/
def edges : List Edge := g.outgoing.values.flatten

/-- How many edges there are. -/
def edgeCount : Nat := g.edges.length

/-- Climb from a node for at most `fuel` steps, and stop at a node that was met before. -/
def climb : Nat → List NodeId → NodeId → List NodeId
  | 0, _, _ => []
  | fuel + 1, seen, id =>
    match g.parentId id with
    | none => []
    | some p => if p ∈ seen then [] else p :: climb fuel (p :: seen) p

/-- The names of the nodes above a node, nearest first, each once. -/
def ancestors (id : NodeId) : List NodeId := g.climb (g.owners.size + 1) [] id

/-- Visit the nodes on the stack and everything below them, for at most `fuel` steps; a node that
was met before is passed over. -/
def visit : Nat → List NodeId → List NodeId → List NodeId
  | 0, _, _ => []
  | _ + 1, _, [] => []
  | fuel + 1, seen, id :: stack =>
    if id ∈ seen then visit fuel seen stack
    else id :: visit fuel (id :: seen) ((g.edgesFrom id).map (·.target) ++ stack)

/-- A node and everything below it, each node before what hangs below it. Every step takes one name
off the stack, and a name comes onto it at the start and once for each edge. -/
def subtreeIds (id : NodeId) : List NodeId := g.visit (g.edgeCount + 1) [] [id]

/-- Whether a node would come to hang below itself if it were moved. -/
def wouldCycle (moving parent : NodeId) : Bool :=
  parent = moving || (g.ancestors parent).contains moving

/-- Whether there is a definition node of that name. -/
def isDefinition (id : NodeId) : Bool :=
  match g.node? id with
  | some n => n.kind = .definition
  | none => false

/-- The name of the content of a definition. -/
def contentId? (name : String) : Option NodeId :=
  (g.definitions.find? name).bind fun id => (g.childIds id).head?

/-- The content of a definition with its name, if there is any. -/
def content (name : String) : Except Fault (Option (NodeId × Node NodeId)) :=
  (g.contentId? name).mapM fun id => return (id, ← g.pointedAt id)

/-- The names of the references to a definition, in the order of the nodes. -/
def referencesTo (name : String) : List NodeId :=
  (g.nodes.entries.filter fun e => e.2.target? = some (.str name)).map Prod.fst

/-- The keys of what hangs below a node over edges of one kind, leaving out one node. -/
def siblingKeys (id : NodeId) (kind : EdgeKind) (exclude : Option NodeId) :
    Except Fault (List String) :=
  ((g.targetsOfKind id kind).filter fun t => exclude ≠ some t).mapM fun t =>
    return (← g.pointedAt t).key

/-- A node of the graph with the node above it and its children, as members of a document object. -/
def nodeMembers (id : NodeId) : Except Fault Members := do
  let n ← g.get id
  return Entries.putAll ((n.toValue id).obj?.getD [])
    [("parent_id", Value.ofString? (g.parentId id)), ("children", Value.ofStrings (g.childIds id))]

/-- A definition as a document value: its node, how many references there are, and its content. -/
def definitionValue (name : String) (id : NodeId) : Value :=
  .obj [("name", .str name), ("id", .str id), ("references", .int (g.referencesTo name).length),
    ("content", Value.ofStrings (g.childIds id))]

/-- The definitions as a document value, in order. -/
def definitionsValue : Except Fault Value := do
  let rows ← g.definitions.entries.mapM fun d => do
    let _ ← g.pointedAt d.2
    return g.definitionValue d.1 d.2
  return .list rows

/-- The graph as a document value. -/
def toValue : Value :=
  .obj [("root_id", .str g.rootId), ("version", .int g.version),
    ("nodes", .list (g.nodes.entries.map fun e => e.2.toValue e.1)),
    ("edges", .list (g.edges.map Edge.toValue)),
    ("definitions", .obj (Entries.mapValues .str g.definitions.entries))]

end Graph

end FormGraph

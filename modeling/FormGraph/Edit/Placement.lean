import FormGraph.Graph.Wiring

/-!
# Placing nodes

Adding a node, moving one, and putting one in order among its siblings. Each edit first asks whether
the place takes the node, then changes the graph and counts one version.

* A new node gets the key the caller chose, if no sibling has it, or one derived from its title.
* A moved node keeps its key unless a node at its new place has it.
* The position is clamped to the children there are.
-/

namespace FormGraph

namespace Graph

/-- Refuse a place that does not take a node of the given kind. A moving node does not count among
the children that are already there. -/
def checkPlace (g : Graph) (parentId : NodeId) (parent : Node NodeId) (child : NodeKind)
    (edge : EdgeKind) (moving : Option NodeId) : Except Fault Unit := do
  if parent.kind.isLeaf || child = .definition then
    refuse (.cannotHold parentId parent.key parent.kind child)
  let children ← g.children parentId
  let existing := (children.filter fun c => moving ≠ some c.1).map fun c => c.2.kind
  if canAccept parent.kind child existing edge then return ()
  else refuse (.childRejected parentId parent.key parent.kind child edge)

/-- The parent that a node is to hang below, or a refusal. -/
def parentNode (g : Graph) (id : NodeId) : Except Fault (Node NodeId) :=
  match g.node? id with
  | some n => .ok n
  | none => refuse (.unknownParent id)

/-- The key that a draft gets among its siblings. -/
def keyFor (draft : Draft) (parentId : NodeId) (edge : EdgeKind) (taken : List String) :
    Except Fault String :=
  match draft.key with
  | .null => return Key.generate (← Key.readTitle draft.title) taken draft.kind.fallbackKey
  | .str key =>
    if !Key.isValid key then refuse (.invalidKey (.str key))
    else if edge = .child && taken.contains key then refuse (.duplicateKey key parentId)
    else .ok key
  | v => if v.holds then breakDown .unusableValue else refuse (.invalidKey v)

/-- Add a node under the given name. -/
def addAs (g : Graph) (id : NodeId) (draft : Draft) (parentId : NodeId) (edge : EdgeKind)
    (index : Option Int) : Except Fault Graph := do
  let parent ← g.parentNode parentId
  g.checkPlace parentId parent draft.kind edge none
  let taken ← g.siblingKeys parentId edge none
  let key ← keyFor draft parentId edge taken
  let wired ← (g.putNode id (draft.build key)).attach parentId id edge index
  return wired.next

/-- Add a node; its name is returned with the graph. -/
def add (g : Graph) (draft : Draft) (parentId : NodeId) (edge : EdgeKind) (index : Option Int) :
    Edit (Graph × NodeId) := do
  let id ← IdSupply.fresh
  let g ← g.addAs id draft parentId edge index
  return (g, id)

/-- Move a node and everything below it to another place. -/
def move (g : Graph) (id newParent : NodeId) (edge : EdgeKind) (index : Option Int) :
    Except Fault Graph := do
  if id = g.rootId then refuse (.rootMove id)
  let n ← g.get id
  if n.kind = .definition then refuse (.definitionMove id)
  let parent ← g.parentNode newParent
  if g.wouldCycle id newParent then refuse (.cycle id newParent)
  if parent.kind.isLeaf then
    refuse (.leafParent newParent parent.key parent.kind n.kind)
  g.checkPlace newParent parent n.kind edge (some id)
  let freed := (g.detach id).releaseBranch (g.owningEdge id)
  let taken ← g.siblingKeys newParent edge (some id)
  let renamed :=
    if taken.contains n.key then freed.putNode id { n with key := Key.unique n.key taken }
    else freed
  let wired ← renamed.attach newParent id edge index
  return wired.next

/-- Move a member of a list to a position, the others keeping their order. -/
def moveInList {α : Type} [DecidableEq α] (a : α) (position : Nat) (as : List α) : List α :=
  let others := as.filter fun b => b ≠ a
  others.take position ++ a :: others.drop position

/-- Put a child in order among its siblings; the position is clamped. A node that is no child has no
order, and a node already in its place stays: the graph is then the same. -/
def reorder (g : Graph) (id : NodeId) (index : Int) : Except Fault Graph := do
  if id = g.rootId then refuse (.rootOrder id)
  let _ ← g.get id
  match g.owningEdge id with
  | none => return g
  | some e =>
    if e.kind ≠ .child then return g
    let siblings := g.edgesOfKind e.source .child
    let position := (min (max index 0) ((siblings.length : Int) - 1)).toNat
    if (siblings.map (·.target)).idxOf id = position then return g
    let others := (g.edgesFrom e.source).filter fun f => f.kind ≠ .child
    return (g.setEdges e.source (moveInList e position siblings ++ others)).next

end Graph

end FormGraph

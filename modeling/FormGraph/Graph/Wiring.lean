import FormGraph.Graph.Basic

/-!
# Wiring

The steps that edits are made of: put a node, hang it below another, take it off, drop it, and point
the clauses of a group elsewhere. A step keeps the version; an edit ends by `next`, which counts it.

A position among children is clamped: a negative one is the first, one past the end is the last.
-/

namespace FormGraph

namespace Graph

/-- Put a node under a name. -/
def putNode (g : Graph) (id : NodeId) (n : Node NodeId) : Graph :=
  { g with nodes := g.nodes.put id n }

/-- Replace the edges below a node. -/
def setEdges (g : Graph) (id : NodeId) (es : List Edge) : Graph :=
  { g with outgoing := g.outgoing.put id es }

/-- Insert an edge before the child edge at a position, counting child edges only. -/
def insertAtChild (e : Edge) : Nat → List Edge → List Edge
  | _, [] => [e]
  | 0, f :: fs => if f.kind = .child then e :: f :: fs else f :: insertAtChild e 0 fs
  | i + 1, f :: fs =>
    f :: (if f.kind = .child then insertAtChild e i fs else insertAtChild e (i + 1) fs)

/-- Place an edge among the edges below a node. A child edge goes to its position, anything else to
the end; among no children there is no position in front of the first. -/
def placeEdge (e : Edge) (index : Option Int) (es : List Edge) : Except Fault (List Edge) :=
  let childCount := (es.filter fun f => f.kind = .child).length
  match index with
  | none => .ok (es ++ [e])
  | some i =>
    if e.kind ≠ .child then .ok (es ++ [e])
    else if (childCount : Int) ≤ i then .ok (es ++ [e])
    else if childCount = 0 then breakDown .noPosition
    else .ok (insertAtChild e i.toNat es)

/-- Hang a node below another, at a position among its children or at the end. -/
def attach (g : Graph) (source target : NodeId) (kind : EdgeKind) (index : Option Int) :
    Except Fault Graph := do
  let e : Edge := ⟨source, target, kind⟩
  let es ← placeEdge e index (g.edgesFrom source)
  return { g.setEdges source es with owners := g.owners.put target e }

/-- Hang a node below another, after everything that hangs there. -/
def attachLast (g : Graph) (source target : NodeId) (kind : EdgeKind) : Graph :=
  let e : Edge := ⟨source, target, kind⟩
  { g.setEdges source (g.edgesFrom source ++ [e]) with owners := g.owners.put target e }

/-- Take a node off the edge that owns it. -/
def detach (g : Graph) (target : NodeId) : Graph :=
  match g.owningEdge target with
  | none => g
  | some e =>
    { g.setEdges e.source ((g.edgesFrom e.source).filter fun f => f ≠ e) with
      owners := g.owners.erase target }

/-- Forget a node, the edge that owns it and the edges below it. -/
def drop (g : Graph) (id : NodeId) : Graph :=
  { g with
    nodes := g.nodes.erase id
    outgoing := g.outgoing.erase id
    owners := g.owners.erase id }

/-- Forget several nodes. -/
def dropAll (g : Graph) (ids : List NodeId) : Graph := ids.foldl drop g

/-- Point the clauses of a group that point at one branch at another one, or at none. -/
def retarget (g : Graph) (groupId : NodeId) (old : NodeId) (new : Option NodeId) : Graph :=
  match g.node? groupId with
  | none => g
  | some n =>
    g.putNode groupId (n.setClauses (n.clauses.map
      (Clause.bindTargets fun t => if t = old then new else some t)))

/-- Let no clause of the group above point at a branch that leaves it over the given edge. -/
def releaseBranch (g : Graph) (edge : Option Edge) : Graph :=
  match edge with
  | none => g
  | some e => if e.kind.isBranch then g.retarget e.source e.target none else g

/-- Take a node off and forget it with everything that hung below it in `old`, the graph before the
edit began. -/
def removeSubtree (g old : Graph) (id : NodeId) : Graph :=
  ((g.detach id).releaseBranch (g.owningEdge id)).dropAll (old.subtreeIds id)

/-- Count an edit. -/
def next (g : Graph) : Graph := { g with version := g.version + 1 }

/-- Let a name stand for a definition node. -/
def define (g : Graph) (name : String) (id : NodeId) : Graph :=
  { g with definitions := g.definitions.put name id }

/-- Let a name stand for no definition. -/
def undefine (g : Graph) (name : String) : Graph :=
  { g with definitions := g.definitions.erase name }

end Graph

/-- The names that have been given to new nodes: the next one is `n` and the next number. -/
structure IdSupply where
  /-- How many names have been given. -/
  used : Nat := 0
  deriving DecidableEq, Repr, Inhabited

namespace IdSupply

/-- The name with a number. -/
def nameOf (n : Nat) : NodeId := "n" ++ toString n

/-- Take the next name. -/
def fresh : StateT IdSupply (Except Fault) NodeId :=
  fun s => .ok (nameOf (s.used + 1), ⟨s.used + 1⟩)

/-- Take the next names, as many as asked for. -/
def freshList (count : Nat) : StateT IdSupply (Except Fault) (List NodeId) :=
  fun s => .ok ((List.range count).map fun i => nameOf (s.used + 1 + i), ⟨s.used + count⟩)

end IdSupply

/-- An edit that may take names for new nodes. When it fails, no name was taken. -/
abbrev Edit := StateT IdSupply (Except Fault)

end FormGraph

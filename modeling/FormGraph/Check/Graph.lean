import FormGraph.Check.Node
import FormGraph.Edit.Clause
import FormGraph.Value.Order

/-!
# Checking a graph

What is wrong with a graph as a whole. The complaints come in a fixed order: those about the root,
about the table of definitions, about the edges that own the nodes, and then node by node those
about its own fields, its children, the definition it points at and its clauses.

The check answers for every graph, consistent or not, unless an edge points at a node that is not
there.
-/

namespace FormGraph

namespace Check

/-- Complain about a name in the table of definitions. -/
def definition (g : Graph) (name : String) (id : NodeId) : List String :=
  match g.node? id with
  | some { body := .definition own, .. } =>
    if own = .str name then []
    else ["Definition '" ++ name ++ "' node is named '" ++ own.plainSequence ++ "'"]
  | _ => ["Definition '" ++ name ++ "' points at a missing node '" ++ id ++ "'"]

/-- Complain about the edge that owns a node, or about there being none. -/
def ownership (g : Graph) (id : NodeId) (n : Node NodeId) : List String :=
  match g.owningEdge id with
  | some e =>
    if id = g.rootId || g.definitions.values.contains id then
      ["Node '" ++ id ++ "' is a root but has an owning edge"]
    else
      (if (g.node? e.source).isSome then []
        else ["Node '" ++ id ++ "' is owned by a missing node '" ++ e.source ++ "'"]) ++
      (if (g.ancestors id).contains id then ["Cycle detected through node '" ++ id ++ "'"] else [])
  | none =>
    if id = g.rootId || g.definitions.values.contains id then []
    else ["Orphaned node '" ++ id ++ "' (" ++ n.key ++ ") has no owning edge"]

/-- The texts that occur more than once, sorted and each once. -/
def repeated (texts : List String) : List String :=
  (distinct (texts.filter fun t => 1 < texts.count t)).mergeSort fun a b => a ≤ b

/-- Complain about the children of a node. -/
def children (id : NodeId) (n : Node NodeId) (below : List (NodeId × Node NodeId)) :
    List String :=
  ((repeated (below.map fun c => c.2.key)).map fun k =>
    "Duplicate key '" ++ k ++ "' under '" ++ id ++ "'") ++
  (if n.kind = .array && 1 < below.length then
    ["Array '" ++ n.key ++ "' has " ++ toString below.length ++ " item schemas"] else []) ++
  (if !below.isEmpty && n.kind.isLeaf then
    ["Leaf '" ++ n.key ++ "' (" ++ n.kind.name ++ ") has children"] else [])

/-- Complain about a reference to a definition that does not exist. -/
def referenceTarget (g : Graph) (n : Node NodeId) : Except Fault (List String) :=
  match n.target? with
  | some target =>
    if !target.isLookup then breakDown .unusableValue
    else if target.str?.any g.definitions.has then .ok []
    else
      .ok ["Reference '" ++ n.key ++ "' points at unknown definition '" ++
        target.plainSequence ++ "'"]
  | none => .ok []

/-- Complain about a clause whose branches do not hang below the group. -/
def clauseTargets (g : Graph) (id : NodeId) (key : String) (position : Nat)
    (c : Clause NodeId) : List String :=
  let missing (target : Option NodeId) (kind : EdgeKind) : Bool :=
    match target with
    | some t => !(g.targetsOfKind id kind).contains t
    | none => false
  let named := "Clause " ++ toString position ++ " of '" ++ key ++ "' has "
  (if missing c.onTrue .thenBranch then [named ++ "then target without a then edge"] else []) ++
  (if missing c.onFalse .elseBranch then [named ++ "else target without an else edge"] else [])

/-- Complain about the clauses of a group. -/
def clauses (g : Graph) (id : NodeId) (n : Node NodeId) : List String :=
  let pairs := n.clauses.map Clause.branches
  (n.clauses.zipIdx.flatMap fun p => clauseTargets g id n.key p.2 p.1) ++
  (if n.kind = .group .ifBlock && pairs.any fun p => pairs.head? ≠ some p then
    ["If block '" ++ n.key ++ "' has clauses with different branches"] else [])

/-- Everything that is wrong with one node of a graph. -/
def nodeInGraph (g : Graph) (id : NodeId) (n : Node NodeId) : Except Fault (List String) := do
  let ofFields ← node id n
  let below ← g.children id
  let ofTarget ← referenceTarget g n
  return ofFields ++ children id n below ++ ofTarget ++
    if n.kind.isGroup then clauses g id n else []

/-- Everything that is wrong with a graph. -/
def graph (g : Graph) : Except Fault (List String) :=
  match g.node? g.rootId with
  | none => .ok ["Root node '" ++ g.rootId ++ "' is missing"]
  | some root => do
    let ofRoot :=
      if root.kind = .object then []
      else ["Root node must be an object, got " ++ root.kind.name]
    let ofDefinitions := g.definitions.entries.flatMap fun e => definition g e.1 e.2
    let ofOwners := g.nodes.entries.flatMap fun e => ownership g e.1 e.2
    let ofNodes ← g.nodes.entries.mapM fun e => nodeInGraph g e.1 e.2
    return ofRoot ++ ofDefinitions ++ ofOwners ++ ofNodes.flatten

/-- Warnings about the branches of one group that no clause points at. -/
def unusedBranches (g : Graph) (id : NodeId) (n : Node NodeId) : Except Fault (List String) :=
  if n.kind.isGroup then
    (g.unusedBranches id n.clauses).mapM fun e => do
      let branch ← g.pointedAt e.target
      return "Branch '" ++ branch.key ++ "' of '" ++ n.key ++ "' is not used by any clause"
  else .ok []

/-- Warnings about all branches that no clause points at. -/
def unreferencedBranches (g : Graph) : Except Fault (List String) := do
  let found ← g.nodes.entries.mapM fun e => unusedBranches g e.1 e.2
  return found.flatten

end Check

end FormGraph

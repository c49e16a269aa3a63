import FormGraph.Edit.Definition
import FormGraph.Value.Order

/-!
# Removing nodes and definitions

Removing a node removes everything that hangs below it, and no clause goes on pointing at what is
gone. What happens to the references of a definition that is removed is for the `RemovalPolicy` to
say: they stay and point nowhere, they forbid the removal, they go too, or each becomes a copy of
the content.
-/

namespace FormGraph

namespace Graph

/-- The new name of a node that is copied. -/
def copyName? (pairs : List (NodeId × NodeId)) (id : NodeId) : Option NodeId :=
  Entries.find? pairs id

/-- Put the copy of one node of `old` under its new name; the clauses of a group point at the copies
of its branches. -/
def copyNode (old : Graph) (pairs : List (NodeId × NodeId)) (g : Graph) (pair : NodeId × NodeId) :
    Except Fault Graph := do
  let n ← old.pointedAt pair.1
  return g.putNode pair.2 (n.setClauses (n.clauses.map (Clause.bindTargets (copyName? pairs))))

/-- Hang the copies of what hangs below one node of `old` below its copy. -/
def copyEdges (old : Graph) (pairs : List (NodeId × NodeId)) (g : Graph) (pair : NodeId × NodeId) :
    Except Fault Graph :=
  (old.edgesFrom pair.1).foldlM
    (fun g e => do
      let target ← orBreakDown (copyName? pairs e.target) .missingNode
      return g.attachLast pair.2 target e.kind)
    g

/-- Copy what hangs below a node of `old`, the node included, giving the nodes the new names in
order. The copy hangs below nothing. -/
def copySubtreeAs (g old : Graph) (pairs : List (NodeId × NodeId)) : Except Fault Graph := do
  let copied ← pairs.foldlM (copyNode old pairs) g
  pairs.foldlM (copyEdges old pairs) copied

/-- Copy a node of `old` and everything below it; the name of the copy is returned. -/
def copySubtree (g old : Graph) (source : NodeId) : Edit (Graph × NodeId) := do
  let ids := old.subtreeIds source
  let names ← IdSupply.freshList ids.length
  let pairs := ids.zip names
  let g ← g.copySubtreeAs old pairs
  let copy ← orBreakDown (copyName? pairs source) .missingNode
  return (g, copy)

/-- Put a copy of the content of a definition of `old` in the place of a reference. The copy takes
over the key, the required mark and, where there is one, the title of the reference. Where there is
no content or no place, the reference goes. -/
def inlineReference (g old : Graph) (refId : NodeId) (content : Option NodeId) : Edit Graph := do
  let ref ← old.pointedAt refId
  match content, g.owningEdge refId with
  | some content, some e =>
    let position : Option Int :=
      if e.kind = .child then some ((g.childIds e.source).idxOf refId) else none
    let freed := (g.detach refId).drop refId
    let (copied, copyId) ← freed.copySubtree old content
    let copy ← copied.pointedAt copyId
    let named := copied.putNode copyId
      { copy with
        key := ref.key
        required := ref.required
        title := if ref.title.isNull then copy.title else ref.title }
    let wired ← named.attach e.source copyId e.kind position
    return if e.kind.isBranch then wired.retarget e.source refId (some copyId) else wired
  | _, _ => return g.removeSubtree old refId

/-- The reference count in a message. -/
def countText (n : Nat) : String := toString n ++ " reference(s)"

/-- Do to the references of a definition what the policy says; the warnings are returned. A
reference within the definition's own content is not inlined: it goes with the content. -/
def settleReferences (g : Graph) (name : String) (defId : NodeId) (policy : RemovalPolicy) :
    Edit (Graph × List String) := do
  let refs := g.referencesTo name
  if refs.isEmpty then return (g, [])
  match policy with
  | .allow =>
    return (g, ["Definition '" ++ name ++ "' removed while " ++ countText refs.length ++
      " still point at it; they are now dangling"])
  | .refuse => throw (.refused (.definitionInUse name refs.length))
  | .cascade =>
    return (refs.foldl (fun h ref => h.removeSubtree g ref) g,
      ["Removed " ++ countText refs.length ++ " to definition '" ++ name ++ "'"])
  | .inlined =>
    let own := g.subtreeIds defId
    let content := (g.childIds defId).head?
    let settled ← (refs.filter fun ref => !own.contains ref).foldlM
      (fun h ref => h.inlineReference g ref content) g
    return (settled, ["Inlined definition '" ++ name ++ "' at " ++ toString refs.length ++
      " reference site(s)"])

/-- Remove a definition with its content; warnings are returned. -/
def removeDefinition (g : Graph) (name : String) (policy : RemovalPolicy) :
    Edit (Graph × List String) := do
  match g.definitions.find? name with
  | none => throw (.refused (.unknownDefinition name))
  | some defId =>
    let (settled, warnings) ← g.settleReferences name defId policy
    return (((settled.dropAll (g.subtreeIds defId)).undefine name).next, warnings)

/-- Remove a node and everything below it. A definition node is removed as a definition. -/
def remove (g : Graph) (id : NodeId) (policy : RemovalPolicy) : Edit Graph := do
  if id = g.rootId then throw (.refused (.rootRemoval id))
  let n ← g.get id
  match n.body with
  | .definition (.str name) =>
    let (g, _) ← g.removeDefinition name policy
    return g
  | .definition name =>
    if name.isLookup then throw (.refused (.unknownDefinition name.plainSequence))
    else throw (.broken .unusableValue)
  | _ => return (g.removeSubtree g id).next

end Graph

end FormGraph

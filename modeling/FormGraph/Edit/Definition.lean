import FormGraph.Edit.Placement

/-!
# Definitions

A definition gives a name to one piece of a form, its content. The definition node hangs below
nothing and holds the content as its only child; references point at it by name, from anywhere.
-/

namespace FormGraph

namespace Graph

/-- Refuse a name that no new definition can have. -/
def checkNewName (g : Graph) (name : String) : Except Fault Unit := do
  if name = "" then refuse .emptyDefinitionName
  if g.definitions.has name then refuse (.duplicateName name)

/-- Create a definition under the given node name, without content. -/
def createDefinitionAs (g : Graph) (id : NodeId) (name : String) : Except Fault Graph := do
  g.checkNewName name
  return ((g.putNode id (Node.ofDefinition name)).define name id).next

/-- Create a definition, with content if a draft is given; the name of its node is returned. -/
def createDefinition (g : Graph) (name : String) (content : Option Draft) :
    Edit (Graph × NodeId) := do
  g.checkNewName name
  let id ← IdSupply.fresh
  let g ← g.createDefinitionAs id name
  match content with
  | none => return (g, id)
  | some draft =>
    let (g, _) ← g.add draft id .child none
    return (g, id)

/-- Where a node stands that is to become a definition, or a refusal: the root, references, groups
and what a definition already holds do not become one. -/
def promotableEdge (g : Graph) (id : NodeId) (n : Node NodeId) : Except Fault Edge := do
  match g.owningEdge id with
  | none => refuse (.rootPromotion id)
  | some e =>
    if id = g.rootId then refuse (.rootPromotion id)
    if n.kind = .reference || n.kind = .definition || g.isDefinition e.source then
      refuse (.alreadyDefined id n.key)
    if n.kind.isGroup then refuse (.groupPromotion id n.key)
    return e

/-- The reference that takes the place of a promoted node. -/
def referenceFor (n : Node NodeId) (name : String) : Node NodeId where
  key := n.key
  body := .reference (.str name)
  title := n.title
  required := n.required

/-- Turn a node and what hangs below it into a definition, and leave a reference in its place: at
its position, under its key, and in the clauses that pointed at it. -/
def promoteAs (g : Graph) (defId refId id : NodeId) (name : String) : Except Fault Graph := do
  let n ← g.get id
  let e ← g.promotableEdge id n
  g.checkNewName name
  let position : Option Int :=
    if e.kind = .child then some ((g.childIds e.source).idxOf id) else none
  let defined := (((g.detach id).putNode defId (Node.ofDefinition name)).define name defId)
  let held := (defined.putNode id { n with required := false }).attachLast defId id .child
  let wired ← (held.putNode refId (referenceFor n name)).attach e.source refId e.kind position
  return (if e.kind.isBranch then wired.retarget e.source id (some refId) else wired).next

/-- Turn a node into a definition; the name of the reference left in its place is returned. -/
def promote (g : Graph) (id : NodeId) (name : String) : Edit (Graph × NodeId) := do
  let defId ← IdSupply.fresh
  let refId ← IdSupply.fresh
  let g ← g.promoteAs defId refId id name
  return (g, refId)

/-- Point a reference elsewhere. -/
def pointAt (g : Graph) (name : String) (id : NodeId) : Graph :=
  match g.node? id with
  | some n => g.putNode id { n with body := .reference (.str name) }
  | none => g

/-- Rename a definition and point its references at the new name. Renaming to the old name leaves
the graph as it is. -/
def renameDefinition (g : Graph) (old new : String) : Except Fault Graph := do
  match g.definitions.find? old with
  | none => refuse (.unknownDefinition old)
  | some id =>
    if new = old then return g
    g.checkNewName new
    let n ← g.pointedAt id
    let renamed := g.putNode id { n with key := new, body := .definition (.str new) }
    let defined := (renamed.undefine old).define new id
    return ((g.referencesTo old).foldl (fun h ref => h.pointAt new ref) defined).next

end Graph

end FormGraph

import FormGraph.Digest.Sha256
import FormGraph.Graph.Basic
import FormGraph.Json.Writer

/-!
# Signatures

What a graph says, without the names of its nodes: graphs with the same signature are written as the
same document. Keys and required marks belong to it only where a document carries them, which is for
properties and for branches written under their own name. Properties and groups of an object are
listed apart, because a document does not carry their order among each other.

A branch that is not there counts as none; a path that does not end breaks the walk down, which a
tree of nodes never does.
-/

namespace FormGraph

namespace Signature

/-- How a node is described. -/
structure View where
  /-- Whether the document carries its key and required mark. -/
  addressable : Bool
  /-- Whether the widget counts. -/
  widgets : Bool

variable (g : Graph)

/-- The description of a branch. -/
def branch (below : View → NodeId → Except Fault Value) (widgets : Bool) (id : Option NodeId) :
    Except Fault Value :=
  match id with
  | none => .ok .null
  | some id =>
    match g.node? id with
    | none => .ok .null
    | some n => below ⟨n.isAddressable, widgets⟩ id

/-- The description of a clause. -/
def clause (below : View → NodeId → Except Fault Value) (widgets : Bool) (c : Clause NodeId) :
    Except Fault Value := do
  let onTrue ← branch g below widgets c.onTrue
  let onFalse ← branch g below widgets c.onFalse
  return .obj [("condition", .obj c.condition.toMembers), ("then", onTrue), ("else", onFalse)]

/-- The descriptions of what hangs below a node as children. -/
def contents (below : View → NodeId → Except Fault Value) (widgets : Bool) (id : NodeId)
    (n : Node NodeId) : Except Fault Members :=
  match n.body with
  | .object _ => do
    let children ← g.children id
    let fields := children.filter fun c => !c.2.kind.isGroup
    let groups := children.filter fun c => c.2.kind.isGroup
    return [("children", .list (← fields.mapM fun c => below ⟨true, widgets⟩ c.1)),
      ("conditionals", .list (← groups.mapM fun c => below ⟨false, widgets⟩ c.1))]
  | .array _ =>
    return [("children", .list (← (g.childIds id).mapM fun c => below ⟨false, widgets⟩ c))]
  | _ => .ok []

/-- The description of a node, given how the nodes below it are described. -/
def describe (below : View → NodeId → Except Fault Value) (view : View) (id : NodeId) :
    Except Fault Value :=
  match g.node? id with
  | none => .ok .null
  | some n => do
    let common : Members :=
      [("kind", .str n.kind.name), ("title", n.title), ("description", n.description),
        ("extras", .obj n.extras)] ++
      n.default.toList.map (fun v => ("default", v)) ++
      (if view.addressable then [("key", .str n.key), ("required", .bool n.required)] else []) ++
      (if view.widgets then [("widget", n.widget), ("widget_options", .obj n.widgetOptions)]
        else [])
    let own ← if n.kind.isGroup then do
        pure [("clauses", Value.list (← n.clauses.mapM (clause g below view.widgets)))]
      else pure [("attrs", Value.obj (n.body.rows Clause.toValue))]
    let inner ← contents g below view.widgets id n
    return .obj (common ++ own ++ inner)

/-- The description of a node down to a depth. -/
def node : Nat → View → NodeId → Except Fault Value
  | 0, _, _ => breakDown .endless
  | depth + 1, view, id => describe g (node depth) view id

/-- The description of a definition, given by its node: that of its content. -/
def definition (widgets : Bool) (id : NodeId) : Except Fault Value :=
  match g.childIds id with
  | [] => .ok .null
  | content :: _ => node g (g.nodes.size + 1) ⟨false, widgets⟩ content

end Signature

namespace Graph

/-- The signature of a graph, with or without the widgets. -/
def signature (g : Graph) (widgets : Bool) : Except Fault Value := do
  let root ← Signature.node g (g.nodes.size + 1) ⟨false, widgets⟩ g.rootId
  let sorted := g.definitions.entries.mergeSort fun a b => a.1 ≤ b.1
  let definitions ← sorted.mapM fun d => return (d.1, ← Signature.definition g widgets d.2)
  return .obj [("root", root), ("definitions", .obj definitions)]

/-- The name of what a graph says: the digest of the canonical text of its signature. -/
def fingerprint (g : Graph) : Except Fault String := do
  let signature ← g.signature false
  return "sha256:" ++ Sha256.hex signature.canonicalJson.toUTF8.toList

end Graph

end FormGraph

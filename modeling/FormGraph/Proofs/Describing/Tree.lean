import FormGraph.Document.Outline
import FormGraph.Graph.Signature

/-!
# What an outline says

The signature of an outline without its widgets, by recursion on the outline. The key and the
required mark of a node stand between two parts that do not depend on where the node hangs, so a
description is given by these two parts.
-/

namespace FormGraph

/-- What a node says, but for its key and its required mark. -/
structure Description where
  /-- What stands before them. -/
  front : Members
  /-- What stands behind them. -/
  back : Members

namespace Description

/-- The description with the key and the required mark, where these are carried. -/
def value (d : Description) (field : Option (String × Bool)) : Value :=
  .obj (d.front ++
    (match field with
      | none => []
      | some (key, required) => [("key", .str key), ("required", .bool required)]) ++ d.back)

end Description

namespace Outline

/-- A node with what it says. -/
abbrev Saying := Node Nat × Description

/-- What a node says as a branch: with its key when it is a field. -/
def sayBranch (sayings : List Saying) (target : Option Nat) : Value :=
  match target.bind fun i => sayings[i]? with
  | none => .null
  | some (n, d) => d.value (if n.isAddressable then some (n.key, n.required) else none)

/-- What a clause says. -/
def sayClause (sayings : List Saying) (c : Clause Nat) : Value :=
  .obj [("condition", .obj c.condition.toMembers), ("then", sayBranch sayings c.onTrue),
    ("else", sayBranch sayings c.onFalse)]

/-- What the children of an object say: the fields with their keys, and the groups. -/
def sayChildren (sayings : List Saying) : Members :=
  [("children", .list ((sayings.filter fun s => !s.1.kind.isGroup).map fun s =>
      s.2.value (some (s.1.key, s.1.required)))),
    ("conditionals", .list ((sayings.filter fun s => s.1.kind.isGroup).map fun s =>
      s.2.value none))]

/-- What hangs below a node as children says. -/
def sayContents (n : Node Nat) (sayings : List Saying) : Members :=
  match n.body with
  | .object _ => sayChildren sayings
  | .array _ => [("children", .list (sayings.map fun s => s.2.value none))]
  | _ => []

/-- What a node says itself: its attributes, or its clauses. -/
def sayOwn (n : Node Nat) (sayings : List Saying) : Members :=
  if n.kind.isGroup then [("clauses", .list (n.clauses.map (sayClause sayings)))]
  else [("attrs", .obj (n.body.rows fun _ => .null))]

/-- What a node says, given what hangs below it. -/
def sayNode (n : Node Nat) (sayings : List Saying) : Description where
  front := [("kind", .str n.kind.name), ("title", n.title), ("description", n.description),
    ("extras", .obj n.extras)] ++ n.default.toList.map fun v => ("default", v)
  back := sayOwn n sayings ++ sayContents n sayings

mutual

/-- What an outline says. -/
def description : Outline → Description
  | mk n bs => sayNode n (sayings bs)

/-- The nodes that hang below a node with what they say. -/
def sayings : List (EdgeKind × Outline) → List Saying
  | [] => []
  | (_, o) :: bs => (o.node, description o) :: sayings bs

end

theorem sayings_eq (bs : List (EdgeKind × Outline)) :
    sayings bs = bs.map fun b => (b.2.node, b.2.description) := by
  induction bs with
  | nil => rfl
  | cons b bs ih =>
    obtain ⟨k, o⟩ := b
    rw [sayings, ih, List.map_cons]

end Outline

/-- What a definition says: what its content does. -/
def DefinitionOutline.signature (e : DefinitionOutline) : Value :=
  e.content.elim .null fun o => o.description.value none

/-- What a document says: what its root does, and its definitions by name. -/
def DocumentOutline.signature (d : DocumentOutline) : Value :=
  .obj [("root", d.root.description.value none),
    ("definitions", .obj ((d.definitions.mergeSort fun a b => a.name ≤ b.name).map fun e =>
      (e.name, e.signature)))]

end FormGraph

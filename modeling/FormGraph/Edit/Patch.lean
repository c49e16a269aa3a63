import FormGraph.Edit.Placement
import FormGraph.Value.Pairs

/-!
# Changing a node

A patch is an object whose members name what changes: the fields that every node has, the attributes
of the node's kind, or, under `attrs`, an object of attributes. What a node is and where it hangs is
not changed by a patch, nor are the clauses of a group and the name of a definition.
-/

namespace FormGraph

namespace Patch

/-- The fields that every node has and that a patch may change. -/
def valueFields : List String :=
  ["key", "title", "description", "required", "default", "widget", "widget_options", "extras"]

/-- The fields that a patch may not change. -/
def fixedFields : List String := ["edge", "id", "kind", "parent_id"]

/-- The fixed fields that a patch names, sorted. -/
def fixedIn (patch : Members) : List String := fixedFields.filter (Entries.has patch)

/-- The attributes that a patch names itself. -/
def ownAttributes (patch : Members) : Members :=
  patch.filter fun e => e.1 ≠ "attrs" && !valueFields.contains e.1

/-- Change the attributes of a body. `others` are names that are no texts, and that no attribute
has. -/
def mergeInto (body : Body NodeId) (attributes : Members) (others : List Value) :
    Except Fault (Body NodeId) := do
  if others.isEmpty then body.merge attributes
  else
    match body.merge attributes, Value.ascending? others with
    | .error (.refused (.unknownAttributes ..)), _ => breakDown .unusableValue
    | _, none => breakDown .unusableValue
    | _, some names => refuse (.unknownAttributes (Body.attributeSetName body.kind) names)

/-- Refuse to change the attributes that operations of their own change, and to point a reference at
a definition that does not exist. -/
def checkAttributes (g : Graph) (id : NodeId) (n : Node NodeId) (attributes : Members) :
    Except Fault Unit := do
  if Entries.has attributes "clauses" then refuse (.clausesInPatch id)
  if n.kind = .definition && Entries.has attributes "name" then
    refuse (.definitionNameInPatch id)
  if n.kind = .reference then
    match Entries.find? attributes "target" with
    | none => return ()
    | some (.str target) =>
      if g.definitions.has target then return () else refuse (.unknownTarget id (.str target))
    | some (.list _) => breakDown .unusableValue
    | some (.obj _) => breakDown .unusableValue
    | some target => refuse (.unknownTarget id target)

/-- The new key of a node: an identifier that no sibling has. -/
def readKey (g : Graph) (id : NodeId) (n : Node NodeId) (patch : Members) :
    Except Fault String :=
  match Entries.find? patch "key" with
  | none => .ok n.key
  | some (.str key) =>
    if key = n.key then .ok key
    else if !Key.isValid key then refuse (.invalidKey (.str key))
    else
      match g.owningEdge id with
      | none => .ok key
      | some e =>
        if e.kind ≠ .child then .ok key
        else do
          let taken ← g.siblingKeys e.source .child (some id)
          if taken.contains key then refuse (.duplicateKey key e.source) else .ok key
  | some v => refuse (.invalidKey (.str v.plain))

/-- Apply the fields of a patch to a node whose body and key are settled. -/
def applyFields (n : Node NodeId) (patch : Members) : Except Fault (Node NodeId) := do
  let field (name : String) (current : Value) : Value := (Entries.find? patch name).getD current
  let widgetOptions ← match Entries.find? patch "widget_options" with
    | none => pure n.widgetOptions
    | some v => Pairs.members <$> Pairs.ofValue v
  let extras ← match Entries.find? patch "extras" with
    | none => pure n.extras
    | some v => Pairs.members <$> Pairs.ofValue v
  return { n with
    title := field "title" n.title
    description := field "description" n.description
    required := ((Entries.find? patch "required").map Value.holds).getD n.required
    default := (Entries.find? patch "default").or n.default
    widget := field "widget" n.widget
    widgetOptions := widgetOptions
    extras := extras }

end Patch

namespace Graph

/-- Change a node as a patch says. -/
def update (g : Graph) (id : NodeId) (patch : Members) : Except Fault Graph := do
  let n ← g.get id
  match Patch.fixedIn patch with
  | [] => pure ()
  | fixed => refuse (.fixedFields id fixed)
  let given ← Pairs.ofValue (Value.member patch "attrs")
  let attributes := Entries.putAll given.named (Patch.ownAttributes patch)
  Patch.checkAttributes g id n attributes
  let body ← Patch.mergeInto n.body attributes given.otherNames
  let key ← Patch.readKey g id n patch
  let changed ← Patch.applyFields { n with body := body, key := key } patch
  return (g.putNode id changed).next

end Graph

end FormGraph

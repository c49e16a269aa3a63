import FormGraph.Graph.Basic
import FormGraph.Widget.Registry

/-!
# The UI document

Beside its document a graph has a UI document: nested like the properties, for each field its widget
and options, and for each object the order of its properties. Fields within the branches of a group
have their entries at the level of the object that the group belongs to, but no place in its order,
and never replace a property's entry.

The two walks, over a field and over the branches of a group, call each other; as for the document,
the recursion is closed over a depth that no path of a tree of nodes exceeds.
-/

namespace FormGraph

namespace UiSchema

/-- What stands for all properties that an order does not name. -/
def wildcard : String := "*"

/-- The options that the items of every array have. -/
def arrayOptions : Members :=
  [("addable", .bool true), ("orderable", .bool true), ("removable", .bool true)]

/-- An order without blank names and repetitions, closed by the wildcard. -/
def withWildcard (order : List String) : List String :=
  let names := distinct ((order.map trimBlanks).filter (· ≠ ""))
  if names.contains wildcard then names else names ++ [wildcard]

variable (g : Graph) (registry : Registry)

/-- The widget named by a node, if the registry knows it. -/
def namedWidget (widget : Value) : Except Fault (Option Widget) :=
  match widget with
  | .str id => .ok (registry.find? id)
  | .list _ => breakDown .unusableValue
  | .obj _ => breakDown .unusableValue
  | _ => .ok none

/-- The widget and the options of a field. A widget that the registry does not know is kept. -/
def widgetEntry (n : Node NodeId) : Except Fault Members := do
  let widget ← if n.widget.holds then namedWidget registry n.widget else registry.select n
  match widget with
  | some w =>
    let options := Entries.putAll w.defaultOptions n.widgetOptions
    return ("ui:widget", .str w.id) ::
      if options.isEmpty then [] else [("ui:options", .obj options)]
  | none =>
    if n.widget.holds then
      return ("ui:widget", n.widget) ::
        if n.widgetOptions.isEmpty then [] else [("ui:options", .obj n.widgetOptions)]
    else return []

/-- The options of an entry with those of every array. -/
def withArrayOptions (entry : Members) : Members :=
  let options := match Value.member entry "ui:options" with
    | .obj options => options
    | _ => []
  Entries.put entry "ui:options" (.obj (Entries.putAll options arrayOptions))

/-- The title of an item. -/
def itemTitle (n : Node NodeId) : Value := if n.title.holds then n.title else .str "Item"

/-- The walk over what hangs below a node. -/
structure Walk where
  /-- The entry of a field. -/
  field : NodeId → Node NodeId → Except Fault Members
  /-- Add the entries of the branches of a group. -/
  branches : NodeId → Members → Except Fault Members

/-- Add the entries of the children of an object, and their order. -/
def objectEntries (walk : Walk) (id : NodeId) (target : Members) : Except Fault Members := do
  let children ← g.children id
  let target ← children.foldlM
    (fun target c =>
      if c.2.kind.isGroup then walk.branches c.1 target
      else return Entries.put target c.2.key (.obj (← walk.field c.1 c.2)))
    target
  let order := (children.filter fun c => !c.2.kind.isGroup).map fun c => c.2.key
  return if order.isEmpty then target
    else Entries.put target "ui:order" (Value.ofStrings (withWildcard order))

/-- The entry of a field. -/
def field (walk : Walk) (id : NodeId) (n : Node NodeId) : Except Fault Members := do
  let entry ← widgetEntry registry n
  match n.body with
  | .object _ =>
    objectEntries g walk id
      (Entries.put (Entries.put entry "ui:collapsible" (.bool true)) "ui:collapsed" (.bool false))
  | .array _ =>
    let entry := withArrayOptions entry
    match ← g.children id with
    | [] => return entry
    | (itemId, item) :: _ =>
      let entry := Entries.put entry "ui:itemTitle" (itemTitle item)
      let itemEntry ← walk.field itemId item
      return if itemEntry.isEmpty then entry else Entries.put entry "items" (.obj itemEntry)
  | _ => return entry

/-- Add the entry of a field within a branch, unless its name is taken. -/
def addField (walk : Walk) (target : Members) (c : NodeId × Node NodeId) : Except Fault Members :=
  if c.2.kind.isGroup then walk.branches c.1 target
  else return Entries.putNew target c.2.key (.obj (← walk.field c.1 c.2))

/-- Add the entries of one branch: of a field, of the fields of an object, or of another group's
branches. -/
def branchEntries (walk : Walk) (target : Members) (e : Edge) : Except Fault Members := do
  if e.kind = .child then return target
  let n ← g.pointedAt e.target
  if n.kind.isGroup then walk.branches e.target target
  else if n.isAddressable then addField walk target (e.target, n)
  else if n.kind = .object then (← g.children e.target).foldlM (addField walk) target
  else return target

/-- The walk down to a depth. -/
def walk : Nat → Walk
  | 0 => ⟨fun _ _ => breakDown .endless, fun _ _ => breakDown .endless⟩
  | depth + 1 =>
    let below := walk depth
    { field := field g registry below
      branches := fun id target => (g.edgesFrom id).foldlM (branchEntries g below) target }

end UiSchema

namespace Graph

/-- The UI document of a graph. -/
def uiSchema (g : Graph) (registry : Registry) : Except Fault Value := do
  let _ ← g.root
  return .obj (← UiSchema.objectEntries g (UiSchema.walk g registry (g.nodes.size + 1)) g.rootId [])

end Graph

end FormGraph

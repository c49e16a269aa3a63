import FormGraph.Node.Basic

/-!
# Widgets

A registry knows the widgets by their names, for each kind of node those that can show it, and rules
that pick a widget for a node. Registering a widget again replaces it in place; a frozen registry
takes nothing more. A node gets the widget of the first rule that matches it, and without one the
first widget for its kind.

What a rule asks of a node is a `Criterion`, so that a registry is a value like any other.
-/

namespace FormGraph

/-- A widget that can show a field. -/
structure Widget where
  /-- The name, which UI documents give. -/
  id : String
  /-- The name to display. -/
  displayName : String
  /-- The kinds of nodes it can show, in order of preference. -/
  kinds : List NodeKind
  /-- The group it is shown in. -/
  category : WidgetCategory := .standard
  /-- The options it has unless a node sets others. -/
  defaultOptions : Members := []
  /-- A help text. -/
  description : Option String := none
  deriving DecidableEq

namespace Widget

/-- The widget as a document value. -/
def toValue (w : Widget) : Value :=
  .obj [("id", .str w.id), ("display_name", .str w.displayName),
    ("compatible_kinds", Value.ofStrings (w.kinds.map NodeKind.name)),
    ("category", .str w.category.name), ("default_config", .obj w.defaultOptions),
    ("description", Value.ofString? w.description)]

end Widget

/-- What a rule asks of a node. -/
inductive Criterion where
  /-- The node is a choice between exactly `yes` and `no`. -/
  | yesNoChoice
  /-- The node is an array of images, by its format or by its key. -/
  | imageArray
  /-- The node is of a kind and has a text in its key, as far as these are given. -/
  | nodeLike (kind : Option String) (keyPart : Option String)
  deriving DecidableEq, Repr

/-- Whether a list of values is exactly `yes` and `no`. A list or an object among two values cannot
be compared. -/
def isYesNo (values : Value) : Except Fault Bool :=
  match values with
  | .list [a, b] =>
    if a.list?.isSome || a.isObj || b.list?.isSome || b.isObj then breakDown .unusableValue
    else .ok ((a = .str "yes" && b = .str "no") || (a = .str "no" && b = .str "yes"))
  | .list _ => .ok false
  | .str _ => .ok false
  | .obj members =>
    .ok (members.length = 2 && Entries.has members "yes" && Entries.has members "no")
  | _ => breakDown .unusableValue

/-- The words in the key of an array of images. -/
def imageWords : List String := ["photo", "image", "gallery"]

namespace Node

/-- Whether the node is a choice between exactly `yes` and `no`. -/
def isYesNoChoice {ρ : Type} (n : Node ρ) : Except Fault Bool :=
  match n.body with
  | .enum a => isYesNo a.values
  | _ => .ok false

/-- Whether the node is an array of images, by its format or by its key. -/
def isImageArray {ρ : Type} (n : Node ρ) : Bool :=
  match n.body with
  | .array _ =>
    Entries.find? n.extras "format" = some (.str "image") ||
      imageWords.any fun word => occursIn word (lowerCase n.key)
  | _ => false

end Node

namespace Criterion

/-- Whether a node is what a rule asks for. -/
def holds {ρ : Type} (c : Criterion) (n : Node ρ) : Except Fault Bool :=
  match c with
  | .yesNoChoice => n.isYesNoChoice
  | .imageArray => .ok n.isImageArray
  | .nodeLike kind keyPart =>
    .ok ((kind.all fun k => n.kind.name = k) && keyPart.all fun part => occursIn part n.key)

end Criterion

/-- A rule that picks a widget for the nodes that are what it asks for. -/
structure WidgetRule where
  /-- What the rule asks of a node. -/
  criterion : Criterion
  /-- The widget it picks. -/
  widgetId : String
  /-- What the rule is called. -/
  name : Option String := none
  deriving DecidableEq, Repr

/-- The widgets, the widgets by kind, and the rules. -/
structure Registry where
  /-- The widgets by name. -/
  widgets : Table Widget := Table.empty
  /-- For each kind that has any, the names of the widgets that can show it. -/
  byKind : List (NodeKind × List String) := []
  /-- The rules, in the order they are asked. -/
  rules : List WidgetRule := []
  /-- Whether the registry takes nothing more. -/
  frozen : Bool := false
  deriving DecidableEq

/-- A step that changes the registry. What was changed before a step fails stays changed. -/
abbrev Registration := ExceptT Fault (StateM Registry)

namespace Registry

/-- The registry without widgets. -/
def empty : Registry := {}

/-- The names of the widgets for a kind. -/
def idsFor (r : Registry) (kind : NodeKind) : List String :=
  ((r.byKind.find? fun e => e.1 = kind).map (·.2)).getD []

/-- Replace the names for a kind. -/
def setIds (byKind : List (NodeKind × List String)) (kind : NodeKind) (ids : List String) :
    List (NodeKind × List String) :=
  if byKind.any fun e => e.1 = kind then
    byKind.map fun e => if e.1 = kind then (kind, ids) else e
  else byKind ++ [(kind, ids)]

/-- Take a widget off the lists of the kinds it no longer shows. Where a kind does not list it the
walk ends, and what it was taken off before it stays off; a widget that names a kind twice is listed
there once. -/
def withdraw (id : String) : List NodeKind → Registration Unit
  | [] => pure ()
  | kind :: kinds => do
    let r ← get
    if !(r.idsFor kind).contains id then throw .unlistedWidget
    set { r with byKind := setIds r.byKind kind ((r.idsFor kind).erase id) }
    withdraw id kinds

/-- Put a widget at the end of the kinds that do not list it yet. -/
def enlist (r : Registry) (id : String) (kinds : List NodeKind) : Registry :=
  kinds.foldl
    (fun r k =>
      if (r.idsFor k).contains id then r
      else { r with byKind := setIds r.byKind k (r.idsFor k ++ [id]) })
    r

/-- The kinds that a registered widget shows and the new one of that name does not. -/
def droppedKinds (r : Registry) (w : Widget) : List NodeKind :=
  match r.widgets.find? w.id with
  | some old => old.kinds.filter fun k => !w.kinds.contains k
  | none => []

/-- Register a widget; one of the same name is replaced. -/
def register (w : Widget) : Registration Unit := do
  let r ← get
  if r.frozen then throw (.refused (.frozenWidget w.id))
  withdraw w.id (r.droppedKinds w)
  modify fun r => { r with widgets := r.widgets.put w.id w }.enlist w.id w.kinds

/-- The registry after a registration, whether or not it went through. -/
def registered (r : Registry) (w : Widget) : Registry := ((register w).run.run r).2

/-- Add a rule behind the others. -/
def addRule (r : Registry) (rule : WidgetRule) : Except Fault Registry :=
  if r.frozen then refuse (.frozenRule rule.widgetId)
  else if r.widgets.has rule.widgetId then .ok { r with rules := r.rules ++ [rule] }
  else refuse (.unknownWidget rule.widgetId)

/-- Take nothing more. -/
def freeze (r : Registry) : Registry := { r with frozen := true }

/-- The widget of that name. -/
def find? (r : Registry) (id : String) : Option Widget := r.widgets.find? id

/-- The widget of that name, or a refusal. -/
def require (r : Registry) (id : String) : Except Fault Widget :=
  match r.find? id with
  | some w => .ok w
  | none => refuse (.unknownWidget id)

/-- The widgets that can show a kind. -/
def compatible (r : Registry) (kind : NodeKind) : List Widget :=
  (r.idsFor kind).filterMap r.find?

/-- The widgets of a category. -/
def ofCategory (r : Registry) (category : WidgetCategory) : List Widget :=
  r.widgets.values.filter fun w => w.category = category

/-- The first rule that a node is what it asks for. -/
def firstRule {ρ : Type} (n : Node ρ) : List WidgetRule → Except Fault (Option WidgetRule)
  | [] => .ok none
  | rule :: rules => do
    if ← rule.criterion.holds n then return some rule
    else firstRule n rules

/-- The widget for a node. -/
def select {ρ : Type} (r : Registry) (n : Node ρ) : Except Fault (Option Widget) := do
  match ← firstRule n r.rules with
  | some rule => return r.find? rule.widgetId
  | none => return (r.idsFor n.kind).head?.bind r.find?

/-- The widgets that every form can use. -/
def standardWidgets : List Widget :=
  [{ id := "text", displayName := "Text Input", kinds := [.string],
     description := some "Standard single-line text input" },
   { id := "textarea", displayName := "Textarea", kinds := [.string],
     description := some "Multi-line text input" },
   { id := "select", displayName := "Select Dropdown", kinds := [.string, .enum],
     description := some "Dropdown select menu" },
   { id := "checkbox", displayName := "Checkbox", kinds := [.boolean],
     description := some "Single checkbox input" },
   { id := "number", displayName := "Number Input", kinds := [.number],
     description := some "Number input field" },
   { id := "yesno", displayName := "Yes/No Select", kinds := [.enum, .string],
     category := .specialized,
     defaultOptions := [("enumOptions", .list
       [.obj [("value", .str "yes"), ("label", .str "Yes")],
        .obj [("value", .str "no"), ("label", .str "No")]])],
     description := some "Yes/No selection widget for enum fields" },
   { id := "photo-gallery", displayName := "Photo Gallery", kinds := [.array],
     category := .specialized,
     defaultOptions := [("addable", .bool true), ("orderable", .bool true),
       ("removable", .bool true)],
     description := some "Image upload with gallery view for array fields" }]

/-- The rules that every form can use. -/
def standardRules : List WidgetRule :=
  [{ criterion := .yesNoChoice, widgetId := "yesno", name := some "yes-no enum" },
   { criterion := .imageArray, widgetId := "photo-gallery", name := some "image array" }]

/-- The registry of the standard widgets and rules. -/
def standard : Registry :=
  let widgets := standardWidgets.foldl registered empty
  standardRules.foldl (fun r rule => (r.addRule rule).toOption.getD r) widgets

end Registry

end FormGraph

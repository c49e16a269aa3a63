import FormGraph.Node.Attributes
import FormGraph.Node.Condition

/-!
# Nodes

A node is one part of a form: a field, an object or array of fields, a conditional group, a named
definition, or a reference to one. What distinguishes the kinds is the `Body`: a node cannot have
the attributes of another kind, because the kind is read off the body.

A node does not carry its own name; the graph that holds it does. The parameter `ρ` is what the
clauses of a group point at.
-/

namespace FormGraph

/-- What a node says as a node of its kind. -/
inductive Body (ρ : Type) where
  /-- A text field. -/
  | string (attributes : StringAttributes)
  /-- A number field. -/
  | number (attributes : NumberAttributes)
  /-- A yes-or-no field. -/
  | boolean
  /-- A choice among values. -/
  | enum (attributes : EnumAttributes)
  /-- An object with properties. -/
  | object (attributes : ObjectAttributes)
  /-- An array of items. -/
  | array (attributes : ArrayAttributes)
  /-- A conditional group. -/
  | group (kind : GroupKind) (clauses : List (Clause ρ))
  /-- A named definition; its name is a text, unless the request gave something else. -/
  | definition (name : Value)
  /-- A reference to a definition of that name, or to none. -/
  | reference (target : Value)
  deriving DecidableEq

namespace Body

variable {ρ τ : Type}

/-- The kind of a node with this body. -/
def kind : Body ρ → NodeKind
  | .string _ => .string
  | .number _ => .number
  | .boolean => .boolean
  | .enum _ => .enum
  | .object _ => .object
  | .array _ => .array
  | .group g _ => .group g
  | .definition _ => .definition
  | .reference _ => .reference

/-- The clauses of a group; nothing else has any. -/
def clauses : Body ρ → List (Clause ρ)
  | .group _ cs => cs
  | _ => []

/-- The body of a new node. -/
def initial : NodeKind → Body ρ
  | .string => .string StringAttributes.set.initial
  | .number => .number NumberAttributes.set.initial
  | .boolean => .boolean
  | .enum => .enum EnumAttributes.set.initial
  | .object => .object ObjectAttributes.set.initial
  | .array => .array ArrayAttributes.set.initial
  | .group g => .group g []
  | .definition => .definition (.str "")
  | .reference => .reference (.str "")

@[simp] theorem kind_initial (k : NodeKind) : (initial k : Body ρ).kind = k := by
  cases k <;> rfl

/-- The body that a document fragment stands for, read as a node of the given kind. -/
def ofFragment (k : NodeKind) (fragment : Members) : Body ρ :=
  match k with
  | .string => .string (StringAttributes.set.ofFragment fragment)
  | .number => .number (NumberAttributes.set.ofFragment fragment)
  | .enum => .enum (EnumAttributes.set.ofFragment fragment)
  | .object => .object (ObjectAttributes.set.ofFragment fragment)
  | .array => .array (ArrayAttributes.set.ofFragment fragment)
  | k => initial k

@[simp] theorem kind_ofFragment (k : NodeKind) (fragment : Members) :
    (ofFragment k fragment : Body ρ).kind = k := by
  cases k <;> rfl

/-- The keywords that a node of the given kind reads as attributes. -/
def vocabulary : NodeKind → List String
  | .string => StringAttributes.set.vocabulary
  | .number => NumberAttributes.set.vocabulary
  | .enum => EnumAttributes.set.vocabulary
  | .object => ObjectAttributes.set.vocabulary
  | .array => ArrayAttributes.set.vocabulary
  | _ => []

/-- The name of the attribute set of a kind. -/
def attributeSetName : NodeKind → String
  | .string => StringAttributes.set.name
  | .number => NumberAttributes.set.name
  | .boolean => "BooleanAttrs"
  | .enum => EnumAttributes.set.name
  | .object => ObjectAttributes.set.name
  | .array => ArrayAttributes.set.name
  | .group _ => "ConditionalAttrs"
  | .definition => "DefinitionAttrs"
  | .reference => "ReferenceAttrs"

/-- The attributes that are set, by keyword. -/
def keywords : Body ρ → Members
  | .string a => StringAttributes.set.keywords a
  | .number a => NumberAttributes.set.keywords a
  | .enum a => EnumAttributes.set.keywords a
  | .object a => ObjectAttributes.set.keywords a
  | .array a => ArrayAttributes.set.keywords a
  | _ => []

/-- The attributes that are set, by name; the clauses of a group count as one. -/
def rows (showClause : Clause ρ → Value) : Body ρ → Members
  | .string a => StringAttributes.set.rows a
  | .number a => NumberAttributes.set.rows a
  | .boolean => []
  | .enum a => EnumAttributes.set.rows a
  | .object a => ObjectAttributes.set.rows a
  | .array a => ArrayAttributes.set.rows a
  | .group _ cs => [("clauses", .list (cs.map showClause))]
  | .definition name => if name.isNull then [] else [("name", name)]
  | .reference target => if target.isNull then [] else [("target", target)]

/-- The single attribute of a definition, a reference or a group, as a set of its own. -/
def loneAttribute (k : NodeKind) (name : String) (current : Value) : AttributeSet Value where
  name := attributeSetName k
  fields := [⟨name, name, id, fun _ v => v⟩]
  initial := current

/-- Change attributes. The clauses of a group are changed by operations of their own: here they can
only be cleared. -/
def merge (b : Body ρ) (changes : Members) : Except Fault (Body ρ) :=
  match b with
  | .string a => return .string (← StringAttributes.set.merge a changes)
  | .number a => return .number (← NumberAttributes.set.merge a changes)
  | .boolean => do
    let _ ← ({ name := attributeSetName .boolean, fields := [], initial := () } :
      AttributeSet Unit).merge () changes
    return .boolean
  | .enum a => return .enum (← EnumAttributes.set.merge a changes)
  | .object a => return .object (← ObjectAttributes.set.merge a changes)
  | .array a => return .array (← ArrayAttributes.set.merge a changes)
  | .group g cs => do
    let merged ← (loneAttribute (.group g) "clauses" .null).merge .null changes
    match merged with
    | .null => return .group g cs
    | .list [] => return .group g []
    | _ => breakDown .unusableValue
  | .definition name => do
    return .definition (← (loneAttribute .definition "name" name).merge name changes)
  | .reference target => do
    return .reference (← (loneAttribute .reference "target" target).merge target changes)

/-- A body made for some kind as the body of a node of the given kind: the attributes have to be
those of the kind. All groups have the same attributes. -/
def forKind (b : Body ρ) (nodeId : String) (k : NodeKind) : Except Fault (Body ρ) :=
  if attributeSetName k = attributeSetName b.kind then
    match k, b with
    | .group g, .group _ cs => .ok (.group g cs)
    | _, b => .ok b
  else .error (.attributesMismatch nodeId k (attributeSetName k) (attributeSetName b.kind))

/-- Give the branches of a group's clauses other names. -/
def mapClauses (f : Clause ρ → Clause τ) : Body ρ → Body τ
  | .string a => .string a
  | .number a => .number a
  | .boolean => .boolean
  | .enum a => .enum a
  | .object a => .object a
  | .array a => .array a
  | .group g cs => .group g (cs.map f)
  | .definition name => .definition name
  | .reference target => .reference target

@[simp] theorem kind_mapClauses (f : Clause ρ → Clause τ) (b : Body ρ) :
    (b.mapClauses f).kind = b.kind := by
  cases b <;> rfl

end Body

/-- One part of a form. -/
structure Node (ρ : Type) where
  /-- The property name in the document. -/
  key : String
  /-- What the node says as a node of its kind. -/
  body : Body ρ
  /-- The title, `null` when there is none. -/
  title : Value := .null
  /-- The description, `null` when there is none. -/
  description : Value := .null
  /-- Whether the parent requires the property. -/
  required : Bool := false
  /-- The default value; a default of `null` is one. -/
  default : Option Value := none
  /-- The chosen widget, `null` when none is. -/
  widget : Value := .null
  /-- Options passed to the widget. -/
  widgetOptions : Members := []
  /-- Document keywords that the library does not interpret. -/
  extras : Members := []
  deriving DecidableEq

namespace Node

variable {ρ τ : Type}

/-- The kind of the node. -/
def kind (n : Node ρ) : NodeKind := n.body.kind

/-- The clauses of a group; nothing else has any. -/
def clauses (n : Node ρ) : List (Clause ρ) := n.body.clauses

/-- Whether the node is written under its own property name when it is a branch. -/
def isAddressable (n : Node ρ) : Bool := n.kind.isAddressable

/-- The definition that a reference points at. -/
def target? (n : Node ρ) : Option Value :=
  match n.body with
  | .reference target => some target
  | _ => none

/-- Replace the clauses of a group; other nodes stay as they are. -/
def setClauses (n : Node ρ) (cs : List (Clause ρ)) : Node ρ :=
  match n.body with
  | .group g _ => { n with body := .group g cs }
  | _ => n

/-- Give the branches of a group's clauses other names. -/
def mapClauses (f : Clause ρ → Clause τ) (n : Node ρ) : Node τ where
  key := n.key
  body := n.body.mapClauses f
  title := n.title
  description := n.description
  required := n.required
  default := n.default
  widget := n.widget
  widgetOptions := n.widgetOptions
  extras := n.extras

@[simp] theorem kind_mapClauses (f : Clause ρ → Clause τ) (n : Node ρ) :
    (n.mapClauses f).kind = n.kind :=
  Body.kind_mapClauses f n.body

@[simp] theorem kind_setClauses (n : Node ρ) (cs : List (Clause ρ)) :
    (n.setClauses cs).kind = n.kind := by
  obtain ⟨_, body, _, _, _, _, _, _, _⟩ := n
  cases body <;> rfl

/-- The node of the definition `name`. -/
def ofDefinition (name : String) : Node ρ where
  key := name
  body := .definition (.str name)

end Node

/-- The name of a node within a graph. -/
abbrev NodeId := String

/-- The node with its name, as a document value: what is not set is left out. -/
def Node.toValue (n : Node NodeId) (id : NodeId) : Value :=
  let optional (name : String) (v : Value) : Members := if v.isNull then [] else [(name, v)]
  let filled (name : String) (ms : Members) : Members :=
    if ms.isEmpty then [] else [(name, .obj ms)]
  .obj ([("id", .str id), ("key", .str n.key), ("kind", .str n.kind.name),
      ("required", .bool n.required), ("attrs", .obj (n.body.rows Clause.toValue))] ++
    optional "title" n.title ++ optional "description" n.description ++
    n.default.toList.map (fun v => ("default", v)) ++ optional "widget" n.widget ++
    filled "widget_options" n.widgetOptions ++ filled "extras" n.extras)

/-- A node that is to be created: it has no key yet, unless the caller chose one. -/
structure Draft where
  /-- What the node will say as a node of its kind. -/
  body : Body NodeId
  /-- The title, `null` when there is none. -/
  title : Value := .null
  /-- The key, `null` when the caller chose none. -/
  key : Value := .null
  /-- The description, `null` when there is none. -/
  description : Value := .null
  /-- Whether the parent will require the property. -/
  required : Bool := false
  /-- The default value. -/
  default : Option Value := none
  /-- The chosen widget, `null` when none is. -/
  widget : Value := .null
  /-- Options passed to the widget. -/
  widgetOptions : Members := []
  /-- Document keywords that the library does not interpret. -/
  extras : Members := []
  deriving DecidableEq

namespace Draft

/-- The kind of the node to be created. -/
def kind (d : Draft) : NodeKind := d.body.kind

/-- The node, under the key found for it. -/
def build (d : Draft) (key : String) : Node NodeId where
  key := key
  body := d.body
  title := d.title
  description := d.description
  required := d.required
  default := d.default
  widget := d.widget
  widgetOptions := d.widgetOptions
  extras := d.extras

@[simp] theorem kind_build (d : Draft) (key : String) : (d.build key).kind = d.kind := rfl

end Draft

end FormGraph

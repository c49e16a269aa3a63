/-!
# Kinds

What a node can be, how it can hang below another node, and the other closed vocabularies of the
library: the operators of a condition, what happens to references when their definition goes, how a
list of item schemas is read, and the groups that widgets are shown in.

Each vocabulary lists its members in the order messages give them, with the name each member has in
documents and requests.
-/

namespace FormGraph

/-- A closed vocabulary: its members, their names, and how messages speak of it. -/
structure Vocabulary (α : Type) where
  /-- What one member is called. -/
  noun : String
  /-- What the members are called. -/
  plural : String
  /-- The members, in the order messages list them. -/
  all : List α
  /-- The name of a member. -/
  name : α → String
  /-- Whether capital letters are read as small ones. -/
  foldsCase : Bool := false

/-- The conditional groups: an `if` block, and the three lists of conditional clauses. -/
inductive GroupKind where
  | ifBlock
  | allOf
  | anyOf
  | oneOf
  deriving DecidableEq, Repr, Inhabited

namespace GroupKind

/-- The document keyword of the group. -/
def name : GroupKind → String
  | .ifBlock => "if"
  | .allOf => "allOf"
  | .anyOf => "anyOf"
  | .oneOf => "oneOf"

end GroupKind

/-- What a node is. -/
inductive NodeKind where
  | string
  | number
  | boolean
  | enum
  | object
  | array
  | group (g : GroupKind)
  | definition
  | reference
  deriving DecidableEq, Repr, Inhabited

namespace NodeKind

/-- The name of the kind. -/
def name : NodeKind → String
  | .string => "string"
  | .number => "number"
  | .boolean => "boolean"
  | .enum => "enum"
  | .object => "object"
  | .array => "array"
  | .group g => g.name
  | .definition => "definition"
  | .reference => "reference"

/-- Every kind. -/
def vocabulary : Vocabulary NodeKind where
  noun := "node kind"
  plural := "kinds"
  all := [.string, .number, .boolean, .enum, .object, .array, .group .ifBlock, .group .allOf,
    .group .anyOf, .group .oneOf, .definition, .reference]
  name := name

/-- Whether the node is a conditional group. -/
def isGroup : NodeKind → Bool
  | .group _ => true
  | _ => false

/-- Whether a node of this kind never has children. -/
def isLeaf : NodeKind → Bool
  | .string | .number | .boolean | .enum | .reference => true
  | _ => false

/-- Whether the kind is written as a document type of the same name. -/
def isTyped : NodeKind → Bool
  | .string | .number | .boolean | .object | .array => true
  | _ => false

/-- Whether a branch of this kind is written under its own property name. -/
def isAddressable : NodeKind → Bool
  | .string | .number | .boolean | .enum | .array => true
  | _ => false

/-- The key of a node that has no title to derive one from. -/
def fallbackKey : NodeKind → String
  | .group .ifBlock => "condition"
  | .group .allOf => "all_of"
  | .group .anyOf => "any_of"
  | .group .oneOf => "one_of"
  | .reference => "reference"
  | _ => "field"

end NodeKind

/-- How a node hangs below another: as a child, or as a branch of a conditional group. -/
inductive EdgeKind where
  | child
  | thenBranch
  | elseBranch
  deriving DecidableEq, Repr, Inhabited

namespace EdgeKind

/-- The name of the edge kind. -/
def name : EdgeKind → String
  | .child => "child"
  | .thenBranch => "then"
  | .elseBranch => "else"

/-- Every edge kind. -/
def vocabulary : Vocabulary EdgeKind where
  noun := "edge kind"
  plural := "kinds"
  all := [.child, .thenBranch, .elseBranch]
  name := name

/-- Whether the edge leads to a branch of a group. -/
def isBranch : EdgeKind → Bool
  | .child => false
  | _ => true

end EdgeKind

/-- How a condition compares its field. -/
inductive Operator where
  | equals
  | notEquals
  | greaterThan
  | lessThan
  | greaterEqual
  | lessEqual
  | contains
  | startsWith
  | endsWith
  | empty
  | notEmpty
  deriving DecidableEq, Repr, Inhabited

namespace Operator

/-- The name of the operator. -/
def name : Operator → String
  | .equals => "equals"
  | .notEquals => "not_equals"
  | .greaterThan => "greater_than"
  | .lessThan => "less_than"
  | .greaterEqual => "greater_equal"
  | .lessEqual => "less_equal"
  | .contains => "contains"
  | .startsWith => "starts_with"
  | .endsWith => "ends_with"
  | .empty => "empty"
  | .notEmpty => "not_empty"

/-- Every operator. -/
def vocabulary : Vocabulary Operator where
  noun := "condition operator"
  plural := "operators"
  all := [.equals, .notEquals, .greaterThan, .lessThan, .greaterEqual, .lessEqual, .contains,
    .startsWith, .endsWith, .empty, .notEmpty]
  name := name

/-- Whether the operator compares with an operand. -/
def takesOperand : Operator → Bool
  | .empty | .notEmpty => false
  | _ => true

end Operator

/-- What happens to the references of a definition that is removed. -/
inductive RemovalPolicy where
  /-- They stay and point nowhere; a warning is given. -/
  | allow
  /-- The removal is refused while there are any. -/
  | refuse
  /-- They are removed too. -/
  | cascade
  /-- Each becomes a copy of the definition's content. -/
  | inlined
  deriving DecidableEq, Repr, Inhabited

namespace RemovalPolicy

/-- The name of the policy. -/
def name : RemovalPolicy → String
  | .allow => "allow"
  | .refuse => "refuse"
  | .cascade => "cascade"
  | .inlined => "inline"

/-- Every policy. -/
def vocabulary : Vocabulary RemovalPolicy where
  noun := "definition removal policy"
  plural := "policies"
  all := [.allow, .refuse, .cascade, .inlined]
  name := name
  foldsCase := true

end RemovalPolicy

/-- How a list of item schemas is read. -/
inductive TupleItems where
  /-- The document is refused. -/
  | reject
  /-- The first schema is taken for all items, with a warning. -/
  | first
  deriving DecidableEq, Repr, Inhabited

namespace TupleItems

/-- The name of the policy. -/
def name : TupleItems → String
  | .reject => "reject"
  | .first => "first"

/-- Every policy. -/
def vocabulary : Vocabulary TupleItems where
  noun := "tuple items policy"
  plural := "policies"
  all := [.reject, .first]
  name := name
  foldsCase := true

end TupleItems

/-- The groups that widgets are shown in. -/
inductive WidgetCategory where
  | standard
  | custom
  | specialized
  deriving DecidableEq, Repr, Inhabited

namespace WidgetCategory

/-- The name of the category. -/
def name : WidgetCategory → String
  | .standard => "standard"
  | .custom => "custom"
  | .specialized => "specialized"

/-- Every category. -/
def vocabulary : Vocabulary WidgetCategory where
  noun := "widget category"
  plural := "categories"
  all := [.standard, .custom, .specialized]
  name := name

end WidgetCategory

/-- Whether a parent takes a new child over an edge, given the kinds of the children it has: a
branch only hangs below a group, an object takes anything, an array more of what it has, and a
definition one node. A definition hangs nowhere. -/
def canAccept (parent child : NodeKind) (existing : List NodeKind) (edge : EdgeKind) : Bool :=
  if child = .definition then false
  else if edge.isBranch then parent.isGroup
  else
    match parent with
    | .object => true
    | .array =>
      match existing with
      | [] => true
      | first :: _ => first = child
    | .definition => existing.isEmpty
    | _ => false

/-- Whether nodes of a kind can ever hold something over an edge. -/
def isContainer (kind : NodeKind) (edge : EdgeKind) : Bool :=
  if edge.isBranch then kind.isGroup
  else kind = .object || kind = .array || kind = .definition

end FormGraph

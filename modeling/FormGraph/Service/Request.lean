import FormGraph.Service.Form
import FormGraph.Store

/-!
# Requests

What a client can ask of the service, as a value with its parts read, and how it is found from the
method, the path, the query and the body of a call. Paths are lists of segments below the service's
root; a segment that names a node, a definition or a clause is never empty.

An `Endpoint` is what answers under one method and path. It says whether it has a body, and reads
the request from the query and the body.
-/

namespace FormGraph

/-- The contents of a node to be created, as a client gives them. -/
structure DraftForm where
  /-- The name of the kind. -/
  kind : String
  /-- The title. -/
  title : Option String
  /-- The key, when the client chose one. -/
  key : Option String
  /-- The description. -/
  description : Option String
  /-- Whether the parent will require the property. -/
  required : Bool
  /-- The default value; a default of `null` is one. -/
  default : Option Value
  /-- The chosen widget. -/
  widget : Option String
  /-- Options passed to the widget. -/
  widgetOptions : Members
  /-- Document keywords that the library does not interpret. -/
  extras : Members
  /-- The attributes of the kind. -/
  attributes : Members

namespace DraftForm

/-- The draft, if there is such a kind and it has such attributes. -/
def toDraft (f : DraftForm) : Except Fault Draft := do
  let kind ← NodeKind.vocabulary.read f.kind
  return {
    body := ← (Body.initial kind).merge f.attributes
    title := Value.ofString? f.title
    key := Value.ofString? f.key
    description := Value.ofString? f.description
    required := f.required
    default := f.default
    widget := Value.ofString? f.widget
    widgetOptions := f.widgetOptions
    extras := f.extras }

/-- Read the contents of a node at a place. -/
def read (place : String) (ms : Members) : Form DraftForm :=
  DraftForm.mk
    <$> Form.required place ms "kind" FieldReader.text
    <*> Form.nullable place ms "title" FieldReader.text
    <*> Form.nullable place ms "key" FieldReader.text
    <*> Form.nullable place ms "description" FieldReader.text
    <*> Form.withDefault place ms "required" FieldReader.truth false
    <*> Form.optional place ms "default" FieldReader.any ["default_value"]
    <*> Form.nullable place ms "widget" FieldReader.text
    <*> Form.withDefault place ms "widget_options" FieldReader.members []
    <*> Form.withDefault place ms "extras" FieldReader.members []
    <*> Form.withDefault place ms "attrs" FieldReader.members []

end DraftForm

/-- A clause, or a part of one: what is `none` was not given. -/
structure ClauseForm where
  /-- The condition. -/
  condition : Option (Option Members)
  /-- The branch when the condition holds. -/
  onTrue : Option (Option NodeId)
  /-- The branch when it does not. -/
  onFalse : Option (Option NodeId)

namespace ClauseForm

/-- Read a clause at a place. -/
def read (place : String) (ms : Members) : Form ClauseForm :=
  ClauseForm.mk
    <$> Form.optional place ms "condition" FieldReader.members.nullable
    <*> Form.optional place ms "then" FieldReader.text.nullable
    <*> Form.optional place ms "else" FieldReader.text.nullable ["else_"]

/-- The whole clause. -/
def toClause (f : ClauseForm) : Members :=
  [("condition", .obj (f.condition.join.getD [])), ("then", Value.ofString? f.onTrue.join),
    ("else", Value.ofString? f.onFalse.join)]

/-- What was given of the clause. -/
def toPatch (f : ClauseForm) : Members :=
  (f.condition.map fun c => ("condition", Value.obj (c.getD []))).toList ++
  (f.onTrue.map fun t => ("then", Value.ofString? t)).toList ++
  (f.onFalse.map fun t => ("else", Value.ofString? t)).toList

end ClauseForm

/-- A request to the service. -/
inductive Request where
  /-- Whether the service is up. -/
  | health
  /-- The current graph. -/
  | getGraph
  /-- Start over with an empty graph. -/
  | reset (title : Option String)
  /-- What is wrong with the current graph. -/
  | check
  /-- One node. -/
  | getNode (id : NodeId)
  /-- Create a node. -/
  | createNode (draft : DraftForm) (parentId : NodeId) (edge : String) (index : Option Int)
  /-- Change a node. -/
  | updateNode (id : NodeId) (patch : Members)
  /-- Remove a node. -/
  | removeNode (id : NodeId)
  /-- Move a node. -/
  | moveNode (id parentId : NodeId) (edge : String) (index : Option Int)
  /-- Put a child in order among its siblings. -/
  | reorderNode (id : NodeId) (index : Int)
  /-- Create a group. -/
  | createGroup (kind : String) (parentId : NodeId) (title description : Option String)
    (index : Option Int)
  /-- Append a clause. -/
  | appendClause (id : NodeId) (clause : ClauseForm)
  /-- Change a clause. -/
  | updateClause (id : NodeId) (index : Int) (patch : ClauseForm)
  /-- Remove a clause. -/
  | removeClause (id : NodeId) (index : Int) (prune : Bool)
  /-- Give every clause of a group the same branches. -/
  | synchronize (id : NodeId) (onTrue onFalse : Option (Option NodeId))
  /-- All definitions. -/
  | getDefinitions
  /-- Create a definition. -/
  | createDefinition (name : String) (content : Option DraftForm)
  /-- Turn a node into a definition. -/
  | promote (id : NodeId) (name : String)
  /-- Rename a definition. -/
  | renameDefinition (old new : String)
  /-- Remove a definition. -/
  | removeDefinition (name : String) (policy : Option String)
  /-- The document of the current graph. -/
  | getDocument
  /-- The UI document of the current graph. -/
  | getUiDocument
  /-- The bundle of the current graph. -/
  | getBundle
  /-- Screen a bundle. -/
  | screenBundle (payload : Members)
  /-- Put what a bundle holds in the place of the current graph. -/
  | importBundle (schema : Members) (ui formData : Option Members)
  /-- The widgets, or those for one kind of node. -/
  | getWidgets (kind : Option String)
  /-- The widget for a node. -/
  | getWidgetFor (id : NodeId)

namespace Request

/-- Whether a request that is met makes something that was not there before. -/
def creates : Request → Bool
  | .createNode .. | .createGroup .. | .appendClause .. | .createDefinition .. | .promote .. => true
  | _ => false

end Request

/-- The named texts of a query. -/
abbrev Query := List (String × String)

/-- What answers under one method and path. -/
structure Endpoint where
  /-- Whether it has a body. -/
  hasBody : Bool
  /-- Read the request from the query and the body. -/
  read : Query → Form Members → Form Request

namespace Endpoint

/-- The place of the body. -/
def bodyPlace : String := "body"

/-- An endpoint without a body. -/
def plain (request : Request) : Endpoint := ⟨false, fun _ _ => .filled request⟩

/-- An endpoint without a body that looks at the query. -/
def asking (read : Query → Form Request) : Endpoint := ⟨false, fun query _ => read query⟩

/-- An endpoint with a body. -/
def taking (read : Members → Form Request) : Endpoint := ⟨true, fun _ body => body.andThen read⟩

/-- Read a request to create a node. -/
def createNode (ms : Members) : Form Request :=
  Request.createNode
    <$> DraftForm.read bodyPlace ms
    <*> Form.required bodyPlace ms "parent_id" FieldReader.text
    <*> Form.withDefault bodyPlace ms "edge" FieldReader.text "child"
    <*> Form.nullable bodyPlace ms "index" FieldReader.integer

/-- Read a request to move a node. -/
def moveNode (id : NodeId) (ms : Members) : Form Request :=
  Request.moveNode id
    <$> Form.required bodyPlace ms "parent_id" FieldReader.text
    <*> Form.withDefault bodyPlace ms "edge" FieldReader.text "child"
    <*> Form.nullable bodyPlace ms "index" FieldReader.integer

/-- Read a request to create a group. -/
def createGroup (ms : Members) : Form Request :=
  Request.createGroup
    <$> Form.required bodyPlace ms "kind" FieldReader.text
    <*> Form.required bodyPlace ms "parent_id" FieldReader.text
    <*> Form.nullable bodyPlace ms "title" FieldReader.text
    <*> Form.nullable bodyPlace ms "description" FieldReader.text
    <*> Form.nullable bodyPlace ms "index" FieldReader.integer

/-- Read a request to synchronize the branches of a group. -/
def synchronize (id : NodeId) (ms : Members) : Form Request :=
  Request.synchronize id
    <$> Form.optional bodyPlace ms "then" FieldReader.text.nullable
    <*> Form.optional bodyPlace ms "else" FieldReader.text.nullable ["else_"]

/-- Read the content of a definition to be created. -/
def definitionContent (ms : Members) : Form (Option DraftForm) :=
  match Value.member ms "content" with
  | .null => .filled none
  | .obj content => some <$> DraftForm.read (bodyPlace ++ ".content") content
  | _ => .invalid [bodyPlace ++ ".content"]

/-- Read a request to create a definition. -/
def createDefinition (ms : Members) : Form Request :=
  Request.createDefinition
    <$> Form.required bodyPlace ms "name" FieldReader.text
    <*> definitionContent ms

/-- Read a request to turn a node into a definition. -/
def promote (ms : Members) : Form Request :=
  Request.promote
    <$> Form.required bodyPlace ms "node_id" FieldReader.text
    <*> Form.required bodyPlace ms "name" FieldReader.text

/-- Read a request to import a bundle. -/
def importBundle (ms : Members) : Form Request :=
  Request.importBundle
    <$> Form.required bodyPlace ms "schema" FieldReader.members ["schema_"]
    <*> Form.nullable bodyPlace ms "uiSchema" FieldReader.members ["ui_schema"]
    <*> Form.nullable bodyPlace ms "formData" FieldReader.members ["form_data"]

/-- What a query says that is not blank. -/
def chosen (query : Query) (name : String) : Option String :=
  (Entries.find? query name).filter (· ≠ "")

/-- An endpoint that changes a clause at a position. -/
def updateClause (id index : String) : Endpoint where
  hasBody := true
  read _ body :=
    Request.updateClause id
      <$> Form.pathInteger "index" index
      <*> body.andThen (ClauseForm.read bodyPlace)

/-- An endpoint that removes a clause at a position. -/
def removeClause (id index : String) : Endpoint :=
  asking fun query =>
    Request.removeClause id
      <$> Form.pathInteger "index" index
      <*> Form.queryTruth query "prune"

/-- The endpoint under a method and a path below the editing root. -/
def editing? (method : String) (path : List String) : Option Endpoint :=
  match method, path with
  | "GET", ["graph"] => some (plain .getGraph)
  | "POST", ["graph", "reset"] => some (taking fun ms =>
      Request.reset <$> Form.nullable bodyPlace ms "title" FieldReader.text)
  | "GET", ["graph", "check"] => some (plain .check)
  | "GET", ["nodes", id] => some (plain (.getNode id))
  | "POST", ["nodes"] => some (taking createNode)
  | "PATCH", ["nodes", id] => some (taking fun ms =>
      Request.updateNode id <$> Form.required bodyPlace ms "patch" FieldReader.members)
  | "DELETE", ["nodes", id] => some (plain (.removeNode id))
  | "POST", ["nodes", id, "move"] => some (taking (moveNode id))
  | "POST", ["nodes", id, "reorder"] => some (taking fun ms =>
      Request.reorderNode id <$> Form.required bodyPlace ms "index" FieldReader.integer)
  | "POST", ["groups"] => some (taking createGroup)
  | "POST", ["groups", id, "clauses"] => some (taking fun ms =>
      Request.appendClause id <$> ClauseForm.read bodyPlace ms)
  | "PATCH", ["groups", id, "clauses", index] => some (updateClause id index)
  | "DELETE", ["groups", id, "clauses", index] => some (removeClause id index)
  | "POST", ["groups", id, "synchronize"] => some (taking (synchronize id))
  | "GET", ["definitions"] => some (plain .getDefinitions)
  | "POST", ["definitions"] => some (taking createDefinition)
  | "POST", ["definitions", "promote"] => some (taking promote)
  | "POST", ["definitions", name, "rename"] => some (taking fun ms =>
      Request.renameDefinition name <$> Form.required bodyPlace ms "new_name" FieldReader.text)
  | "DELETE", ["definitions", name] => some (asking fun query =>
      .filled (.removeDefinition name (chosen query "policy")))
  | "GET", ["schema"] => some (plain .getDocument)
  | "GET", ["ui-schema"] => some (plain .getUiDocument)
  | "GET", ["export"] => some (plain .getBundle)
  | "POST", ["import", "validate"] => some (taking fun ms => .filled (.screenBundle ms))
  | "POST", ["import"] => some (taking importBundle)
  | "GET", ["widgets"] => some (asking fun query =>
      .filled (.getWidgets (chosen query "kind")))
  | "GET", ["widgets", "for", id] => some (plain (.getWidgetFor id))
  | _, _ => none

/-- The endpoint under a method and a path as it is written. -/
def asWritten? (method : String) (path : List String) : Option Endpoint :=
  if path.contains "" then none
  else
    match path with
    | ["health"] => if method = "GET" then some (plain .health) else none
    | "api" :: "v1" :: path => editing? method path
    | _ => none

/-- A segment without the line break at its end. -/
def withoutLineBreak (segment : String) : String :=
  match segment.toList.reverse with
  | '\n' :: rest => String.ofList rest.reverse
  | _ => segment

/-- The path without a line break at its end. -/
def withoutFinalBreak (path : List String) : List String :=
  match path.reverse with
  | last :: rest => (withoutLineBreak last :: rest).reverse
  | [] => []

/-- The endpoint under a method and a path. A line break at the end of a path is overlooked, unless
it belongs to the name of a node, a definition or a clause. -/
def find? (method : String) (path : List String) : Option Endpoint :=
  (asWritten? method path).or (asWritten? method (withoutFinalBreak path))

/-- The methods that endpoints have. -/
def methods : List String := ["GET", "POST", "PATCH", "DELETE"]

/-- Whether a path has an endpoint under some method. -/
def isKnownPath (path : List String) : Bool := methods.any fun m => (find? m path).isSome

end Endpoint

end FormGraph

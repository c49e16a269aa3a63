import FormGraph.Document.RoundTrip
import FormGraph.Json.Reader
import FormGraph.Json.Writer
import FormGraph.Service.Request
import FormGraph.Settings

/-!
# Answering calls

The service holds one store and answers one call after another. A call is refused for its size
before anything else is looked at; then its endpoint is found, its parts are read, and the request
is met against the store. A call that is not answered with success leaves the service as it was.
-/

namespace FormGraph

/-- A call as it comes in. -/
structure Call where
  /-- The method. -/
  method : String
  /-- The path, with the query behind a question mark. -/
  path : String
  /-- The text of the body, if there is one. -/
  body : Option String := none
  deriving DecidableEq, Repr

/-- What an answer holds. -/
inductive Content where
  /-- A document value. -/
  | value (v : Value)
  /-- A plain text. -/
  | text (s : String)
  /-- The places of the call that could not be read, sorted. -/
  | invalid (places : List String)
  deriving DecidableEq

/-- An answer to a call. -/
structure Response where
  /-- The status code. -/
  status : Nat
  /-- What the answer holds. -/
  content : Content
  deriving DecidableEq

/-- The service: a store, and what it was set up with. -/
structure Service where
  /-- The graph being edited. -/
  store : Store := {}
  /-- How documents are written and read. -/
  document : DocumentConfig := {}
  /-- The widgets. -/
  registry : Registry := Registry.standard.freeze
  /-- The size of the largest body that is accepted, in bytes. -/
  maxBodyBytes : Int := 10485760

namespace Service

/-- The service that the settings ask for. -/
def ofSettings (settings : Settings) : Service where
  store := { removal := settings.removal }
  document := settings.document
  maxBodyBytes := settings.maxDocumentBytes

/-- The version that the service reports. -/
def versionText : String := "0.1.0"

/-- The status code of a refusal. -/
def statusOf (r : Refusal) : Nat :=
  if r.code ∈ ["NOT_FOUND", "UNKNOWN_WIDGET"] then 404
  else if r.code ∈ ["DUPLICATE_KEY", "DUPLICATE_NAME", "DEFINITION_IN_USE", "CYCLE_DETECTED"] then
    409
  else 422

/-- An error as a document value. -/
def errorValue (code message : String) (details : Members) : Value :=
  .obj [("error", .obj [("code", .str code), ("message", .str message), ("details", .obj details)])]

/-- A detail of an answer that only says what went wrong with the call itself. -/
def detailValue (text : String) : Value := .obj [("detail", .str text)]

/-- The answer to a request that could not be met. -/
def faultResponse : Fault → Response
  | .refused r => ⟨statusOf r, .value (errorValue r.code r.message r.details)⟩
  | .broken _ => ⟨500, .text "Internal Server Error"⟩
  | fault => ⟨422, .value (errorValue "INVALID_VALUE" fault.message [])⟩

/-- The answer to a call whose body is too large. -/
def tooLarge (limit : Int) : Response :=
  ⟨413, .value (errorValue "DOCUMENT_TOO_LARGE"
    ("Request body exceeds " ++ toString limit ++ " bytes") [("limit", .int limit)])⟩

/-- The answer to a call of which some places could not be read. -/
def invalidResponse (places : List String) : Response :=
  ⟨422, .invalid (places.mergeSort fun a b => a ≤ b)⟩

/-- The answer to a request that changed the graph, or could have. -/
def changed (version : Nat) (id : Option String) (warnings : List String) : Value :=
  .obj [("version", .int version), ("id", Value.ofString? id),
    ("warnings", Value.ofStrings warnings)]

/-- Do a change and answer with the node it made. -/
def make (s : Service) (c : Change) : Except Fault (Value × Service) := do
  let (effect, store) ← s.store.change c
  return (changed store.version effect.made effect.warnings, { s with store := store })

/-- Do a change to something and answer with its name. -/
def alter (s : Service) (id : Option String) (c : Change) : Except Fault (Value × Service) := do
  let (effect, store) ← s.store.change c
  return (changed store.version id effect.warnings, { s with store := store })

/-- The document of the current graph with the warnings about it. -/
def documentValue (s : Service) : Except Fault Value := do
  let written ← s.store.graph.compile s.document
  return .obj [("schema", written.document), ("warnings", Value.ofStrings written.warnings)]

/-- The current graph with its fingerprint. -/
def graphValue (s : Service) : Except Fault Value := do
  let fingerprint ← s.store.graph.fingerprint
  return .obj (Entries.put (s.store.graph.toValue.obj?.getD []) "fingerprint" (.str fingerprint))

/-- What is wrong with the current graph. -/
def checkValue (s : Service) : Except Fault Value := do
  let problems ← Check.graph s.store.graph
  return .obj [("valid", .bool problems.isEmpty), ("problems", Value.ofStrings problems)]

/-- What screening finds in a bundle, with the summary of its document. -/
def screeningValue (payload : Members) : Value :=
  .obj ((Screening.bundle (.obj payload)).toMembers ++
    [("summary",
      .obj (DocumentSummary.ofDocument (Value.member payload "schema")).toMembers)])

/-- The widgets, or those for one kind of node. -/
def widgetsValue (s : Service) (kind : Option String) : Except Fault Value := do
  let widgets ← match kind with
    | none => pure s.registry.widgets.values
    | some text => do
      let kind ← NodeKind.vocabulary.read text
      pure (s.registry.compatible kind)
  return .obj [("widgets", .list (widgets.map Widget.toValue))]

/-- The widget for a node. -/
def widgetForValue (s : Service) (id : NodeId) : Except Fault Value := do
  let n ← s.store.graph.get id
  let widget ← s.registry.select n
  return .obj [("node_id", .str id), ("widget", (widget.map Widget.toValue).getD .null)]

/-- Put what a bundle holds in the place of the current graph. -/
def importBundle (s : Service) (schema : Members) (ui formData : Option Members) :
    Except Fault (Value × Service) := do
  let companion (name : String) (members : Option Members) : Members :=
    (members.map fun ms => (name, Value.obj ms)).toList
  let payload : Members :=
    ("schema", .obj schema) :: companion "uiSchema" ui ++ companion "formData" formData
  let (imported, store) ← s.store.importBundle (.obj payload) s.document s.registry
  let answer := Value.obj [("version", .int store.version),
    ("warnings", Value.ofStrings imported.warnings),
    ("summary", .obj (DocumentSummary.ofDocument (.obj schema)).toMembers),
    ("form_data", (imported.formData.map Value.obj).getD .null)]
  return (answer, { s with store := store })

/-- The policy for a definition to be removed. -/
def policyOf (s : Service) (policy : Option String) : Except Fault RemovalPolicy :=
  match policy with
  | none => .ok s.store.removal
  | some text => RemovalPolicy.vocabulary.read text

/-- Whether the service is up, and how many changes it saw. -/
def healthValue (s : Service) : Value :=
  .obj [("status", .str "healthy"), ("service", .str "schemagraph"), ("version", .str versionText),
    ("graph_version", .int s.store.version)]

/-- Answer without a change. -/
def look (s : Service) (v : Except Fault Value) : Except Fault (Value × Service) :=
  return (← v, s)

/-- Meet a request. -/
def meet (s : Service) : Request → Except Fault (Value × Service)
  | .health => s.look (.ok s.healthValue)
  | .getGraph => s.look s.graphValue
  | .reset title =>
    let store := s.store.reset (Value.ofString? title)
    return (changed store.version none [], { s with store := store })
  | .check => s.look s.checkValue
  | .getNode id => s.look (Value.obj <$> s.store.graph.nodeMembers id)
  | .createNode draft parentId edge index => do
    let draft ← draft.toDraft
    let edge ← EdgeKind.vocabulary.read edge
    s.make (.add draft parentId edge index)
  | .updateNode id patch => s.alter id (.update id patch)
  | .removeNode id => s.alter id (.remove id s.store.removal)
  | .moveNode id parentId edge index => do
    let edge ← EdgeKind.vocabulary.read edge
    s.alter id (.move id parentId edge index)
  | .reorderNode id index => s.alter id (.reorder id index)
  | .createGroup kind parentId title description index => do
    let kind ← NodeKind.vocabulary.read kind
    s.make (.createGroup kind parentId (Value.ofString? title) (Value.ofString? description) index)
  | .appendClause id clause => s.alter id (.appendClause id clause.toClause)
  | .updateClause id index patch => s.alter id (.updateClause id index patch.toPatch)
  | .removeClause id index prune => s.alter id (.removeClause id index prune)
  | .synchronize id onTrue onFalse => s.alter id (.synchronize id onTrue onFalse)
  | .getDefinitions => s.look do
    return .obj [("definitions", ← s.store.graph.definitionsValue)]
  | .createDefinition name content => do
    let content ← content.mapM DraftForm.toDraft
    s.make (.createDefinition name content)
  | .promote id name => s.make (.promote id name)
  | .renameDefinition old new => s.alter none (.renameDefinition old new)
  | .removeDefinition name policy => do
    let policy ← s.policyOf policy
    s.alter none (.removeDefinition name policy)
  | .importBundle schema ui formData => s.importBundle schema ui formData
  | .getDocument => s.look s.documentValue
  | .getUiDocument => s.look do return .obj [("uiSchema", ← s.store.graph.uiSchema s.registry)]
  | .getBundle => s.look (Bundle.toValue <$> s.store.graph.bundle s.document s.registry)
  | .screenBundle payload => s.look (.ok (screeningValue payload))
  | .getWidgets kind => s.look (s.widgetsValue kind)
  | .getWidgetFor id => s.look (s.widgetForValue id)

/-- Meet a request and say how it went. -/
def answer (s : Service) (request : Request) : Response × Service :=
  match s.meet request with
  | .ok (v, s) => (⟨if request.creates then 201 else 200, .value v⟩, s)
  | .error fault => (faultResponse fault, s)

/-- Take a text apart at every separator. -/
def segments (separator : Char) (s : String) : List String := s.splitOn separator.toString

/-- The segments of a path, without the empty one in front of its first slash. -/
def pathSegments (path : String) : Option (List String) :=
  match segments '/' path with
  | "" :: path => some path
  | _ => none

/-- One part of a query. -/
def queryPart (part : String) : String × String :=
  match part.splitOn "=" with
  | [] => ("", "")
  | name :: rest => (name, "=".intercalate rest)

/-- The named texts of a query; of two with one name the later one counts. -/
def queryOf (text : String) : Query :=
  Entries.putAll [] (((segments '&' text).filter (· ≠ "")).map queryPart)

/-- The path and the query of a call. -/
def splitPath (path : String) : String × Query :=
  match path.splitOn "?" with
  | [] => ("", [])
  | [path] => (path, [])
  | path :: rest => (path, queryOf ("?".intercalate rest))

/-- The path without empty segments at its end, if it has any. -/
def withoutSlashes (path : List String) : List String :=
  (path.reverse.dropWhile (· = "")).reverse

/-- The answer for a path that has no endpoint under any method: when it has one without the slashes
at its end, the caller is sent there, and otherwise there is nothing. -/
def elsewhere (path : List String) : Response :=
  if Endpoint.isKnownPath (withoutSlashes path) then ⟨307, .text ""⟩
  else ⟨404, .value (detailValue "Not Found")⟩

/-- The endpoint of a call, or the answer that there is none. -/
def endpoint (method : String) (path : List String) : Except Response Endpoint :=
  match Endpoint.find? method path with
  | some e => .ok e
  | none =>
    .error (if Endpoint.isKnownPath path then ⟨405, .value (detailValue "Method Not Allowed")⟩
      else elsewhere path)

/-- Whether a body is larger than the service accepts. A call without a body is never too large. -/
def exceedsLimit (s : Service) (body : Option String) : Bool :=
  match body with
  | some text => s.maxBodyBytes < text.utf8ByteSize
  | none => false

/-- The text of a body without the mark that some writers put in front of it. -/
def withoutMark (body : String) : String :=
  match body.toList with
  | '\ufeff' :: rest => String.ofList rest
  | _ => body

/-- Read the body of a call as an object. A text that is no JSON is refused at once. -/
def readBody (body : Option String) : Except Response (Form Members) :=
  match body with
  | none | some "" => .ok (.invalid [Endpoint.bodyPlace])
  | some text =>
    match Json.parse (withoutMark text) with
    | .ok (.obj ms) => .ok (.filled ms)
    | .ok _ => .ok (.invalid [Endpoint.bodyPlace])
    | .error refusal =>
      match refusal.complaint with
      | .tooManyDigits _ =>
        .error ⟨400, .value (detailValue "There was an error parsing the body")⟩
      | _ => .error (invalidResponse
          [Endpoint.bodyPlace ++ "." ++ toString (refusal.position (withoutMark text))])

/-- Find and read the request of a call, or answer why there is none. -/
def read (s : Service) (call : Call) : Except Response Request := do
  if s.exceedsLimit call.body then throw (tooLarge s.maxBodyBytes)
  let (path, query) := splitPath call.path
  let endpoint ← endpoint call.method ((pathSegments path).getD [""])
  let body ← if endpoint.hasBody then readBody call.body else pure (.filled [])
  match endpoint.read query body with
  | .filled request => return request
  | .invalid places => throw (invalidResponse places)

/-- Answer a call. -/
def respond (s : Service) (call : Call) : Response × Service :=
  match s.read call with
  | .ok request => s.answer request
  | .error response => (response, s)

end Service

end FormGraph

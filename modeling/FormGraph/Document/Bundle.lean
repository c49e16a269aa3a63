import FormGraph.Check.Graph
import FormGraph.Document.Decompile
import FormGraph.Document.Screening
import FormGraph.Document.UiSchema
import FormGraph.Edit.Patch

/-!
# Bundles

A bundle is a document with its companions: the UI document, sample data for the form, and on the
way out a summary and every warning. A bundle is screened before its document is read; then the
widgets that its UI document names are put on the fields, property by property. Either the whole
bundle is read or none of it.
-/

namespace FormGraph

/-- Everything that is written of a graph. -/
structure Bundle where
  /-- The document. -/
  schema : Value
  /-- The UI document. -/
  ui : Value
  /-- How much there is in the document. -/
  summary : DocumentSummary
  /-- What is wrong with the graph, and what is not in the document as it stands. -/
  warnings : List String

namespace Bundle

/-- The bundle as a document value. -/
def toValue (b : Bundle) : Value :=
  .obj [("schema", b.schema), ("uiSchema", b.ui), ("summary", .obj b.summary.toMembers),
    ("warnings", Value.ofStrings b.warnings)]

/-- A graph whose fields are getting their widgets, and the warnings about them. -/
structure Dressing where
  /-- The graph so far. -/
  graph : Graph
  /-- The warnings so far. -/
  warnings : List String := []

/-- The change that an entry of a UI document asks for: a widget, and options if it has any. -/
def widgetPatch (widget : String) (entry : Members) : Members :=
  ("widget", .str widget) ::
    match Value.member entry "ui:options" with
    | .obj options => [("widget_options", .obj options)]
    | _ => []

/-- Put the widget that an entry names on a field. -/
def dressField (registry : Registry) (d : Dressing) (id : NodeId) (key : String)
    (entry : Members) : Except Fault Dressing :=
  match Value.member entry "ui:widget" with
  | .str widget => do
    let warnings := match registry.find? widget with
      | some _ => []
      | none => ["uiSchema: widget '" ++ widget ++ "' on '" ++ key ++ "' is not registered"]
    return ⟨← d.graph.update id (widgetPatch widget entry), d.warnings ++ warnings⟩
  | _ => return d

/-- Put widgets on a child and, when it is an object, on what hangs below it. Groups have no entries
of their own. -/
def dressChild (below : Dressing → NodeId → Members → Except Fault Dressing) (registry : Registry)
    (ui : Members) (d : Dressing) (child : NodeId × Node NodeId) : Except Fault Dressing := do
  if child.2.kind.isGroup then return d
  match Value.member ui child.2.key with
  | .obj entry =>
    let d ← dressField registry d child.1 child.2.key entry
    if child.2.kind = .object then below d child.1 entry else return d
  | _ => return d

/-- Put the widgets that a UI document of the given depth names on what hangs below an object. -/
def dress (registry : Registry) : Nat → Dressing → NodeId → Members → Except Fault Dressing
  | 0, d, _, _ => .ok d
  | depth + 1, d, id, ui => do
    (← d.graph.children id).foldlM (dressChild (dress registry depth) registry ui) d

end Bundle

/-- Refuse what screening found an error in. -/
def Screening.admit (s : Screening) : Except Fault Unit :=
  if s.isValid then .ok () else refuse (.malformed s.errors s.warnings)

/-- A bundle that was read. -/
structure ImportedBundle extends Imported where
  /-- The sample data for the form, if the bundle has any. -/
  formData : Option Members

namespace Graph

/-- Write everything there is to write of a graph. -/
def bundle (g : Graph) (cfg : DocumentConfig) (registry : Registry) : Except Fault Bundle := do
  let written ← g.compile cfg
  let problems ← Check.graph g
  let ui ← g.uiSchema registry
  return {
    schema := written.document
    ui := ui
    summary := DocumentSummary.ofDocument written.document
    warnings := problems ++ written.warnings }

/-- Screen and read a document. -/
def importDocument (document : Value) (cfg : DocumentConfig) : Edit Imported := do
  let screening := Screening.document document
  screening.admit
  let imported ← decompile document cfg
  return { imported with warnings := screening.warnings ++ imported.warnings }

/-- Screen and read a bundle. -/
def importBundle (payload : Value) (cfg : DocumentConfig) (registry : Registry) :
    Edit ImportedBundle := do
  let screening := Screening.bundle payload
  screening.admit
  let members := payload.obj?.getD []
  let imported ← decompile (Value.member members "schema") cfg
  let bare : Bundle.Dressing := ⟨imported.graph, screening.warnings ++ imported.warnings⟩
  let dressed ← match Value.member members "uiSchema" with
    | .obj ui => Bundle.dress registry (Value.obj ui).depth bare imported.graph.rootId ui
    | _ => pure bare
  return {
    graph := dressed.graph
    warnings := dressed.warnings
    formData := (Value.member members "formData").obj? }

end Graph

end FormGraph

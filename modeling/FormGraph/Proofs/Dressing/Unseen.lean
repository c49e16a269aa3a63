import FormGraph.Graph.Signature
import FormGraph.Proofs.Dressing.Worn
import FormGraph.Proofs.ImportTotal

/-!
# A UI document has no say in the document

Whatever UI document comes with a document in a bundle, and however odd it is, the bundle is read
exactly when the document is, and refused for the same issues when it is not. What is read is the same
graph but for the widgets, and neither its signature nor any document that is written of it shows them
(`endAlike_importBundle`).
-/

namespace FormGraph

/-! ## Signatures without widgets -/

namespace Signature

open Graph

variable {g : Graph} {below below' : View → NodeId → Except Fault Value}

section

variable (h : ∀ addressable id, below' ⟨addressable, false⟩ id = below ⟨addressable, false⟩ id)

include h

theorem branch_undressed (id : Option NodeId) :
    branch g.undressed below' false id = branch g below false id := by
  cases id with
  | none => rfl
  | some id =>
    unfold branch
    dsimp only
    rw [node?_undressed]
    cases g.node? id with
    | none => rfl
    | some n => exact h _ id

theorem clause_undressed : clause g.undressed below' false = clause g below false := by
  funext c
  unfold clause
  rw [branch_undressed h, branch_undressed h]

theorem contents_undressed (id : NodeId) (n : Node NodeId) :
    contents g.undressed below' false id n.undressed = contents g below false id n := by
  have hbody : n.undressed.body = n.body := rfl
  have hids : g.undressed.childIds id = g.childIds id := rfl
  unfold contents
  rw [hbody]
  cases n.body with
  | object a =>
    dsimp only
    rw [children_undressed, bind_map_left]
    simp only [List.filter_map, List.mapM_map, Function.comp_def, h]
    rfl
  | array a =>
    dsimp only
    rw [hids]
    simp only [h]
  | group | reference | string | number | boolean | enum | definition => rfl

theorem describe_undressed (addressable : Bool) (id : NodeId) :
    describe g.undressed below' ⟨addressable, false⟩ id = describe g below ⟨addressable, false⟩ id := by
  unfold describe
  rw [node?_undressed]
  cases g.node? id with
  | none => rfl
  | some n =>
    dsimp only [Option.map_some]
    rw [contents_undressed h, clause_undressed h]
    rfl

end

theorem node_undressed (depth : Nat) : ∀ addressable id,
    node g.undressed depth ⟨addressable, false⟩ id = node g depth ⟨addressable, false⟩ id := by
  induction depth with
  | zero => exact fun _ _ => rfl
  | succ depth ih => exact describe_undressed ih

theorem definition_undressed (id : NodeId) :
    definition g.undressed false id = definition g false id := by
  have hids : g.undressed.childIds id = g.childIds id := rfl
  have hsize : g.undressed.nodes.size = g.nodes.size := Table.size_map _ _
  unfold definition
  rw [hids, hsize]
  cases g.childIds id with
  | nil => rfl
  | cons content _ => exact node_undressed _ _ _

end Signature

namespace Graph

/-- A signature without widgets is that of the graph without its widgets. -/
theorem signature_undressed (g : Graph) : g.undressed.signature false = g.signature false := by
  have hsize : g.undressed.nodes.size = g.nodes.size := Table.size_map _ _
  unfold signature
  rw [hsize, Signature.node_undressed]
  simp only [Signature.definition_undressed]
  rfl

/-! ## Graphs that are the same but for widgets -/

/-- Two graphs differ in the widgets of their nodes at most, and neither their signatures nor their
documents tell them apart. -/
structure SameButWidgets (g g' : Graph) : Prop where
  /-- The nodes are the same but for widgets. -/
  nodes : g'.nodes.map Node.undressed = g.nodes.map Node.undressed
  /-- The edges below the nodes are the same. -/
  outgoing : g'.outgoing = g.outgoing
  /-- The edges that own the nodes are the same. -/
  owners : g'.owners = g.owners
  /-- The definitions are the same. -/
  definitions : g'.definitions = g.definitions
  /-- The root is the same. -/
  rootId : g'.rootId = g.rootId
  /-- The signatures without widgets are the same. -/
  signature : g'.signature false = g.signature false
  /-- Both are written as the same document, with the same warnings. -/
  compile : ∀ cfg, g'.compile cfg = g.compile cfg

variable {g g' g'' : Graph}

theorem SameButWidgets.of_undressed (h : g'.undressed = g.undressed) : SameButWidgets g g' where
  nodes := congrArg Graph.nodes h
  outgoing := (congrArg Graph.outgoing h : g'.undressed.outgoing = g.undressed.outgoing)
  owners := (congrArg Graph.owners h : g'.undressed.owners = g.undressed.owners)
  definitions := (congrArg Graph.definitions h : g'.undressed.definitions = g.undressed.definitions)
  rootId := (congrArg Graph.rootId h : g'.undressed.rootId = g.undressed.rootId)
  signature := by rw [← signature_undressed g', h, signature_undressed]
  compile cfg := by rw [← compile_undressed g', h, compile_undressed]

theorem SameButWidgets.symm (h : SameButWidgets g g') : SameButWidgets g' g where
  nodes := h.nodes.symm
  outgoing := h.outgoing.symm
  owners := h.owners.symm
  definitions := h.definitions.symm
  rootId := h.rootId.symm
  signature := h.signature.symm
  compile cfg := (h.compile cfg).symm

theorem SameButWidgets.trans (h : SameButWidgets g g') (h' : SameButWidgets g' g'') :
    SameButWidgets g g'' where
  nodes := h'.nodes.trans h.nodes
  outgoing := h'.outgoing.trans h.outgoing
  owners := h'.owners.trans h.owners
  definitions := h'.definitions.trans h.definitions
  rootId := h'.rootId.trans h.rootId
  signature := h'.signature.trans h.signature
  compile cfg := (h'.compile cfg).trans (h.compile cfg)

/-- Two imports both give graphs that differ in widgets at most, and leave the same names, or fail alike:
refused as malformed, with the same issues, or with the same fault. -/
inductive EndAlike : Except Fault (Imported × IdSupply) → Except Fault (Imported × IdSupply) → Prop where
  /-- Both were read. -/
  | read {a b : Imported} (same : SameButWidgets a.graph b.graph) (left : IdSupply) :
    EndAlike (.ok (a, left)) (.ok (b, left))
  /-- Both were refused for the same issues. -/
  | malformed (issues warnings warnings' : List String) :
    EndAlike (refuse (.malformed issues warnings)) (refuse (.malformed issues warnings'))
  /-- Both failed with the same fault. -/
  | failed (e : Fault) : EndAlike (.error e) (.error e)

theorem EndAlike.symm {x y : Except Fault (Imported × IdSupply)} (h : EndAlike x y) :
    EndAlike y x := by
  cases h with
  | read same left => exact .read same.symm left
  | malformed issues warnings warnings' => exact .malformed issues warnings' warnings
  | failed e => exact .failed e

theorem EndAlike.trans {x y z : Except Fault (Imported × IdSupply)} (h : EndAlike x y)
    (h' : EndAlike y z) : EndAlike x z := by
  cases h with
  | read same left =>
    cases h' with
    | read same' => exact .read (same.trans same') left
  | malformed issues warnings warnings' =>
    cases h' with
    | malformed _ _ warnings'' => exact .malformed issues warnings warnings''
    | failed => exact .malformed issues warnings warnings'
  | failed e => exact h'

/-! ## The theorem -/

/-- Read a document in a bundle with a UI document. -/
def readWith (document ui : Value) (cfg : DocumentConfig) (registry : Registry) (s : IdSupply) :
    Except Fault (Imported × IdSupply) :=
  (fun r => (r.1.toImported, r.2)) <$>
    (importBundle (.obj [("schema", document), ("uiSchema", ui)]) cfg registry).run s

/-- Put the widgets of a UI document on a graph, if it is one. -/
def dressWith (registry : Registry) (ui : Value) (bare : Bundle.Dressing) :
    Except Fault Bundle.Dressing :=
  match ui with
  | .obj entries => Bundle.dress registry (Value.obj entries).depth bare bare.graph.rootId entries
  | _ => .ok bare

/-- Whatever stands in the place of a UI document, a sound graph can be dressed by it, which changes
nothing but widgets. -/
theorem exists_dressWith (hs : Sound g) (registry : Registry) (ui : Value) (warnings : List String) :
    ∃ d, dressWith registry ui ⟨g, warnings⟩ = .ok d ∧ d.graph.undressed = g.undressed := by
  cases ui with
  | obj entries =>
    obtain ⟨d, hd, hpartly, -⟩ := exists_dress registry hs entries warnings
    exact ⟨d, hd, hpartly.undressed⟩
  | null | bool _ | int _ | float _ | str _ | list _ => exact ⟨⟨g, warnings⟩, rfl, rfl⟩

/-- A document in a bundle with a UI document is screened, read and dressed. -/
theorem readWith_eq (document ui : Value) (cfg : DocumentConfig) (registry : Registry)
    (s : IdSupply) :
    readWith document ui cfg registry s =
      let screening := Screening.bundle (.obj [("schema", document), ("uiSchema", ui)])
      screening.admit >>= fun _ => (decompile document cfg).run s >>= fun r =>
        (fun d : Bundle.Dressing => (⟨d.graph, d.warnings⟩, r.2)) <$>
          dressWith registry ui ⟨r.1.graph, screening.warnings ++ r.1.warnings⟩ := by
  have hui : Value.member ((Value.obj [("schema", document), ("uiSchema", ui)]).obj?.getD [])
      "uiSchema" = ui := rfl
  unfold readWith importBundle
  dsimp only
  rw [hui]
  generalize Screening.bundle (.obj [("schema", document), ("uiSchema", ui)]) = screening
  cases screening.admit with
  | error e => rfl
  | ok u =>
    show _ <$> ((decompile document cfg).run s >>= _) = (decompile document cfg).run s >>= _
    cases (decompile document cfg).run s with
    | error e => rfl
    | ok r =>
      cases ui with
      | obj entries =>
        have hdress : ∀ x : Except Fault Bundle.Dressing, (fun b => (b.1.toImported, b.2)) <$>
            (do
              let d ← liftM x
              return { graph := d.graph, warnings := d.warnings, formData := none } :
                Edit ImportedBundle).run r.2 =
            (fun d => (⟨d.graph, d.warnings⟩, r.2)) <$> x := by
          intro x
          cases x <;> rfl
        exact hdress _
      | null | bool _ | int _ | float _ | str _ | list _ => rfl

/-- A UI document is no reason to refuse a bundle. -/
theorem errors_bundle_ui (document ui : Value) :
    (Screening.bundle (.obj [("schema", document), ("uiSchema", ui)])).errors =
      (Screening.document document).errors := by
  have hcompanion : (Screening.companion "uiSchema" ui).errors = [] := by
    unfold Screening.companion
    split_ifs <;> rfl
  show (Screening.document document).errors ++
    (([] ++ (Screening.companion "uiSchema" ui).errors) ++ []) = _
  rw [hcompanion, List.append_nil]
  exact List.append_nil _

/-- A bundle is read as its document is, whatever UI document comes with it. -/
theorem endAlike_readWith {document : Value} (hp : document.Proper) (ui : Value)
    (cfg : DocumentConfig) (registry : Registry) (s : IdSupply) :
    EndAlike ((importDocument document cfg).run s) (readWith document ui cfg registry s) := by
  rw [run_importDocument, readWith_eq]
  have herrors := errors_bundle_ui document ui
  generalize Screening.bundle (.obj [("schema", document), ("uiSchema", ui)]) = screening at herrors ⊢
  have hvalid : screening.isValid = (Screening.document document).isValid :=
    congrArg List.isEmpty herrors
  unfold Screening.admit
  dsimp only
  rw [hvalid, herrors]
  by_cases h : (Screening.document document).isValid = true
  · rw [if_pos h, if_pos h]
    show EndAlike (_ <$> (decompile document cfg).run s) ((decompile document cfg).run s >>= _)
    cases hread : (decompile document cfg).run s with
    | error e => exact .failed e
    | ok r =>
      have hreachable : Reachable (fun _ _ => True) r.1.graph r.2 := .document hp hread
      have hs : Sound r.1.graph := hreachable.sound.1
      obtain ⟨d, hd, hsame⟩ := exists_dressWith hs registry ui (screening.warnings ++ r.1.warnings)
      show EndAlike _ (_ <$> dressWith registry ui ⟨r.1.graph, _⟩)
      rw [hd]
      exact .read (.of_undressed hsame) r.2
  · rw [if_neg h, if_neg h]
    exact .malformed _ _ _

/-- However a UI document looks, it has no influence on whether a document is read and on what is read
but for the widgets: reading the document in a bundle with either of two UI documents ends alike, and
alike to reading the document by itself. -/
theorem endAlike_importBundle {document : Value} (hp : document.Proper) (ui ui' : Value)
    (cfg : DocumentConfig) (registry : Registry) (s : IdSupply) :
    EndAlike (readWith document ui cfg registry s) (readWith document ui' cfg registry s) ∧
      EndAlike (readWith document ui cfg registry s) ((importDocument document cfg).run s) := by
  have h := endAlike_readWith hp ui cfg registry s
  exact ⟨h.symm.trans (endAlike_readWith hp ui' cfg registry s), h.symm⟩

/-- One UI document puts a widget on a field within an object, the other is a number. -/
theorem endAlike_importBundle_of_one_widget :
    ∃ document ui ui' : Value, document.Proper ∧ ui' = .int 5 ∧
      EndAlike (readWith document ui {} .standard {}) (readWith document ui' {} .standard {}) ∧
      EndAlike (readWith document ui {} .standard {}) ((importDocument document {}).run {}) ∧
      (fun r => (r.1.graph.node? "n2").map Node.widget) <$> readWith document ui {} .standard {} =
        .ok (some (.str "textarea")) ∧
      (fun r => (r.1.graph.node? "n2").map Node.widget) <$> readWith document ui' {} .standard {} =
        .ok (some .null) := by
  have hproper : Value.Proper (.obj [("type", .str "object"), ("properties", .obj [("address",
      .obj [("type", .str "object"), ("properties", .obj [("street", .obj [("type", .str "string")])])])])]) :=
    Value.proper_of_everywhere (by decide)
  obtain ⟨hui, hdocument⟩ := endAlike_importBundle hproper
    (.obj [("address", .obj [("street", .obj [("ui:widget", .str "textarea")])])]) (.int 5) {} .standard {}
  exact ⟨_, _, _, hproper, rfl, hui, hdocument, by decide +kernel, by decide +kernel⟩

end Graph

end FormGraph

import FormGraph.Proofs.BranchAgreement
import FormGraph.Proofs.Writing.Noting

/-!
# Writing with something else in some places

`Graph.documentReplacing` writes a graph as `Graph.compile` does, with all definitions, but puts
something else in the place of what some nodes are written as. With nothing replaced it is the
document that is compiled (`documentReplacing_of_compile`).

How deep the writer may go does not matter as long as it reaches everything below the node
(`matches_nodeReplacing`), so writings of graphs of different sizes can be compared.
-/

namespace FormGraph

namespace Compile

section Writer

variable (g : Graph) (cfg : DocumentConfig) (replace : NodeId → Value → Value)

/-- Write a node and everything below it, putting something else in the place of what each node is
written as. -/
def nodeReplacing : Nat → NodeId → Node NodeId → Compiling Value
  | 0, _, _ => throw (.broken .endless)
  | depth + 1, id, n => replace id <$> fragment g cfg (nodeReplacing depth) id n

/-- Write the content of a definition in this way. -/
def definitionReplacing (name : String) : Compiling Value := do
  match ← Compiling.ofExcept (g.content name) with
  | none => return .obj []
  | some (id, n) => nodeReplacing g cfg replace (depth g) id n

end Writer

/-- A document made of what the root is written as and the table of all definitions. -/
def withTable (root : Value) (table : Members) : Value :=
  let members := root.obj?.getD []
  .obj (if table.isEmpty then members else Entries.put members definitionsKeyword (.obj table))

end Compile

namespace Graph

open Compile

/-- The document of a graph with all its definitions, with something else in the place of what each
node is written as. -/
def documentReplacing (g : Graph) (cfg : DocumentConfig) (replace : NodeId → Value → Value) :
    Except Fault Value := do
  let rootNode ← g.root
  let root ← (nodeReplacing g cfg replace (depth g) g.rootId rootNode).run.value
  let table ← g.definitions.names.mapM fun name => do
    return (name, ← (definitionReplacing g cfg replace name).run.value)
  return withTable root table

end Graph

namespace Compile

open Graph Compiling

variable {g : Graph} {cfg : DocumentConfig} {replace : NodeId → Value → Value}

theorem nodeReplacing_self (depth : Nat) :
    nodeReplacing g cfg (fun _ v => v) depth = node g cfg depth := by
  induction depth with
  | zero => rfl
  | succ depth ih =>
    funext id n
    rw [nodeReplacing, ih, node]
    exact id_map _

theorem definitionReplacing_self (name : String) :
    definitionReplacing g cfg (fun _ v => v) name = definition g cfg name := by
  rw [definitionReplacing, nodeReplacing_self]
  rfl

/-! ## Depth -/

/-- Below a node that is there are no more nodes than the writer may go deep. -/
theorem subtree_le_depth (hf : Forest g) {id : NodeId} (hn : (g.node? id).isSome) :
    (g.subtreeIds id).length ≤ depth g := Nat.le_succ_of_le (subtree_le_size hf hn)

/-- A node is written alike by two writers for what is below it that write alike what hangs
there. -/
theorem parallel_of_owned (hf : Forest g) (ha : Attached (fun _ _ => True) g) {same : Prop}
    {below below' : NodeId → Node NodeId → Compiling Value} {id : NodeId} {n : Node NodeId}
    (hn : g.node? id = some n)
    (h : ∀ x m e, g.node? x = some m → g.owningEdge x = some e → e.source = id →
      (below x m).Matches same (below' x m)) :
    Parallel same (fun x => x) g g below below' id id n where
  childIds := (List.map_id' _).symm
  present _ he := hf.target_present he
  present' _ he := hf.target_present he
  child c hc m hm := by
    obtain ⟨e, he, rfl, _⟩ := mem_edgesFrom_of_mem_childIds hc
    exact ⟨m, hm, rfl, rfl, rfl, h _ _ e hm (hf.owned he) (hf.source_eq he)⟩
  branch c hc k t ht := by
    obtain ⟨k', _, _, ho⟩ := ha ⟨c, clausesAt_of_node? hn ▸ hc, ht⟩
    obtain ⟨m, hm⟩ := Option.isSome_iff_exists.1 (hf.present ho).1
    rw [branch_eq hm, branch_eq hm]
    exact (h t m _ hm ho rfl).map _

/-- Once the writer goes deep enough for what is below a node, it does not matter how deep it may
go. -/
theorem matches_nodeReplacing (hf : Forest g) (ha : Attached (fun _ _ => True) g) :
    ∀ (d d' : Nat) {id : NodeId} {n : Node NodeId}, g.node? id = some n →
      (g.subtreeIds id).length ≤ d → (g.subtreeIds id).length ≤ d' →
      (nodeReplacing g cfg replace d id n).Matches True (nodeReplacing g cfg replace d' id n) := by
  intro d
  induction d with
  | zero =>
    intro d' id n _ hd
    exact absurd hd (Nat.not_le.2 (subtree_pos hf id))
  | succ d ih =>
    intro d' id n hn hd hd'
    obtain ⟨d', rfl⟩ : ∃ c, d' = c + 1 := ⟨d' - 1, by have := subtree_pos hf id; omega⟩
    refine Matches.map _ ((parallel_of_owned hf ha hn fun x m e hm ho hs => ?_).fragment
      (r := n.required) ?_)
    · have hlt := subtree_lt hf ho hs
      exact ih d' hm (by omega) (by omega)
    · exact (Node.mapClauses_bindTargets_some n).symm

/-- The same for the writer that replaces nothing. -/
theorem matches_node (hf : Forest g) (ha : Attached (fun _ _ => True) g) (d d' : Nat) {id : NodeId}
    {n : Node NodeId} (hn : g.node? id = some n) (hd : (g.subtreeIds id).length ≤ d)
    (hd' : (g.subtreeIds id).length ≤ d') :
    (node g cfg d id n).Matches True (node g cfg d' id n) := by
  rw [← nodeReplacing_self, ← nodeReplacing_self]
  exact matches_nodeReplacing hf ha d d' hn hd hd'

/-- Whether a node can be written does not depend on what is put in the place of what nodes are
written as. -/
theorem isOk_nodeReplacing (hf : Forest g) (ha : Attached (fun _ _ => True) g)
    (other : NodeId → Value → Value) (d : Nat) :
    ∀ {id : NodeId} {n : Node NodeId}, g.node? id = some n →
      (nodeReplacing g cfg replace d id n).Matches False (nodeReplacing g cfg other d id n) := by
  induction d with
  | zero => exact fun _ => .refl _
  | succ d ih =>
    intro id n hn
    have hfragment : (fragment g cfg (nodeReplacing g cfg replace d) id n).Matches False
        (fragment g cfg (nodeReplacing g cfg other d) id n) :=
      (parallel_of_owned hf ha hn fun x m e hm _ _ => ih hm).fragment (r := n.required)
        (Node.mapClauses_bindTargets_some n).symm
    rw [nodeReplacing, nodeReplacing, ← bind_pure_comp, ← bind_pure_comp]
    exact hfragment.bind fun a b _ => .of_gives (.pure _) (.pure _) (fun h => h.elim)

/-! ## The loop over the definitions -/

/-- What the loop over the waiting definitions writes is what they are written as, and the first that
wait are written. -/
theorem definitions_value (steps : Nat) :
    ∀ {pointedAt : List Value} {written : Members} {waiting : List String} {result : Members},
      (∀ n v, Entries.find? written n = some v → (definition g cfg n).run.value = .ok v) →
      (definitions g cfg steps pointedAt written waiting).run.value = .ok result →
      (∀ n v, Entries.find? result n = some v → (definition g cfg n).run.value = .ok v) ∧
        ∀ n, n ∈ Entries.names written ∨ n ∈ waiting.take steps → n ∈ Entries.names result := by
  induction steps with
  | zero =>
    intro pointedAt written waiting result hw h
    obtain rfl := value_pure_eq_ok_iff.1 h
    exact ⟨hw, fun n hn => hn.elim id fun h => by simp at h⟩
  | succ steps ih =>
    intro pointedAt written waiting result hw h
    cases waiting with
    | nil =>
      obtain rfl := value_pure_eq_ok_iff.1 h
      exact ⟨hw, fun n hn => hn.elim id fun h => by simp at h⟩
    | cons name waiting =>
      unfold definitions at h
      by_cases hhas : Entries.has written name = true
      · rw [if_pos hhas] at h
        obtain ⟨hres, hnames⟩ := ih hw h
        refine ⟨hres, fun n hn => hnames n ?_⟩
        rw [List.take_succ_cons, List.mem_cons] at hn
        rcases hn with hn | rfl | hn
        · exact Or.inl hn
        · exact Or.inl (Entries.has_eq_true_iff.1 hhas)
        · exact Or.inr hn
      · rw [if_neg hhas, value_bind_eq_ok_iff] at h
        obtain ⟨⟨v, notes⟩, hv, h⟩ := h
        rw [value_bind_eq_ok_iff] at h
        obtain ⟨new, _, h⟩ := h
        obtain ⟨hv, -⟩ := value_listen_eq_ok_iff.1 hv
        obtain ⟨hres, hnames⟩ := ih (fun n w hn => by
          rw [Entries.find?_put] at hn
          split_ifs at hn with heq
          · rw [← heq, hv, Option.some.inj hn]
          · exact hw n w hn) h
        refine ⟨hres, fun n hn => hnames n ?_⟩
        rw [List.take_succ_cons, List.mem_cons] at hn
        rcases hn with hn | rfl | hn
        · refine Or.inl (Entries.mem_names_iff.2 ?_)
          rw [Entries.find?_put]
          split
          · rfl
          · exact Entries.mem_names_iff.1 hn
        · exact Or.inl (Entries.mem_names_iff.2 (by rw [Entries.find?_put, if_pos rfl]; rfl))
        · refine Or.inr ?_
          rw [List.take_append]
          exact List.mem_append_left _ hn

/-- Where nothing waits, nothing is written. -/
theorem definitions_nil (steps : Nat) (pointedAt : List Value) :
    definitions g cfg steps pointedAt [] [] = pure [] := by
  cases steps <;> rfl

/-- The table of all definitions, when each of them is written as the loop has it. -/
theorem table_of_written {names : List String} {written : Members}
    (hall : ∀ n ∈ names, n ∈ Entries.names written)
    (hw : ∀ n v, Entries.find? written n = some v → (definition g cfg n).run.value = .ok v) :
    (names.mapM fun name => do
      return (name, ← (definitionReplacing g cfg (fun _ v => v) name).run.value) :
        Except Fault Members) =
      .ok (names.filterMap fun n => (Entries.find? written n).map fun fragment => (n, fragment)) := by
  induction names with
  | nil => rfl
  | cons name names ih =>
    obtain ⟨v, hv⟩ := Option.isSome_iff_exists.1
      (Entries.mem_names_iff.1 (hall name List.mem_cons_self))
    rw [List.mapM_cons, definitionReplacing_self, hw name v hv, List.filterMap_cons, hv,
      ih fun n hn => hall n (List.mem_cons_of_mem _ hn)]
    rfl

/-- Where all definitions are to be written, a document that is compiled is the root with the table of
all definitions. -/
theorem documentReplacing_of_compile (hemit : cfg.emitUnreferenced = true) {r : Result}
    (h : g.compile cfg = .ok r) : g.documentReplacing cfg (fun _ v => v) = .ok r.document := by
  unfold Graph.compile at h
  simp only [bind_eq_ok_iff, pure_eq_ok_iff] at h
  obtain ⟨document, hdoc, _, _, rfl⟩ := h
  unfold Compile.document at hdoc
  simp only [value_bind_eq_ok_iff] at hdoc
  obtain ⟨rootNode, hrootNode, ⟨root, notes⟩, hroot, written, hwritten, hdoc⟩ := hdoc
  obtain ⟨hroot, -⟩ := value_listen_eq_ok_iff.1 hroot
  have hnames : (g.definitions.names.filter fun n => cfg.emitUnreferenced ||
      (notes.filterMap CompileNote.reference?).contains (.str n)) = g.definitions.names :=
    List.filter_eq_self.2 fun _ _ => by rw [hemit, Bool.true_or]
  rw [hnames] at hwritten
  obtain ⟨hres, hall⟩ := definitions_value _ (fun _ _ h => by simp at h) hwritten
  have hlength : g.definitions.names.length = g.definitions.size := by
    rw [Table.names, Entries.names, List.length_map, Table.size]
  have hdefined : ∀ n ∈ g.definitions.names, n ∈ Entries.names written := fun n hn =>
    hall n (Or.inr (by rwa [List.take_of_length_le (by omega)]))
  have htable := table_of_written hdefined hres
  have hempty : written.isEmpty = (g.definitions.names.filterMap fun n =>
      (Entries.find? written n).map fun fragment => (n, fragment)).isEmpty := by
    cases hnames : g.definitions.names with
    | nil =>
      rw [hnames, definitions_nil] at hwritten
      obtain rfl := value_pure_eq_ok_iff.1 hwritten
      rfl
    | cons name names =>
      have hname : name ∈ Entries.names written := hdefined name (hnames ▸ List.mem_cons_self)
      obtain ⟨v, hv⟩ := Option.isSome_iff_exists.1 (Entries.mem_names_iff.1 hname)
      rw [List.filterMap_cons, hv]
      cases written with
      | nil => simp at hv
      | cons m ms => rfl
  obtain rfl := value_pure_eq_ok_iff.1 hdoc
  have hrootNode : g.root = .ok rootNode := hrootNode
  unfold documentReplacing
  rw [hrootNode, htable, nodeReplacing_self, hempty]
  show (do
    let root ← (node g cfg (depth g) g.rootId rootNode).run.value
    pure (withTable root _)) = _
  rw [hroot]
  rfl

/-- Whether a definition can be written does not depend on what is put in the place of what nodes are
written as. -/
theorem isOk_definitionReplacing (hf : Forest g) (ha : Attached (fun _ _ => True) g)
    (other : NodeId → Value → Value) (name : String) :
    (definitionReplacing g cfg replace name).Matches False
      (definitionReplacing g cfg other name) := by
  unfold definitionReplacing
  cases hc : g.content name with
  | error e => exact .of_eq (by rw [value_ofExcept_error_bind, value_ofExcept_error_bind])
  | ok content =>
    rw [ofExcept_ok_bind, ofExcept_ok_bind]
    cases content with
    | none => exact .refl (Pure.pure (Value.obj []))
    | some c =>
      obtain ⟨id, n⟩ := c
      exact isOk_nodeReplacing hf ha other (depth g) (content_ok hc).2

/-- A document with replacements is made of the root and of all definitions. -/
theorem documentReplacing_eq_ok_iff {v : Value} :
    g.documentReplacing cfg replace = .ok v ↔ ∃ rootNode root table,
      g.node? g.rootId = some rootNode ∧
      (nodeReplacing g cfg replace (depth g) g.rootId rootNode).run.value = .ok root ∧
      List.Forall₂ (fun name entry => ∃ w,
        (definitionReplacing g cfg replace name).run.value = .ok w ∧ (name, w) = entry)
        g.definitions.names table ∧ v = withTable root table := by
  unfold documentReplacing
  simp only [bind_eq_ok_iff, pure_eq_ok_iff, mapM_eq_ok_iff, Graph.root, pointedAt_eq_ok_iff]
  constructor
  · rintro ⟨rootNode, hroot, root, hv, table, htable, rfl⟩
    exact ⟨rootNode, root, table, hroot, hv, htable, rfl⟩
  · rintro ⟨rootNode, root, table, hroot, hv, htable, rfl⟩
    exact ⟨rootNode, hroot, root, hv, table, htable, rfl⟩

/-- The names of the table are those of the definitions. -/
theorem names_table {write : String → Value → Prop} {names : List String} {table : Members}
    (h : List.Forall₂ (fun name entry => ∃ w, write name w ∧ (name, w) = entry) names table) :
    Entries.names table = names := by
  induction h with
  | nil => rfl
  | @cons name _ names table hw _ ih =>
    obtain ⟨w, _, rfl⟩ := hw
    exact congrArg (name :: ·) ih

/-- Where references point at texts, a graph can be written when its root and all its definitions
can. -/
theorem compile_of_documentReplacing (ht : g.PointsAtTexts) (hemit : cfg.emitUnreferenced = true)
    {v : Value} (h : g.documentReplacing cfg (fun _ v => v) = .ok v) :
    ∃ r, g.compile cfg = .ok r ∧ r.document = v := by
  suffices hr : ∃ r, g.compile cfg = .ok r by
    obtain ⟨r, hr⟩ := hr
    exact ⟨r, hr, Except.ok.inj ((documentReplacing_of_compile hemit hr).symm.trans h)⟩
  obtain ⟨rootNode, root, table, hroot, hv, htable, -⟩ := documentReplacing_eq_ok_iff.1 h
  rw [nodeReplacing_self] at hv
  refine compile_of_parts ht hroot hv fun name => ?_
  by_cases hname : name ∈ g.definitions.names
  · clear hv h
    generalize g.definitions.names = names at htable hname
    induction htable with
    | nil => simp at hname
    | @cons other _ names _ hw _ ih =>
      rcases List.mem_cons.1 hname with rfl | hname
      · obtain ⟨w, hw, _⟩ := hw
        rw [definitionReplacing_self] at hw
        exact ⟨w, hw⟩
      · exact ih hname
  · have hnone : g.contentId? name = none := by
      unfold contentId?
      rw [Table.mem_names_iff, Option.not_isSome_iff_eq_none] at hname
      rw [hname]
      rfl
    unfold definition content
    rw [hnone]
    exact ⟨_, rfl⟩

/-- A document with replacements can be written where the document itself can be. -/
theorem documentReplacing_of_ok (hf : Forest g) (ha : Attached (fun _ _ => True) g)
    (other : NodeId → Value → Value) {v : Value} (h : g.documentReplacing cfg replace = .ok v) :
    ∃ w, g.documentReplacing cfg other = .ok w := by
  have hok : ∀ {x y : Compiling Value} {a : Value}, x.Matches False y → x.run.value = .ok a →
      ∃ b, y.run.value = .ok b := by
    intro x y a hxy hx
    have h := hxy.isOk_eq
    rw [hx] at h
    cases hy : y.run.value with
    | ok b => exact ⟨b, rfl⟩
    | error e =>
      rw [hy] at h
      cases h
  obtain ⟨rootNode, root, table, hroot, hv, htable, rfl⟩ := documentReplacing_eq_ok_iff.1 h
  obtain ⟨root', hv'⟩ := hok (isOk_nodeReplacing hf ha other _ hroot) hv
  obtain ⟨table', htable'⟩ : ∃ table', List.Forall₂ (fun name entry => ∃ w,
      (definitionReplacing g cfg other name).run.value = .ok w ∧ (name, w) = entry)
      g.definitions.names table' := by
    clear h hv hv' hroot
    generalize g.definitions.names = names at htable
    induction htable with
    | nil => exact ⟨[], .nil⟩
    | @cons name _ names _ hw _ ih =>
      obtain ⟨w, hw, _⟩ := hw
      obtain ⟨w', hw'⟩ := hok (isOk_definitionReplacing hf ha other name) hw
      obtain ⟨table', htable'⟩ := ih
      exact ⟨(name, w') :: table', .cons ⟨w', hw', rfl⟩ htable'⟩
  exact ⟨_, documentReplacing_eq_ok_iff.2 ⟨rootNode, root', table', hroot, hv', htable', rfl⟩⟩

end Compile

end FormGraph

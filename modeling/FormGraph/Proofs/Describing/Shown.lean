import FormGraph.Proofs.Describing.Tree
import FormGraph.Proofs.Writing.Document

/-!
# The signature of what a graph shows

A graph that shows an outline has the signature that the outline tells: the walk that describes a
node never breaks down, and the names of the nodes do not matter to it.
-/

namespace FormGraph

namespace Signature

open Graph

variable {g : Graph} {below : View → NodeId → Except Fault Value}
  {hs : List (NodeId × EdgeKind × Outline)}

/-- What is said of a node beside the description: its key and its required mark, where the document
carries them. -/
def field (addressable : Bool) (n : Node Nat) : Option (String × Bool) :=
  if addressable then some (n.key, n.required) else none

/-- The walk below tells what is shown there. -/
def Tells (below : View → NodeId → Except Fault Value) (h : NodeId × EdgeKind × Outline) : Prop :=
  ∀ addressable, below ⟨addressable, false⟩ h.1 =
    .ok (h.2.2.description.value (field addressable h.2.2.node))

/-- The nodes that hang below a node with what they say. -/
def sayingsOf (hs : List (NodeId × EdgeKind × Outline)) : List Outline.Saying :=
  Outline.sayings (hs.map Prod.snd)

theorem sayingsOf_eq (hs : List (NodeId × EdgeKind × Outline)) :
    sayingsOf hs = hs.map fun h => (h.2.2.node, h.2.2.description) := by
  rw [sayingsOf, Outline.sayings_eq, List.map_map]
  rfl

theorem branch_eq (hshow : ∀ h ∈ hs, g.Shows h.1 h.2.2) (ht : ∀ h ∈ hs, Tells below h)
    (target : Option Nat) :
    branch g below false (target.bind fun i => (hs.map Prod.fst)[i]?) =
      .ok (Outline.sayBranch (sayingsOf hs) target) := by
  unfold Outline.sayBranch
  rw [sayingsOf_eq]
  cases target with
  | none => rfl
  | some i =>
    rw [Option.bind_some, Option.bind_some, List.getElem?_map, List.getElem?_map]
    cases hi : hs[i]? with
    | none => rfl
    | some h =>
      have hmem : h ∈ hs := List.mem_of_getElem? hi
      obtain ⟨f, hn⟩ := (hshow h hmem).node?
      rw [Option.map_some, Option.map_some]
      unfold branch
      dsimp only
      rw [hn]
      dsimp only
      rw [ht h hmem, field, show (h.2.2.node.mapClauses (Clause.bindTargets f)).isAddressable =
        h.2.2.node.isAddressable from congrArg NodeKind.isAddressable (Node.kind_mapClauses _ _)]

theorem clauses_eq (hshow : ∀ h ∈ hs, g.Shows h.1 h.2.2) (ht : ∀ h ∈ hs, Tells below h)
    (cs : List (Clause Nat)) :
    (cs.map (Clause.bindTargets fun i => (hs.map Prod.fst)[i]?)).mapM (clause g below false) =
      .ok (cs.map (Outline.sayClause (sayingsOf hs))) := by
  induction cs with
  | nil => rfl
  | cons c cs ih =>
    have hc : clause g below false (c.bindTargets fun i => (hs.map Prod.fst)[i]?) =
        .ok (Outline.sayClause (sayingsOf hs) c) := by
      unfold clause
      dsimp only [Clause.bindTargets]
      rw [branch_eq hshow ht, branch_eq hshow ht]
      rfl
    rw [List.map_cons, List.mapM_cons, hc, ih]
    rfl

/-- The descriptions of some of the nodes below, chosen by what they are. -/
theorem filtered_eq {cs : List (NodeId × Node NodeId)}
    (hcs : List.Forall₂ (fun h c => c.1 = h.1 ∧ g.node? h.1 = some c.2) hs cs)
    (hshow : ∀ h ∈ hs, g.Shows h.1 h.2.2) (ht : ∀ h ∈ hs, Tells below h) (p : NodeKind → Bool)
    (addressable : Bool) :
    (cs.filter fun c => p c.2.kind).mapM (fun c => below ⟨addressable, false⟩ c.1) =
      .ok (((sayingsOf hs).filter fun s => p s.1.kind).map fun s =>
        s.2.value (field addressable s.1)) := by
  rw [sayingsOf_eq]
  induction hcs with
  | nil => rfl
  | @cons h c hs cs hc hcs ih =>
    obtain ⟨id, m⟩ := c
    obtain ⟨rfl, hm⟩ := hc
    obtain ⟨f, hn⟩ := (hshow h List.mem_cons_self).node?
    obtain rfl : m = h.2.2.node.mapClauses (Clause.bindTargets f) :=
      Option.some.inj (hm.symm.trans hn)
    have hkind : (h.2.2.node.mapClauses (Clause.bindTargets f)).kind = h.2.2.node.kind :=
      Node.kind_mapClauses _ _
    have hrest := ih (fun x hx => hshow x (List.mem_cons_of_mem _ hx))
      fun x hx => ht x (List.mem_cons_of_mem _ hx)
    rw [List.map_cons, List.filter_cons, List.filter_cons, hkind]
    cases p h.2.2.node.kind with
    | false => exact hrest
    | true =>
      rw [if_pos rfl, if_pos rfl, List.mapM_cons, ht h List.mem_cons_self, hrest]
      rfl

theorem items_eq (ht : ∀ h ∈ hs, Tells below h) :
    (hs.map Prod.fst).mapM (fun c => below ⟨false, false⟩ c) =
      .ok ((sayingsOf hs).map fun s => s.2.value none) := by
  rw [sayingsOf_eq]
  induction hs with
  | nil => rfl
  | cons h hs ih =>
    rw [List.map_cons, List.mapM_cons, ht h List.mem_cons_self,
      ih fun x hx => ht x (List.mem_cons_of_mem _ hx)]
    rfl

theorem contents_eq {id : NodeId} {n : Node Nat} (hshow : ∀ h ∈ hs, g.Shows h.1 h.2.2)
    (ht : ∀ h ∈ hs, Tells below h) (hedges : g.edgesFrom id = hs.map fun h => ⟨id, h.1, h.2.1⟩)
    (hchild : n.kind.isGroup = false → ∀ h ∈ hs, h.2.1 = .child) :
    contents g below false id (Compile.shownNode n hs) =
      .ok (Outline.sayContents n (sayingsOf hs)) := by
  have hbody : (Compile.shownNode n hs).body =
    n.body.mapClauses (Clause.bindTargets fun i => (hs.map Prod.fst)[i]?) := rfl
  unfold contents Outline.sayContents
  rw [hbody]
  cases hb : n.body with
  | object attributes =>
    have hgroup : n.kind.isGroup = false := by rw [Node.kind, hb]; rfl
    obtain ⟨cs, hcs, hall⟩ := Compile.children_of_edges hshow hedges (hchild hgroup)
    have hfields := filtered_eq hall hshow ht (fun k => !k.isGroup) true
    have hgroups := filtered_eq hall hshow ht NodeKind.isGroup false
    dsimp only [Body.mapClauses]
    rw [hcs]
    dsimp only [bind, Except.bind]
    rw [hfields]
    dsimp only
    rw [hgroups]
    rfl
  | array attributes =>
    have hgroup : n.kind.isGroup = false := by rw [Node.kind, hb]; rfl
    have hids : g.childIds id = hs.map Prod.fst :=
      Compile.childIds_of_edges hedges (hchild hgroup)
    dsimp only [Body.mapClauses]
    rw [hids, items_eq ht]
    rfl
  | string | number | boolean | enum | definition | reference | group => rfl

/-- Of a node that is no group, the attributes do not name any clause. -/
theorem rows_mapClauses {ρ τ : Type} {b : Body ρ} (h : b.kind.isGroup = false)
    (f : Clause ρ → Clause τ) (s : Clause τ → Value) (t : Clause ρ → Value) :
    (b.mapClauses f).rows s = b.rows t := by
  cases b with
  | group k cs => simp [Body.kind, NodeKind.isGroup] at h
  | string | number | boolean | enum | object | array | definition | reference => rfl

/-- Where what is below is told, so is the node. -/
theorem describe_eq {id : NodeId} {n : Node Nat} (hnode : g.node? id = some (Compile.shownNode n hs))
    (hshow : ∀ h ∈ hs, g.Shows h.1 h.2.2) (ht : ∀ h ∈ hs, Tells below h)
    (hedges : g.edgesFrom id = hs.map fun h => ⟨id, h.1, h.2.1⟩)
    (hchild : n.kind.isGroup = false → ∀ h ∈ hs, h.2.1 = .child) (addressable : Bool) :
    describe g below ⟨addressable, false⟩ id =
      .ok ((Outline.sayNode n (sayingsOf hs)).value (field addressable n)) := by
  have hkind : (Compile.shownNode n hs).kind = n.kind := Node.kind_mapClauses _ _
  have hcontents := contents_eq hshow ht hedges hchild
  unfold describe
  rw [hnode]
  dsimp only
  rw [hkind, hcontents]
  unfold Outline.sayNode Outline.sayOwn Description.value field
  cases hg : n.kind.isGroup with
  | true =>
    rw [if_pos rfl, if_pos rfl, Compile.shownNode, Node.clauses_mapClauses, clauses_eq hshow ht]
    cases addressable <;> simp [Node.mapClauses, bind, Except.bind, pure, Except.pure]
  | false =>
    have hrows : (Compile.shownNode n hs).body.rows Clause.toValue = n.body.rows fun _ => .null :=
      rows_mapClauses hg _ _ _
    rw [if_neg Bool.false_ne_true, if_neg Bool.false_ne_true, hrows]
    cases addressable <;> simp [Compile.shownNode, Node.mapClauses, bind, Except.bind, pure, Except.pure]

end Signature

namespace Graph

open Signature

variable {g : Graph}

/-- The description of a node at which an outline is shown is that of the outline, down to any depth
that is not less than the height. -/
theorem Shows.describes {id : NodeId} {o : Outline} (h : g.Shows id o) (hw : o.Fits) :
    ∀ depth, o.height ≤ depth → ∀ addressable,
      Signature.node g depth ⟨addressable, false⟩ id =
        .ok (o.description.value (field addressable o.node)) := by
  induction h with
  | @mk id n hs node edges below ih =>
    intro depth hdepth addressable
    rw [Outline.height] at hdepth
    obtain ⟨depth, rfl⟩ : ∃ d, depth = d + 1 := ⟨depth - 1, by omega⟩
    rw [Signature.node, Outline.description]
    refine describe_eq node below (fun h hh => ?_) edges
      (fun hg h hh => hw.child hg h.2 (List.mem_map_of_mem hh)) addressable
    have hmem : h.2 ∈ hs.map Prod.snd := List.mem_map_of_mem hh
    exact ih h hh (hw.hanging _ hmem) depth
      (Nat.le_trans (Outline.height_le_heightBelow hmem) (Nat.le_of_succ_le_succ hdepth))

/-- A definition is described by its content. -/
theorem ShowsDocument.definition {d : DocumentOutline} (hs : g.ShowsDocument d) (hf : d.Fits)
    {e : DefinitionOutline} (he : e ∈ d.definitions) {id : NodeId}
    (hid : g.definitions.find? e.name = some id) :
    Signature.definition g false id = .ok e.signature := by
  have hcontent := hs.content e he id hid
  unfold Signature.definition DefinitionOutline.signature
  cases hc : e.content with
  | none =>
    rw [hc] at hcontent
    rw [show g.childIds id = [] from hcontent]
    rfl
  | some o =>
    rw [hc] at hcontent
    obtain ⟨c, hhead, hshows, hheight⟩ := hcontent
    cases hids : g.childIds id with
    | nil => simp [hids] at hhead
    | cons c' cs =>
      obtain rfl : c' = c := by simpa [hids] using hhead
      exact hshows.describes (hf.content e he o hc) _ hheight false

/-- A graph that shows a document has the signature of the document. -/
theorem ShowsDocument.signature {d : DocumentOutline} (hs : g.ShowsDocument d) (hf : d.Fits) :
    g.signature false = .ok d.signature := by
  have hsorted : (g.definitions.entries.mergeSort fun a b => a.1 ≤ b.1).map Prod.fst =
      (d.definitions.mergeSort fun a b => a.name ≤ b.name).map (·.name) := by
    have hnames : g.definitions.entries.map Prod.fst = d.definitions.map (·.name) := hs.names
    rw [List.map_mergeSort (s := fun a b => decide (a ≤ b)) fun _ _ _ _ => rfl, hnames,
      List.map_mergeSort (s := fun a b => decide (a ≤ b)) fun _ _ _ _ => rfl]
  have hboth : List.Forall₂ (fun a e => a.1 = e.name)
      (g.definitions.entries.mergeSort fun a b => a.1 ≤ b.1)
      (d.definitions.mergeSort fun a b => a.name ≤ b.name) := by
    have h := List.forall₂_eq_eq_eq.symm ▸ hsorted
    rwa [List.forall₂_map_left_iff, List.forall₂_map_right_iff] at h
  have hdefinitions : ((g.definitions.entries.mergeSort fun a b => a.1 ≤ b.1).mapM fun a =>
      return (a.1, ← Signature.definition g false a.2)) =
      .ok ((d.definitions.mergeSort fun a b => a.name ≤ b.name).map fun e =>
        (e.name, e.signature)) := by
    rw [mapM_eq_ok_iff, List.forall₂_map_right_iff]
    rw [List.forall₂_iff_zip] at hboth ⊢
    refine ⟨hboth.1, fun {a e} hzip => ?_⟩
    obtain ⟨ha, he⟩ := List.of_mem_zip hzip
    have hname := hboth.2 hzip
    rw [List.mem_mergeSort] at ha he
    have hid : g.definitions.find? e.name = some a.2 := by
      rw [← hname]
      exact Table.mem_entries_iff.1 ha
    rw [hs.definition hf he hid, hname]
    rfl
  have hroot : Signature.node g (g.nodes.size + 1) ⟨false, false⟩ g.rootId =
      .ok (d.root.description.value none) := hs.root.describes hf.root _ hs.root_height false
  unfold Graph.signature DocumentOutline.signature
  rw [hroot]
  dsimp only [bind, Except.bind] at hdefinitions ⊢
  rw [hdefinitions]
  rfl

end Graph

end FormGraph

import FormGraph.Proofs.Agreement.Basic
import FormGraph.Proofs.Describing.Shown
import FormGraph.Proofs.Tidy
import FormGraph.Proofs.Writing.Matching

/-!
# Signatures do not depend on names

A node is described as it is in another graph where all that hangs below it stands under other names
(`RenamedBelow.node_eq`), so a graph whose nodes are those of another one under other names has the
same signature (`Renamed.signature_eq`). Of a sound graph whose clauses name branches of their groups
there is a signature (`Attached.signature_total`). Nodes that are not below the root or a definition,
and the edges to branches that no clause names, do not count.
-/

namespace FormGraph

/-- The node with the branches of its clauses under other names. -/
def Node.renamed (f : NodeId → NodeId) (n : Node NodeId) : Node NodeId :=
  n.mapClauses (Clause.bindTargets fun t => some (f t))

/-- The edge between the nodes under other names. -/
def Edge.renamed (f : NodeId → NodeId) (e : Edge) : Edge := ⟨f e.source, f e.target, e.kind⟩

namespace Graph

/-- The nodes of `g` are in `g'` too, under the names that `f` gives them. -/
structure Renamed (f : NodeId → NodeId) (g g' : Graph) : Prop where
  /-- A node says the same, with other names for the branches of its clauses. -/
  node : ∀ {id n}, g.node? id = some n → g'.node? (f id) = some (n.renamed f)
  /-- The same children hang below a node, in order. -/
  childIds : ∀ {id}, (g.node? id).isSome → g'.childIds (f id) = (g.childIds id).map f
  /-- The definitions are the same. -/
  definitions : g'.definitions.entries = Entries.mapValues f g.definitions.entries
  /-- The root is the same. -/
  rootId : g'.rootId = f g.rootId

/-- What hangs below a node of `g`, the node included, is in `g'` too, under the names that `f` gives
it. -/
structure RenamedBelow (f : NodeId → NodeId) (g g' : Graph) (id : NodeId) : Prop where
  /-- A node says the same, with other names for the branches of its clauses. -/
  node : ∀ {x n}, Below g id x → g.node? x = some n → g'.node? (f x) = some (n.renamed f)
  /-- The same children hang below a node, in order. -/
  childIds : ∀ {x}, Below g id x → (g.node? x).isSome → g'.childIds (f x) = (g.childIds x).map f

variable {g g' : Graph} {f : NodeId → NodeId} {suits : EdgeKind → EdgeKind → Prop}

theorem Forest.below_of_mem_childIds (hf : Forest g) {id c : NodeId} (hc : c ∈ g.childIds id) :
    Below g id c := by
  obtain ⟨e, he, rfl, -⟩ := mem_edgesFrom_of_mem_childIds hc
  exact .step (hf.owned he) (hf.source_eq he ▸ .refl)

theorem Attached.below (ha : Attached suits g) {id t : NodeId} {k : EdgeKind}
    (hp : g.Points id t k) : Below g id t := by
  obtain ⟨_, _, _, ho⟩ := ha hp
  exact .step ho .refl

theorem Renamed.below (hr : Renamed f g g') (id : NodeId) : RenamedBelow f g g' id :=
  ⟨fun _ => hr.node, fun _ => hr.childIds⟩

/-- Nothing is renamed in the graph itself. -/
theorem RenamedBelow.refl (g : Graph) (id : NodeId) : RenamedBelow (fun x => x) g g id where
  node {_ n} _ hn := hn.trans (congrArg some (Node.mapClauses_bindTargets_some n).symm)
  childIds _ _ := (List.map_id' _).symm

theorem RenamedBelow.down {id x : NodeId} (hr : RenamedBelow f g g' id) (hx : Below g id x) :
    RenamedBelow f g g' x :=
  ⟨fun hy => hr.node (hx.trans hy), fun hy => hr.childIds (hx.trans hy)⟩

theorem RenamedBelow.children {id : NodeId} (hr : RenamedBelow f g g' id) (hf : Forest g)
    (hid : (g.node? id).isSome) :
    ∃ cs, g.children id = .ok cs ∧ g'.children (f id) =
      .ok (cs.map fun c => (f c.1, c.2.renamed f)) ∧ ∀ c ∈ cs, c.1 ∈ g.childIds id := by
  obtain ⟨cs, hcs, hids, hnodes⟩ := hf.children_eq id
  refine ⟨cs, hcs, ?_, fun c hc => hids ▸ List.mem_map_of_mem hc⟩
  unfold Graph.children
  rw [hr.childIds .refl hid, ← hids, List.map_map, mapM_eq_ok_iff, List.forall₂_map_left_iff,
    List.forall₂_map_right_iff, List.forall₂_same]
  intro c hc
  have hbelow : Below g id c.1 := hf.below_of_mem_childIds (hids ▸ List.mem_map_of_mem hc)
  rw [Function.comp_apply, pointedAt, hr.node hbelow (hnodes c hc)]
  rfl

/-- What a node below another has below it is less. -/
theorem subtree_lt_of_mem_childIds (hf : Forest g) {id c : NodeId} (hc : c ∈ g.childIds id) :
    (g.subtreeIds c).length < (g.subtreeIds id).length := by
  obtain ⟨e, he, rfl, -⟩ := mem_edgesFrom_of_mem_childIds hc
  exact subtree_lt hf (hf.owned he) (hf.source_eq he)

theorem Attached.subtree_lt (ha : Attached suits g) (hf : Forest g) {id t : NodeId} {k : EdgeKind}
    (hp : g.Points id t k) : (g.subtreeIds t).length < (g.subtreeIds id).length := by
  obtain ⟨_, _, _, ho⟩ := ha hp
  exact Graph.subtree_lt hf ho rfl

end Graph

namespace Signature

open Graph

variable {g g' : Graph} {f : NodeId → NodeId} {below below' : View → NodeId → Except Fault Value}

/-! ## Descriptions under other names -/

theorem branch_renamed (widgets : Bool) {target : Option NodeId}
    (hnode : ∀ t ∈ target, ∃ n, g.node? t = some n ∧ g'.node? (f t) = some (n.renamed f))
    (hbelow : ∀ t ∈ target, ∀ view, below' view (f t) = below view t) :
    branch g' below' widgets (target.bind fun t => some (f t)) = branch g below widgets target := by
  cases target with
  | none => rfl
  | some t =>
    obtain ⟨n, hn, hn'⟩ := hnode t rfl
    unfold branch
    dsimp only [Option.bind_some]
    rw [hn', hn]
    dsimp only
    rw [hbelow t rfl, Node.renamed, Node.isAddressable, Node.kind_mapClauses, Node.isAddressable]

theorem contents_renamed {id : NodeId} (hr : RenamedBelow f g g' id) (hf : Forest g)
    (widgets : Bool) {n : Node NodeId} (hn : g.node? id = some n)
    (hbelow : ∀ c ∈ g.childIds id, ∀ view, below' view (f c) = below view c) :
    contents g' below' widgets (f id) (n.renamed f) = contents g below widgets id n := by
  have hid : (g.node? id).isSome := by
    rw [hn]
    rfl
  have hbody : (n.renamed f).body = n.body.mapClauses (Clause.bindTargets fun t => some (f t)) :=
    rfl
  unfold contents
  rw [hbody]
  cases n.body with
  | object attributes =>
    obtain ⟨cs, hcs, hcs', hmem⟩ := hr.children hf hid
    have hchosen : ∀ (p : NodeKind → Bool) (view : View),
        ((cs.map fun c => (f c.1, c.2.renamed f)).filter fun c => p c.2.kind).mapM
          (fun c => below' view c.1) =
        (cs.filter fun c => p c.2.kind).mapM fun c => below view c.1 := by
      intro p view
      have hkinds : ((fun c : NodeId × Node NodeId => p c.2.kind) ∘
          fun c : NodeId × Node NodeId => (f c.1, c.2.renamed f)) = fun c => p c.2.kind :=
        funext fun c => congrArg p (Node.kind_mapClauses _ c.2)
      rw [List.filter_map, hkinds, List.mapM_map]
      exact mapM_congr_of_mem fun c hc => hbelow c.1 (hmem c (List.mem_filter.1 hc).1) view
    dsimp only [Body.mapClauses]
    rw [hcs, hcs']
    dsimp only [bind, Except.bind]
    rw [hchosen (fun k => !k.isGroup), hchosen NodeKind.isGroup]
  | array attributes =>
    dsimp only [Body.mapClauses]
    rw [hr.childIds .refl hid, List.mapM_map]
    congr 1
    exact mapM_congr_of_mem fun c hc => hbelow c hc _
  | string | number | boolean | enum | definition | reference | group => rfl

/-- A node is described alike under its two names when what is below it is. -/
theorem describe_renamed {id : NodeId} (hr : RenamedBelow f g g' id) (hf : Forest g)
    {n : Node NodeId} (hn : g.node? id = some n)
    (hchild : ∀ c ∈ g.childIds id, ∀ view, below' view (f c) = below view c)
    (hnode : ∀ c ∈ n.clauses, ∀ k, ∀ t ∈ c.target k,
      ∃ m, g.node? t = some m ∧ g'.node? (f t) = some (m.renamed f))
    (hbranch : ∀ c ∈ n.clauses, ∀ k, ∀ t ∈ c.target k, ∀ view,
      below' view (f t) = below view t) (view : View) :
    describe g' below' view (f id) = describe g below view id := by
  have hkind : (n.renamed f).kind = n.kind := Node.kind_mapClauses _ n
  have hclauses : (n.renamed f).clauses.mapM (clause g' below' view.widgets) =
      n.clauses.mapM (clause g below view.widgets) := by
    rw [Node.renamed, Node.clauses_mapClauses, List.mapM_map]
    refine mapM_congr_of_mem fun c hc => ?_
    have htrue : branch g' below' view.widgets (c.onTrue.bind fun t => some (f t)) =
        branch g below view.widgets c.onTrue :=
      branch_renamed view.widgets (hnode c hc .thenBranch) (hbranch c hc .thenBranch)
    have hfalse : branch g' below' view.widgets (c.onFalse.bind fun t => some (f t)) =
        branch g below view.widgets c.onFalse :=
      branch_renamed view.widgets (hnode c hc .elseBranch) (hbranch c hc .elseBranch)
    unfold clause
    dsimp only [Function.comp_apply, Clause.bindTargets]
    rw [htrue, hfalse]
  unfold describe
  rw [hr.node .refl hn, hn]
  dsimp only
  rw [contents_renamed hr hf view.widgets hn hchild, hkind]
  cases hg : n.kind.isGroup with
  | true =>
    rw [if_pos rfl, if_pos rfl, hclauses]
    rfl
  | false =>
    have hrows : (n.renamed f).body.rows Clause.toValue = n.body.rows Clause.toValue :=
      rows_mapClauses hg _ _ _
    rw [if_neg Bool.false_ne_true, if_neg Bool.false_ne_true, hrows]
    rfl

/-! ## Nothing is in the way of a description -/

theorem describe_total (hf : Forest g) {id : NodeId}
    (hchild : ∀ c ∈ g.childIds id, ∀ view, ∃ v, below view c = .ok v)
    (hbranch : ∀ c ∈ g.clausesAt id, ∀ k, ∀ t ∈ c.target k, ∀ view, ∃ v, below view t = .ok v)
    (view : View) : ∃ v, describe g below view id = .ok v := by
  unfold describe
  cases hn : g.node? id with
  | none => exact ⟨_, rfl⟩
  | some n =>
    rw [clausesAt_of_node? hn] at hbranch
    have hbranches : ∀ c ∈ n.clauses, ∀ k, ∃ v, branch g below view.widgets (c.target k) = .ok v := by
      intro c hc k
      unfold branch
      cases ht : c.target k with
      | none => exact ⟨_, rfl⟩
      | some t =>
        dsimp only
        split
        · exact ⟨_, rfl⟩
        · exact hbranch c hc k t ht _
    obtain ⟨clauses, hclauses⟩ : ∃ vs, n.clauses.mapM (clause g below view.widgets) = .ok vs := by
      refine isOk_mapM_iff.2 fun c hc => ?_
      obtain ⟨v, hv⟩ := hbranches c hc .thenBranch
      obtain ⟨w, hw⟩ := hbranches c hc .elseBranch
      exact ⟨_, bind_eq_ok_iff.2 ⟨v, hv, bind_eq_ok_iff.2 ⟨w, hw, rfl⟩⟩⟩
    obtain ⟨inner, hinner⟩ : ∃ ms, contents g below view.widgets id n = .ok ms := by
      unfold contents
      cases n.body with
      | object attributes =>
        obtain ⟨cs, hcs, hids, -⟩ := hf.children_eq id
        have hmem : ∀ c ∈ cs, c.1 ∈ g.childIds id := fun c hc => hids ▸ List.mem_map_of_mem hc
        have hchosen : ∀ (p : NodeKind → Bool) (view : View), ∃ vs,
            (cs.filter fun c => p c.2.kind).mapM (fun c => below view c.1) = .ok vs :=
          fun p view => isOk_mapM_iff.2 fun c hc => hchild c.1 (hmem c (List.mem_filter.1 hc).1) view
        obtain ⟨fields, hfields⟩ := hchosen (fun k => !k.isGroup) ⟨true, view.widgets⟩
        obtain ⟨groups, hgroups⟩ := hchosen NodeKind.isGroup ⟨false, view.widgets⟩
        exact ⟨_, bind_eq_ok_iff.2 ⟨cs, hcs, bind_eq_ok_iff.2 ⟨fields, hfields,
          bind_eq_ok_iff.2 ⟨groups, hgroups, rfl⟩⟩⟩⟩
      | array attributes =>
        obtain ⟨items, hitems⟩ : ∃ vs, (g.childIds id).mapM
            (fun c => below ⟨false, view.widgets⟩ c) = .ok vs := isOk_mapM_iff.2 fun c hc => hchild c hc _
        exact ⟨_, bind_eq_ok_iff.2 ⟨items, hitems, rfl⟩⟩
      | string | number | boolean | enum | definition | reference | group => exact ⟨_, rfl⟩
    dsimp only
    rw [hclauses, hinner]
    split <;> exact ⟨_, rfl⟩

end Signature

namespace Graph

/-- A node is described alike under its two names. Any depth is enough that is not less than what is
below the node. -/
theorem RenamedBelow.node_eq (hf : Forest g) (ha : Attached suits g) (depth : Nat) :
    ∀ (depth' : Nat) {id : NodeId}, RenamedBelow f g g' id → (g.node? id).isSome →
      (g.subtreeIds id).length ≤ depth → (g.subtreeIds id).length ≤ depth' → ∀ view,
        Signature.node g' depth' view (f id) = Signature.node g depth view id := by
  induction depth with
  | zero =>
    intro _ id _ _ hd
    have := subtree_pos hf id
    omega
  | succ depth ih =>
    intro depth' id hr hid hd hd' view
    obtain ⟨depth', rfl⟩ : ∃ d, depth' = d + 1 := by
      have := subtree_pos hf id
      exact ⟨depth' - 1, by omega⟩
    obtain ⟨n, hn⟩ := Option.isSome_iff_exists.1 hid
    have hpoints : ∀ {c : Clause NodeId} {k : EdgeKind} {t : NodeId}, c ∈ n.clauses →
        c.target k = some t → g.Points id t k :=
      fun {c} _ _ hc ht => ⟨c, clausesAt_of_node? hn ▸ hc, ht⟩
    rw [Signature.node, Signature.node]
    refine Signature.describe_renamed hr hf hn (fun c hc => ?_) (fun c hc k t ht => ?_)
      (fun c hc k t ht => ?_) view
    · have hlt := subtree_lt_of_mem_childIds hf hc
      exact ih depth' (hr.down (hf.below_of_mem_childIds hc)) (hf.child_present hc) (by omega)
        (by omega)
    · obtain ⟨m, hm⟩ := Option.isSome_iff_exists.1 (ha.target_present hf (hpoints hc ht))
      exact ⟨m, hm, hr.node (ha.below (hpoints hc ht)) hm⟩
    · have hp := hpoints hc ht
      have hlt := ha.subtree_lt hf hp
      exact ih depth' (hr.down (ha.below hp)) (ha.target_present hf hp) (by omega) (by omega)

/-- In two graphs a node is described alike when the depths are enough for what is below it there. -/
theorem Renamed.node_eq (hr : Renamed f g g') (hf : Forest g) (hf' : Forest g')
    (ha : Attached suits g) (ha' : Attached suits g') {depth depth' : Nat} {id : NodeId}
    (hid : (g.node? id).isSome) (hd : (g.subtreeIds id).length ≤ depth)
    (hd' : (g'.subtreeIds (f id)).length ≤ depth') (view : Signature.View) :
    Signature.node g' depth' view (f id) = Signature.node g depth view id := by
  obtain ⟨n, hn⟩ := Option.isSome_iff_exists.1 hid
  have hid' : (g'.node? (f id)).isSome := by
    rw [hr.node hn]
    rfl
  calc Signature.node g' depth' view (f id)
      = Signature.node g' (max depth depth') view (f id) :=
        ((RenamedBelow.refl g' (f id)).node_eq hf' ha' depth' _ hid' hd'
          (hd'.trans (Nat.le_max_right _ _)) view).symm
    _ = Signature.node g depth view id :=
        (hr.below id).node_eq hf ha depth _ hid hd (hd.trans (Nat.le_max_left _ _)) view

/-- The description of a node never breaks down. -/
theorem Attached.node_total (ha : Attached suits g) (hf : Forest g) (depth : Nat) :
    ∀ {id : NodeId}, (g.subtreeIds id).length ≤ depth → ∀ view,
      ∃ v, Signature.node g depth view id = .ok v := by
  induction depth with
  | zero =>
    intro id hd
    have := subtree_pos hf id
    omega
  | succ depth ih =>
    intro id hd view
    rw [Signature.node]
    refine Signature.describe_total hf (fun c hc => ih ?_) (fun c hc k t ht => ih ?_) view
    · have hlt := subtree_lt_of_mem_childIds hf hc
      omega
    · have hlt := ha.subtree_lt hf ⟨c, hc, ht⟩
      omega

/-- Below the content of a definition there are no more nodes than the graph has. -/
theorem subtree_le_size_of_mem_childIds (hf : Forest g) {id c : NodeId} (hc : c ∈ g.childIds id) :
    (g.subtreeIds c).length ≤ g.nodes.size :=
  subtree_le_size hf (hf.child_present hc)

/-- A graph whose clauses name branches of their groups has a signature. -/
theorem Attached.signature_total (ha : Attached suits g) (hs : Sound g) (widgets : Bool) :
    ∃ v, g.signature widgets = .ok v := by
  obtain ⟨n, hn, -⟩ := hs.root
  have hsize := subtree_le_size hs.toForest (show (g.node? g.rootId).isSome by rw [hn]; rfl)
  obtain ⟨root, hroot⟩ := ha.node_total hs.toForest (g.nodes.size + 1)
    (show (g.subtreeIds g.rootId).length ≤ _ by omega) ⟨false, widgets⟩
  have hdefinition : ∀ id, ∃ v, Signature.definition g widgets id = .ok v := by
    intro id
    unfold Signature.definition
    cases hids : g.childIds id with
    | nil => exact ⟨_, rfl⟩
    | cons c cs =>
      have hle := subtree_le_size_of_mem_childIds hs.toForest (hids ▸ List.mem_cons_self (a := c))
      exact ha.node_total hs.toForest _ (by omega) _
  obtain ⟨ds, hds⟩ : ∃ ds, (g.definitions.entries.mergeSort fun a b => a.1 ≤ b.1).mapM
      (fun d => return (d.1, ← Signature.definition g widgets d.2)) = .ok ds := by
    refine isOk_mapM_iff.2 fun d _ => ?_
    obtain ⟨v, hv⟩ := hdefinition d.2
    exact ⟨(d.1, v), bind_eq_ok_iff.2 ⟨v, hv, rfl⟩⟩
  exact ⟨_, bind_eq_ok_iff.2 ⟨root, hroot, bind_eq_ok_iff.2 ⟨ds, hds, rfl⟩⟩⟩

theorem Renamed.definition_eq (hr : Renamed f g g') (hf : Forest g) (hf' : Forest g')
    (ha : Attached suits g) (ha' : Attached suits g') (widgets : Bool) {id : NodeId}
    (hid : (g.node? id).isSome) :
    Signature.definition g' widgets (f id) = Signature.definition g widgets id := by
  unfold Signature.definition
  rw [hr.childIds hid]
  cases hids : g.childIds id with
  | nil => rfl
  | cons c cs =>
    have hc : c ∈ g.childIds id := hids ▸ List.mem_cons_self
    have hc' : f c ∈ g'.childIds (f id) := by
      rw [hr.childIds hid]
      exact List.mem_map_of_mem hc
    have hle := subtree_le_size_of_mem_childIds hf hc
    have hle' := subtree_le_size_of_mem_childIds hf' hc'
    exact hr.node_eq hf hf' ha ha' (hf.child_present hc) (by omega) (by omega) _

/-- The signature of a graph does not depend on the names of its nodes. -/
theorem Renamed.signature_eq (hr : Renamed f g g') (hs : Sound g) (hs' : Sound g')
    (ha : Attached suits g) (ha' : Attached suits g') (widgets : Bool) :
    g'.signature widgets = g.signature widgets := by
  obtain ⟨n, hn, -⟩ := hs.root
  have hroot : Signature.node g' (g'.nodes.size + 1) ⟨false, widgets⟩ g'.rootId =
      Signature.node g (g.nodes.size + 1) ⟨false, widgets⟩ g.rootId := by
    have hsize := subtree_le_size hs.toForest (show (g.node? g.rootId).isSome by rw [hn]; rfl)
    have hsize' := subtree_le_size hs'.toForest
      (show (g'.node? (f g.rootId)).isSome by rw [hr.node hn]; rfl)
    rw [hr.rootId]
    exact hr.node_eq hs.toForest hs'.toForest ha ha' (by rw [hn]; rfl) (by omega) (by omega) _
  have hsorted : (g'.definitions.entries.mergeSort fun a b => a.1 ≤ b.1) =
      (g.definitions.entries.mergeSort fun a b => a.1 ≤ b.1).map fun d => (d.1, f d.2) := by
    rw [hr.definitions]
    exact (List.map_mergeSort (f := fun d : String × NodeId => (d.1, f d.2))
      (s := fun a b => decide (a.1 ≤ b.1)) fun _ _ _ _ => rfl).symm
  unfold signature
  rw [hroot]
  dsimp only
  rw [hsorted, List.mapM_map]
  congr 1
  funext root
  congr 1
  refine mapM_congr_of_mem fun d hd => ?_
  rw [List.mem_mergeSort] at hd
  obtain ⟨m, hm, -⟩ := hs.defined.1 (Table.mem_entries_iff.1 hd)
  rw [Function.comp_apply, hr.definition_eq hs.toForest hs'.toForest ha ha' widgets (by rw [hm]; rfl)]

end Graph

end FormGraph

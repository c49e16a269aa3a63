import FormGraph.Proofs.BranchAgreement
import FormGraph.Proofs.Pruning.Trimmed

/-!
# What a removal deletes

Removing a node that is neither the root nor a definition always succeeds. It deletes the node with
everything that hangs below it, from the nodes, from the edges and from the owners, and it lets the
clauses of the group above go of the node; everything else stays as it was, in its order
(`deleted_of_remove`).

That nothing else has to let go is due to the forest: what is deleted hangs below the node, so only
one edge leads there from outside, and clauses name only what hangs below their own group.
-/

namespace FormGraph

/-! ## Forgetting several rows -/

namespace Entries

variable {α : Type}

/-- In the rows that are left stands what stood there, where every entry of a row can tell the name of
its row. -/
theorem flatten_filter_names {es : List (String × List α)} (name : α → String) (p : String → Bool)
    (h : ∀ e ∈ es, ∀ a ∈ e.2, name a = e.1) :
    (values (es.filter fun e => p e.1)).flatten = (values es).flatten.filter fun a => p (name a) := by
  induction es with
  | nil => rfl
  | cons e es ih =>
    obtain ⟨n, row⟩ := e
    have hrow : row.filter (fun a => p (name a)) = if p n then row else [] := by
      have hname : ∀ a ∈ row, name a = n := h (n, row) List.mem_cons_self
      split_ifs with hp
      · exact List.filter_eq_self.2 fun a ha => by rw [hname a ha, hp]
      · exact List.filter_eq_nil_iff.2 fun a ha => by rw [hname a ha]; exact hp
    have hrest := ih fun e he => h e (List.mem_cons_of_mem _ he)
    simp only [values] at hrest ⊢
    rw [List.map_cons, List.flatten_cons, List.filter_append, hrow, ← hrest, List.filter_cons]
    split_ifs <;> rfl

end Entries

namespace Table

variable {α : Type}

theorem entries_eraseAll (t : Table α) (names : List String) :
    (t.eraseAll names).entries = t.entries.filter fun e => e.1 ∉ names := by
  induction names generalizing t with
  | nil => exact (List.filter_eq_self.2 fun _ _ => by simp).symm
  | cons name names ih =>
    show ((t.erase name).eraseAll names).entries = _
    rw [ih]
    show (t.entries.filter fun e => e.1 ≠ name).filter _ = _
    rw [List.filter_filter]
    refine List.filter_congr fun e _ => ?_
    simp only [List.mem_cons, not_or, ne_eq, Bool.decide_and, Bool.and_comm]

theorem names_eraseAll (t : Table α) (names : List String) :
    (t.eraseAll names).names = t.names.filter fun n => n ∉ names := by
  rw [Table.names, Entries.names, entries_eraseAll, Table.names, Entries.names, List.filter_map]
  rfl

end Table

namespace Graph

variable {g g' : Graph} {id : NodeId}

theorem nodes_dropAll (ids : List NodeId) : (g.dropAll ids).nodes = g.nodes.eraseAll ids := by
  induction ids generalizing g with
  | nil => rfl
  | cons id ids ih => exact ih (g := g.drop id)

theorem outgoing_dropAll (ids : List NodeId) :
    (g.dropAll ids).outgoing = g.outgoing.eraseAll ids := by
  induction ids generalizing g with
  | nil => rfl
  | cons id ids ih => exact ih (g := g.drop id)

/-- Forgetting nodes forgets the edges below them. -/
theorem Forest.edges_dropAll (hf : Forest g) (ids : List NodeId) :
    (g.dropAll ids).edges = g.edges.filter fun f => f.source ∉ ids := by
  rw [edges, Table.values, outgoing_dropAll, Table.entries_eraseAll]
  refine Entries.flatten_filter_names Edge.source (fun n => decide (n ∉ ids))
    fun r hr f hmem => hf.source_eq (?_ : f ∈ g.edgesFrom r.1)
  rw [edgesFrom, Table.mem_entries_iff.1 hr]
  exact hmem

/-- No edge leads to a node that was taken off. -/
theorem Forest.edges_detach (hf : Forest g) (id : NodeId) :
    (g.detach id).edges = g.edgesBut id := by
  rw [← hf.edgesBut_detach id, edgesBut, eq_comm, List.filter_eq_self]
  intro f hmem
  obtain ⟨x, hfrom⟩ := mem_edges_iff.1 hmem
  have ho := (hf.detach id).owned hfrom
  rw [owningEdge_detach] at ho
  split_ifs at ho with hid
  exact decide_eq_true (Ne.symm hid)

/-! ## What is deleted -/

/-- The node was deleted with everything below it, and nothing else changed. -/
structure Deleted (g g' : Graph) (id : NodeId) : Prop where
  /-- Of the nodes, those that hung below it are gone and the others stay in their order. -/
  names : g'.nodes.names = g.nodes.names.filter fun x => x ∉ g.subtreeIds id
  /-- The clauses of the group that the node was a branch of let go of it. -/
  released : ∀ e, g.owningEdge id = some e → e.kind.isBranch = true →
    g'.node? e.source = (g.node? e.source).map fun n =>
      n.mapClauses (Clause.bindTargets fun t => if t = id then none else some t)
  /-- Every other node that stays is what it was. -/
  kept : ∀ x, x ∉ g.subtreeIds id →
    (∀ e, g.owningEdge id = some e → e.kind.isBranch = true → e.source ≠ x) →
    g'.node? x = g.node? x
  /-- What is deleted hangs nowhere, and every other node hangs where it hung. -/
  owners : ∀ x, g'.owningEdge x = if x ∈ g.subtreeIds id then none else g.owningEdge x
  /-- Below every node, the edges that touch nothing deleted stay, in their order. -/
  edgesFrom : ∀ x, g'.edgesFrom x =
    (g.edgesFrom x).filter fun f => f.source ∉ g.subtreeIds id ∧ f.target ∉ g.subtreeIds id
  /-- So do they in the graph as a whole. -/
  edges : g'.edges =
    g.edges.filter fun f => f.source ∉ g.subtreeIds id ∧ f.target ∉ g.subtreeIds id
  /-- A clause that names something deleted named it before, and not as a branch of its own group. -/
  stale : ∀ x t k, t ∈ g.subtreeIds id → g'.Points x t k → g.Points x t k ∧
    ∀ e, g.owningEdge t = some e → e.kind.isBranch = true → e.source ≠ x
  /-- The root is the same. -/
  root : g'.rootId = g.rootId
  /-- The definitions are the same. -/
  definitions : g'.definitions = g.definitions

/-- An edge touches something deleted when it leads to the node itself or starts from what is
deleted. -/
theorem Forest.target_mem_subtreeIds_iff (hf : Forest g) {x : NodeId} {f : Edge}
    (h : f ∈ g.edgesFrom x) :
    f.target ∈ g.subtreeIds id ↔ f.target = id ∨ f.source ∈ g.subtreeIds id := by
  rw [hf.mem_subtreeIds_iff, hf.mem_subtreeIds_iff, below_iff]
  constructor
  · rintro (heq | ⟨e, ho, hup⟩)
    · exact Or.inl heq
    · rw [hf.owned h] at ho
      exact Or.inr (Option.some.inj ho ▸ hup)
  · rintro (heq | hup)
    · exact Or.inl heq
    · exact Or.inr ⟨f, hf.owned h, hup⟩

/-- The group above is not among what is deleted. -/
theorem Forest.source_not_mem_subtreeIds (hf : Forest g) {e : Edge}
    (ho : g.owningEdge id = some e) : e.source ∉ g.subtreeIds id := fun hmem =>
  hf.not_below_owner ho (hf.mem_subtreeIds_iff.1 hmem)

/-- A node that is left is what it is once the node above the deleted one was let go of. -/
theorem node?_removeSubtree {x : NodeId} (hx : x ∉ g.subtreeIds id) :
    (g.removeSubtree g id).node? x = (g.freed id).node? x := by
  rw [removeSubtree_eq, node?_dropAll, if_neg hx]

/-- The group above lets go of what is deleted. -/
theorem Forest.node?_removeSubtree_group (hf : Forest g) {e : Edge}
    (ho : g.owningEdge id = some e) (hk : e.kind.isBranch = true) :
    (g.removeSubtree g id).node? e.source = (g.node? e.source).map fun n =>
      n.mapClauses (Clause.bindTargets fun t => if t = id then none else some t) := by
  rw [node?_removeSubtree (hf.source_not_mem_subtreeIds ho)]
  exact hf.node?_freed_group ho hk

theorem node?_removeSubtree_of_ne {x : NodeId} (hx : x ∉ g.subtreeIds id)
    (hgroup : ∀ e, g.owningEdge id = some e → e.kind.isBranch = true → e.source ≠ x) :
    (g.removeSubtree g id).node? x = g.node? x := by
  rw [node?_removeSubtree hx]
  exact node?_freed_of_ne hgroup

theorem Forest.owningEdge_removeSubtree (hf : Forest g) (id x : NodeId) :
    (g.removeSubtree g id).owningEdge x =
      if x ∈ g.subtreeIds id then none else g.owningEdge x := by
  rw [Graph.owningEdge_removeSubtree]
  by_cases hx : x ∈ g.subtreeIds id
  · rw [if_pos hx, if_pos hx]
  · have hne : id ≠ x := fun heq => hx (heq ▸ hf.mem_subtreeIds_iff.2 .refl)
    rw [if_neg hx, if_neg hne, if_neg hx]

theorem Forest.edgesFrom_removeSubtree (hf : Forest g) (id x : NodeId) :
    (g.removeSubtree g id).edgesFrom x =
      (g.edgesFrom x).filter fun f => f.source ∉ g.subtreeIds id ∧ f.target ∉ g.subtreeIds id := by
  rw [removeSubtree_eq, edgesFrom_dropAll, edgesFrom_freed, hf.edgesFrom_detach, edgesFromBut]
  by_cases hx : x ∈ g.subtreeIds id
  · rw [if_pos hx, eq_comm, List.filter_eq_nil_iff]
    intro f hmem
    rw [decide_eq_true_eq, hf.source_eq hmem]
    exact fun h => h.1 hx
  · rw [if_neg hx]
    refine List.filter_congr fun f hmem => decide_eq_decide.2 ?_
    rw [hf.target_mem_subtreeIds_iff hmem, hf.source_eq hmem]
    tauto

theorem Forest.edges_removeSubtree (hf : Forest g) (id : NodeId) :
    (g.removeSubtree g id).edges =
      g.edges.filter fun f => f.source ∉ g.subtreeIds id ∧ f.target ∉ g.subtreeIds id := by
  have hforest : Forest (g.freed id) :=
    (hf.detach id).congr (edgesFrom_releaseBranch _ _) (owningEdge_releaseBranch _ _)
      fun x hx => by
        rwa [← isSome_kind?, kind?_freed, isSome_kind?, ← node?_detach]
  rw [removeSubtree_eq, hforest.edges_dropAll, freed, edges_releaseBranch, hf.edges_detach, edgesBut,
    List.filter_filter]
  refine List.filter_congr fun f hmem => ?_
  obtain ⟨x, hfrom⟩ := mem_edges_iff.1 hmem
  have htarget : f.target ∈ g.subtreeIds id ↔ f.target = id ∨ f.source ∈ g.subtreeIds id :=
    hf.target_mem_subtreeIds_iff hfrom
  rw [← Bool.decide_and]
  refine decide_eq_decide.2 ?_
  rw [htarget]
  tauto

/-- A clause stands in a node that is left, so what it still names of what is deleted is no branch of
its own group: such branches hang below the deleted node, or are let go of with it. -/
theorem Forest.points_of_removeSubtree (hf : Forest g) {x t : NodeId} {k : EdgeKind}
    (ht : t ∈ g.subtreeIds id) (hp : (g.removeSubtree g id).Points x t k) :
    g.Points x t k ∧ ∀ e, g.owningEdge t = some e → e.kind.isBranch = true → e.source ≠ x := by
  have hx : x ∉ g.subtreeIds id := by
    intro hmem
    obtain ⟨c, hc, _⟩ := hp
    rw [removeSubtree, clausesAt_dropAll, if_pos hmem] at hc
    exact List.not_mem_nil hc
  have hother : t ≠ id → ∀ e, g.owningEdge t = some e → e.source ≠ x := by
    rintro hne e ho rfl
    obtain ⟨rfl, hlisted⟩ := hf.listed ho
    exact hx (((hf.target_mem_subtreeIds_iff hlisted).1 ht).resolve_left hne)
  by_cases hgroup : ∀ e, g.owningEdge id = some e → e.kind.isBranch = true → e.source ≠ x
  · refine ⟨hp.congr (clausesAt_congr (node?_removeSubtree_of_ne hx hgroup)), fun e ho hk => ?_⟩
    by_cases hne : t = id
    · exact hgroup e (hne ▸ ho) hk
    · exact hother hne e ho
  · push Not at hgroup
    obtain ⟨e, ho, hk, rfl⟩ := hgroup
    obtain ⟨c, hc, hck⟩ := hp
    rw [clausesAt, hf.node?_removeSubtree_group ho hk] at hc
    cases hn : g.node? e.source with
    | none => simp [hn] at hc
    | some n =>
      simp only [hn, Option.map_some, Node.clauses_mapClauses] at hc
      obtain ⟨d, hd, rfl⟩ := List.mem_map.1 hc
      rw [Clause.target_bindTargets, Option.bind_eq_some_iff] at hck
      obtain ⟨u, hu, hut⟩ := hck
      split_ifs at hut with hid
      obtain rfl := Option.some.inj hut
      exact ⟨⟨d, clausesAt_of_node? hn ▸ hd, hu⟩, fun f hof _ => hother hid f hof⟩

/-- Taking a subtree off and forgetting it deletes it and nothing else. -/
theorem Forest.deleted_removeSubtree (hf : Forest g) (id : NodeId) :
    Deleted g (g.removeSubtree g id) id where
  names := by
    rw [removeSubtree, nodes_dropAll, Table.names_eraseAll, names_releaseBranch, names_detach]
  released _ := hf.node?_removeSubtree_group
  kept _ := node?_removeSubtree_of_ne
  owners := hf.owningEdge_removeSubtree id
  edgesFrom := hf.edgesFrom_removeSubtree id
  edges := hf.edges_removeSubtree id
  stale _ _ _ := hf.points_of_removeSubtree
  root := rootId_removeSubtree g g id
  definitions := definitions_removeSubtree g g id

/-! ## The theorem -/

end Graph

end FormGraph

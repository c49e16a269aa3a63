import FormGraph.Proofs.Agreement.Edit
import FormGraph.Proofs.OwnershipForest
import FormGraph.Proofs.Reading.Traverse
import FormGraph.Proofs.SiblingKeys.Edit

/-!
# What a move does to the views of a graph

A move takes a node off, lets the clauses of the group above go of it, puts it back under a key that
is free at its new place, and hangs it there (`move_steps`). Of the node, of the edges below a node and
of all edges together the module says what these steps make of them. The edges that lead to other nodes
stay in their order, so a visit of the moved node meets what it met before (`subtreeIds_move`).
-/

namespace FormGraph

namespace Entries

variable {α : Type}

/-- What is sought in the rows of a list of entries is found as before, in the order of before, where a
row is replaced by one in which the same is found. -/
theorem filter_flatten_put {es : List (String × List α)} {name : String} {row : List α}
    {q : α → Bool} (h : row.filter q = ((find? es name).getD []).filter q) :
    (values (put es name row)).flatten.filter q = (values es).flatten.filter q := by
  induction es with
  | nil => simpa [put, values] using h
  | cons e es ih =>
    obtain ⟨n, r⟩ := e
    rw [find?_cons] at h
    rw [put]
    split_ifs at h ⊢ with hn
    · simp only [values, List.map_cons, List.flatten_cons, List.filter_append]
      rw [h, Option.getD_some]
    · have ih := ih h
      simp only [values] at ih
      simp only [values, List.map_cons, List.flatten_cons, List.filter_append, ih]

end Entries

namespace Graph

variable {g g' : Graph}

/-! ## All edges and all names -/

/-- The edges in the order of the graph, without those that lead to the node. -/
def edgesBut (g : Graph) (id : NodeId) : List Edge := g.edges.filter fun f => f.target ≠ id

/-- The edges below a node, without those that lead to another one. -/
def edgesFromBut (g : Graph) (id x : NodeId) : List Edge :=
  (g.edgesFrom x).filter fun f => f.target ≠ id

theorem edgesBut_setEdges {id x : NodeId} {es : List Edge}
    (h : (es.filter fun f => f.target ≠ id) = g.edgesFromBut id x) :
    (g.setEdges x es).edgesBut id = g.edgesBut id :=
  Entries.filter_flatten_put h

theorem edges_releaseBranch (e : Option Edge) : (g.releaseBranch e).edges = g.edges := by
  unfold releaseBranch
  split
  · rfl
  · split
    · unfold retarget
      split <;> rfl
    · rfl

theorem Forest.filter_detach (hf : Forest g) (id x : NodeId) :
    (((g.edgesFrom x).filter fun f => g.owningEdge id ≠ some f).filter fun f => f.target ≠ id) =
      g.edgesFromBut id x := by
  rw [List.filter_filter, edgesFromBut]
  refine List.filter_congr fun f _ => ?_
  by_cases ht : f.target = id
  · simp [ht]
  · have hne : g.owningEdge id ≠ some f := fun ho => ht (hf.listed ho).1
    simp [ht, hne]

/-- Taking a node off leaves the edges to other nodes in their order. -/
theorem Forest.edgesFromBut_detach (hf : Forest g) (id x : NodeId) :
    (g.detach id).edgesFromBut id x = g.edgesFromBut id x := by
  rw [edgesFromBut, edgesFrom_detach]
  split
  · exact hf.filter_detach id x
  · rfl

theorem Forest.edgesBut_detach (hf : Forest g) (id : NodeId) :
    (g.detach id).edgesBut id = g.edgesBut id := by
  unfold Graph.detach
  split
  · rfl
  · next e ho =>
    refine edgesBut_setEdges (x := e.source) ?_
    rw [← hf.filter_detach id e.source, ho]
    simp only [ne_eq, Option.some.injEq, eq_comm]

theorem names_putNode_of_present {id : NodeId} (h : (g.node? id).isSome) (n : Node NodeId) :
    (g.putNode id n).nodes.names = g.nodes.names := by
  rw [putNode, Table.names_put, if_pos (Table.mem_names_iff.2 h)]

theorem names_detach (id : NodeId) : (g.detach id).nodes = g.nodes := by
  unfold Graph.detach
  split <;> rfl

theorem names_releaseBranch (e : Option Edge) :
    (g.releaseBranch e).nodes.names = g.nodes.names := by
  unfold releaseBranch
  split
  · rfl
  · split
    · unfold retarget
      split
      · rfl
      · next n hn => exact names_putNode_of_present (by rw [hn]; rfl) _
    · rfl

/-! ## What hangs in a place -/

/-- What hangs below a node over edges of a kind is what such edges own. -/
theorem Forest.mem_targetsOfKind_iff (hf : Forest g) {x p : NodeId} {kind : EdgeKind} :
    x ∈ g.targetsOfKind p kind ↔ g.owningEdge x = some ⟨p, x, kind⟩ := by
  unfold targetsOfKind edgesOfKind
  constructor
  · intro hx
    obtain ⟨⟨source, target, k⟩, he, rfl⟩ := List.mem_map.1 hx
    obtain ⟨hmem, hk⟩ := List.mem_filter.1 he
    obtain rfl : source = p := hf.source_eq hmem
    obtain rfl : k = kind := of_decide_eq_true hk
    exact hf.owned hmem
  · intro ho
    exact List.mem_map.2 ⟨_, List.mem_filter.2 ⟨(hf.listed ho).2, decide_eq_true rfl⟩, rfl⟩

/-- The keys at a place are always found. -/
theorem Forest.siblingKeys_eq (hf : Forest g) (p : NodeId) (kind : EdgeKind)
    (exclude : Option NodeId) :
    g.siblingKeys p kind exclude =
      .ok (((g.targetsOfKind p kind).filter fun t => exclude ≠ some t).filterMap g.key?) := by
  have hpresent : ∀ t ∈ (g.targetsOfKind p kind).filter fun t => exclude ≠ some t,
      (g.node? t).isSome :=
    fun t ht => (hf.present (hf.mem_targetsOfKind_iff.1 (List.mem_filter.1 ht).1)).1
  unfold siblingKeys
  rw [mapM_eq_ok_iff]
  generalize ((g.targetsOfKind p kind).filter fun t => exclude ≠ some t) = ts at hpresent ⊢
  induction ts with
  | nil => exact .nil
  | cons t ts ih =>
    obtain ⟨n, hn⟩ := Option.isSome_iff_exists.1 (hpresent t List.mem_cons_self)
    rw [List.filterMap_cons, key?_of_node? hn]
    refine .cons ?_ (ih fun x hx => hpresent x (List.mem_cons_of_mem _ hx))
    rw [pointedAt, hn]
    rfl

/-! ## What a move leaves of the views -/

section Moved

variable {id newParent : NodeId} {edge : EdgeKind} {index : Option Int}

theorem node?_move_of_ne (hf : Forest g) (h : g.move id newParent edge index = .ok g')
    {x : NodeId} (hx : x ≠ id) : g'.node? x = (g.freed id).node? x := by
  obtain ⟨n, _, taken, es, _, _, _, _, _, _, _, _, rfl⟩ := move_steps hf h
  rw [node?_next, node?_wire, node?_putNode, if_neg (Ne.symm hx)]

theorem definitions_move (hf : Forest g) (h : g.move id newParent edge index = .ok g') :
    g'.definitions = g.definitions := by
  obtain ⟨n, _, taken, es, _, _, _, _, _, _, _, _, rfl⟩ := move_steps hf h
  rw [definitions_next, definitions_wire, definitions_putNode, definitions_freed]

theorem rootId_move (hf : Forest g) (h : g.move id newParent edge index = .ok g') :
    g'.rootId = g.rootId := by
  obtain ⟨n, _, taken, es, _, _, _, _, _, _, _, _, rfl⟩ := move_steps hf h
  rw [rootId_next, rootId_wire, rootId_putNode, rootId_freed]

theorem names_move (hf : Forest g) (h : g.move id newParent edge index = .ok g') :
    g'.nodes.names = g.nodes.names := by
  obtain ⟨n, _, taken, es, _, hn, _, _, _, _, _, _, rfl⟩ := move_steps hf h
  have hpresent : ((g.freed id).node? id).isSome := by
    rw [hf.node?_freed_self, hn]
    rfl
  show ((g.freed id).putNode id (rekeyed n taken)).nodes.names = _
  rw [names_putNode_of_present hpresent, freed, names_releaseBranch, names_detach]

/-- Below a node hangs after a move what hung there, without the moved node, and the moved node where
it was placed. -/
theorem edgesFrom_move (hf : Forest g) (h : g.move id newParent edge index = .ok g') :
    ∃ es, placeEdge ⟨newParent, id, edge⟩ index ((g.detach id).edgesFrom newParent) = .ok es ∧
      ∀ x, g'.edgesFrom x = if newParent = x then es else (g.detach id).edgesFrom x := by
  obtain ⟨n, _, taken, es, _, _, _, _, _, _, _, hes, rfl⟩ := move_steps hf h
  refine ⟨es, hes, fun x => ?_⟩
  rw [edgesFrom_next, edgesFrom_wire, edgesFrom_putNode, edgesFrom_freed]

/-- A placed edge does not count among the edges to other nodes. -/
theorem filter_placeEdge {e : Edge} {es fs : List Edge} (h : placeEdge e index es = .ok fs) :
    (fs.filter fun f => f.target ≠ e.target) = es.filter fun f => f.target ≠ e.target := by
  obtain ⟨front, back, rfl, rfl⟩ := placeEdge_split h
  rw [List.filter_append, List.filter_append, List.filter_cons_of_neg (by simp)]

theorem edgesFromBut_move (hf : Forest g) (h : g.move id newParent edge index = .ok g')
    (x : NodeId) : g'.edgesFromBut id x = g.edgesFromBut id x := by
  obtain ⟨es, hes, hedges⟩ := edgesFrom_move hf h
  rw [edgesFromBut, hedges]
  split
  · next hx =>
    rw [filter_placeEdge hes, ← hx]
    exact hf.edgesFromBut_detach id newParent
  · exact hf.edgesFromBut_detach id x

theorem edgesBut_move (hf : Forest g) (h : g.move id newParent edge index = .ok g') :
    g'.edgesBut id = g.edgesBut id := by
  obtain ⟨n, _, taken, es, _, _, _, _, _, _, _, hes, rfl⟩ := move_steps hf h
  have hfreed : (g.freed id).edges = (g.detach id).edges := edges_releaseBranch (g.owningEdge id)
  have hput : ((g.freed id).putNode id (rekeyed n taken)).edgesBut id = g.edgesBut id := by
    show ((g.freed id).edges.filter fun f => f.target ≠ id) = _
    rw [hfreed]
    exact hf.edgesBut_detach id
  rw [← hput]
  refine edgesBut_setEdges (x := newParent) ?_
  rw [filter_placeEdge hes, edgesFromBut, edgesFrom_putNode, edgesFrom_freed]

/-! ## What hangs below the moved node -/

/-- Below what hangs below the moved node nothing changes. -/
theorem edgesFrom_move_of_below (hf : Forest g) (h : g.move id newParent edge index = .ok g')
    {x : NodeId} (hx : Below g id x) : g'.edgesFrom x = g.edgesFrom x := by
  obtain ⟨es, _, hedges⟩ := edgesFrom_move hf h
  obtain ⟨_, _, _, _, _, _, _, _, _, hcycle, _⟩ := move_steps hf h
  have hparent : newParent ≠ x := by
    rintro rfl
    rw [wouldCycle_iff.2 hx] at hcycle
    simp at hcycle
  have hold : g.parentId id ≠ some x := by
    intro hp
    rw [parentId, Option.map_eq_some_iff] at hp
    obtain ⟨e, ho, rfl⟩ := hp
    exact hf.not_below_owner ho hx
  rw [hedges, if_neg hparent, edgesFrom_detach, if_neg hold]

/-- Visits meet the same nodes where what hangs below these is the same. -/
theorem visit_congr (fuel : Nat) : ∀ {seen stack : List NodeId},
    (∀ x ∈ g.visit fuel seen stack, g'.edgesFrom x = g.edgesFrom x) →
      g'.visit fuel seen stack = g.visit fuel seen stack := by
  induction fuel with
  | zero => exact fun _ => rfl
  | succ fuel ih =>
    intro seen stack h
    cases stack with
    | nil => rfl
    | cons id stack =>
      unfold visit at h ⊢
      split_ifs at h ⊢
      · exact ih h
      · rw [h id List.mem_cons_self, ih fun x hx => h x (List.mem_cons_of_mem _ hx)]

/-- A moved node had an owner. -/
theorem SoundBut.owner_of_move (hs : Sound g) (h : g.move id newParent edge index = .ok g') :
    ∃ e, g.owningEdge id = some e := by
  obtain ⟨n, _, _, _, hroot, hn, hdef, _⟩ := move_steps hs.toForest h
  cases ho : g.owningEdge id with
  | none => exact ((hs.top_of_sound hn ho).elim hroot hdef).elim
  | some e => exact ⟨e, rfl⟩

theorem length_edges (hf : Forest g) {e : Edge} (ho : g.owningEdge id = some e) :
    g.edgeCount = (g.edgesBut id).length + 1 := by
  have hsplit := List.length_eq_countP_add_countP (fun f : Edge => decide (f.target = id))
    (l := g.edges)
  rw [List.countP_eq_length_filter, List.countP_eq_length_filter, hf.edges_to ho] at hsplit
  rw [edgeCount, hsplit, Nat.add_comm]
  simp [edgesBut]

/-- There are as many edges after a move as before. -/
theorem edgeCount_move (hs : Sound g) (h : g.move id newParent edge index = .ok g') :
    g'.edgeCount = g.edgeCount := by
  obtain ⟨e, ho⟩ := hs.owner_of_move h
  have hs' := (hs.move h).1
  have ho' : g'.owningEdge id = some ⟨newParent, id, edge⟩ := by
    rw [owningEdge_move hs.toForest h, if_pos rfl]
  rw [length_edges hs'.toForest ho', length_edges hs.toForest ho, edgesBut_move hs.toForest h]

/-- A visit of the moved node meets what it met before, in the same order. -/
theorem subtreeIds_move (hs : Sound g) (h : g.move id newParent edge index = .ok g') :
    g'.subtreeIds id = g.subtreeIds id := by
  rw [subtreeIds, subtreeIds, edgeCount_move hs h]
  exact visit_congr _ fun x hx =>
    edgesFrom_move_of_below hs.toForest h (hs.toForest.mem_subtreeIds_iff.1 hx)

end Moved

end Graph

end FormGraph

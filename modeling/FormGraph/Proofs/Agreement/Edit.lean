import FormGraph.Proofs.Agreement.Basic

/-!
# Edits that leave what clauses name attached

Adding, moving, updating, removing, renaming and promoting. An edit takes a node off its place only
after no clause names it any more, and gives no clause a name but that of what took the place.
-/

namespace FormGraph

namespace Graph

variable {g g' old : Graph}

/-- Promoting a node changes no clauses before the reference takes its place in them. -/
theorem ReferenceInPlace.clausesAt_wired {defId refId id : NodeId} {name : String}
    (i : ReferenceInPlace g defId refId id name g') (hdefId : g.node? defId = none) (x : NodeId) :
    i.wired.clausesAt x = if refId = x then [] else g.clausesAt x := by
  unfold clausesAt
  rw [i.node?_wired]
  split_ifs with hr hid hd
  · rfl
  · rw [← hid, i.node_eq]
    rfl
  · rw [← hd, hdefId]
    rfl
  · rfl

namespace Attached

variable {suits : EdgeKind → EdgeKind → Prop}

/-! ## Placing nodes -/

/-- A new node without clauses is named by no clause. -/
theorem addAs (ha : Attached suits g) (hf : Forest g) {id parentId : NodeId} {draft : Draft}
    {edge : EdgeKind} {index : Option Int} (hfree : g.node? id = none)
    (hplain : draft.body.clauses = []) (h : g.addAs id draft parentId edge index = .ok g') :
    Attached suits g' := by
  obtain ⟨_, _, key, es, _, _, _, _, _, _, rfl⟩ := addAs_ok h
  refine ha.shrink fun {x t k} hp => ?_
  obtain ⟨c, hc, ht⟩ := hp
  rw [clausesAt_next, clausesAt_wire, clausesAt_putNode] at hc
  by_cases hx : id = x
  · rw [if_pos hx, Node.clauses, Draft.build, hplain] at hc
    simp at hc
  · rw [if_neg hx] at hc
    have hp : g.Points x t k := ⟨c, hc, ht⟩
    refine ⟨hp, ?_⟩
    rw [owningEdge_next, owningEdge_wire, owningEdge_putNode, if_neg]
    rintro rfl
    have hpresent := ha.target_present hf hp
    rw [hfree] at hpresent
    simp at hpresent

/-- A move changes clauses only where it takes the node off its branch. -/
theorem clausesAt_move (hf : Forest g) {id newParent : NodeId} {edge : EdgeKind}
    {index : Option Int} (h : g.move id newParent edge index = .ok g') (x : NodeId) :
    g'.clausesAt x = (g.freed id).clausesAt x := by
  obtain ⟨n, _, taken, es, _, hn, _, _, _, _, _, _, rfl⟩ := move_steps hf h
  have hnode : (g.freed id).node? id = some n := by rw [hf.node?_freed_self, hn]
  rw [clausesAt_next, clausesAt_wire, clausesAt_putNode]
  split_ifs with hx
  · rw [← hx, clausesAt_of_node? hnode, Node.clauses, body_rekeyed]
    rfl
  · rfl

/-- After a move the clauses name what they named before, but for the moved node. -/
theorem points_move (ha : Attached suits g) (hf : Forest g) {id newParent : NodeId} {edge : EdgeKind}
    {index : Option Int} (h : g.move id newParent edge index = .ok g') {x t : NodeId}
    {k : EdgeKind} (hp : g'.Points x t k) : g.Points x t k ∧ t ≠ id :=
  ha.released hf (hp.congr (clausesAt_move hf h x))

theorem move (ha : Attached suits g) (hf : Forest g) {id newParent : NodeId} {edge : EdgeKind}
    {index : Option Int} (h : g.move id newParent edge index = .ok g') : Attached suits g' := by
  refine ha.shrink fun hp => ?_
  obtain ⟨hp, hne⟩ := ha.points_move hf h hp
  refine ⟨hp, ?_⟩
  rw [owningEdge_move hf h, if_neg (Ne.symm hne)]

theorem reorder (ha : Attached suits g) {id : NodeId} {index : Int} (h : g.reorder id index = .ok g') :
    Attached suits g' := by
  rcases reorder_ok h with rfl | ⟨_, _, _, _, rfl⟩
  · exact ha
  · exact ha.shrink fun hp => ⟨hp, rfl⟩

theorem update (ha : Attached suits g) {id : NodeId} {patch : Members} (h : g.update id patch = .ok g') :
    Attached suits g' := by
  obtain ⟨n, n', hn, _, hc, _, _, _, rfl⟩ := update_ok h
  refine ha.shrink fun {x t k} hp => ⟨hp.congr ?_, rfl⟩
  rw [clausesAt_next, clausesAt_putNode]
  by_cases hx : id = x
  · rw [if_pos hx, ← hx, clausesAt_of_node? hn, hc]
  · rw [if_neg hx]

/-! ## Definitions -/

/-- A node that is replaced by one without clauses leaves fewer names. -/
theorem putBare (ha : Attached suits g) (id : NodeId) {n : Node NodeId} (hn : n.clauses = []) :
    Attached suits (g.putNode id n) := by
  refine ha.shrink fun {x t k} hp => ?_
  obtain ⟨c, hc, ht⟩ := hp
  rw [clausesAt_putNode] at hc
  by_cases hx : id = x
  · rw [if_pos hx, hn] at hc
    simp at hc
  · rw [if_neg hx] at hc
    exact ⟨⟨c, hc, ht⟩, rfl⟩

theorem createDefinition (ha : Attached suits g) (hs : Sound g) {s : IdSupply} (hsup : Supplied g s)
    {name : String} {content : Option Draft}
    (hplain : ∀ draft, content = some draft → draft.body.clauses = [])
    {r : (Graph × NodeId) × IdSupply} (h : (g.createDefinition name content).run s = .ok r) :
    Attached suits r.1.1 := by
  obtain ⟨made, hmade, _, hcontent⟩ := createDefinition_ok h
  obtain ⟨hsound, hnodes⟩ := hs.createDefinitionAs hsup hmade
  have hagrees : Attached suits made := by
    obtain ⟨_, _, rfl⟩ := createDefinitionAs_ok hmade
    exact (ha.putBare _ rfl).shrink fun hp => ⟨hp, rfl⟩
  rcases hcontent with ⟨_, hr, _⟩ | ⟨draft, hd, _, hadd⟩
  · rw [hr]
    exact hagrees
  · exact hagrees.addAs hsound.toForest (hnodes _ (Nat.lt_succ_self _)) (hplain draft hd) hadd

/-- The clauses that named a node which becomes a definition name the reference in its place. -/
theorem promoteAs (ha : Attached suits g) (hf : Forest g) {defId refId id : NodeId} {name : String}
    (hdefId : g.node? defId = none) (hrefId : g.node? refId = none)
    (h : g.promoteAs defId refId id name = .ok g') : Attached suits g' := by
  obtain ⟨i⟩ := promoteAs_ok h
  have hback : ∀ {x t k}, i.wired.Points x t k → g.Points x t k ∧ refId ≠ t := by
    rintro x t k ⟨c, hc, ht⟩
    rw [i.clausesAt_wired hdefId] at hc
    split_ifs at hc
    · simp at hc
    · refine ⟨⟨c, hc, ht⟩, ?_⟩
      rintro rfl
      have hpresent := ha.target_present hf ⟨c, hc, ht⟩
      rw [hrefId] at hpresent
      simp at hpresent
  rw [i.eq_wired]
  refine (replaced (g := i.wired) (e := i.edge) ?_ ?_ ?_).shrink fun hp => ⟨hp, rfl⟩
  · rw [i.owningEdge_wired, if_pos rfl]
  · intro x k hp
    exact ha.source_eq (hback hp).1 i.owner
  · intro x t k hp hne
    obtain ⟨hp, href⟩ := hback hp
    rw [i.owningEdge_wired, if_neg href, if_neg (Ne.symm hne)]
    exact ha hp

/-- A reference that is pointed elsewhere, or a definition that is renamed, has no clauses. -/
theorem pointAll (name : String) (refs : List NodeId) :
    ∀ {g : Graph}, Attached suits g → Attached suits (refs.foldl (fun h ref => h.pointAt name ref) g) := by
  induction refs with
  | nil => exact fun ha => ha
  | cons ref refs ih =>
    intro g ha
    refine ih ?_
    show Attached suits (g.pointAt name ref)
    unfold pointAt
    split
    · exact ha.putBare _ rfl
    · exact ha

theorem renameDefinition (ha : Attached suits g) {oldName newName : String}
    (h : g.renameDefinition oldName newName = .ok g') : Attached suits g' := by
  rcases renameDefinition_ok h with rfl | ⟨id, n, _, _, _, _, _, rfl⟩
  · exact ha
  · have hrenamed : Attached suits (((g.putNode id { n with
        key := newName, body := .definition (.str newName) }).undefine oldName).define newName id) :=
      (ha.putBare id rfl).shrink fun hp => ⟨hp, rfl⟩
    exact (hrenamed.pointAll newName _).shrink fun hp => ⟨hp, rfl⟩

/-! ## Removing -/

/-- Forgetting nodes that no edge joins to the others keeps what clauses name attached. -/
theorem dropAll (ha : Attached suits g) {ids : List NodeId}
    (hc : ∀ x e, g.owningEdge x = some e → x ∈ ids → e.source ∈ ids) : Attached suits (g.dropAll ids) := by
  refine ha.shrink fun {x t k} hp => ?_
  obtain ⟨c, hmem, ht⟩ := hp
  rw [clausesAt_dropAll] at hmem
  split_ifs at hmem with hx
  · simp at hmem
  · have hp : g.Points x t k := ⟨c, hmem, ht⟩
    obtain ⟨k', _, _, ho⟩ := ha hp
    refine ⟨hp, ?_⟩
    rw [owningEdge_dropAll, if_neg fun hin => hx (hc t _ ho hin)]

/-- Taking a node off its branch leaves the rest attached: the clauses let go of it. -/
theorem detach (ha : Attached suits g) (hf : Forest g) (id : NodeId) :
    Attached suits (g.freed id) := by
  refine ha.shrink fun hp => ?_
  obtain ⟨hp, hne⟩ := ha.released hf hp
  refine ⟨hp, ?_⟩
  rw [owningEdge_freed, if_neg (Ne.symm hne)]

/-- What hangs below a node that was taken off its place hangs below what goes with the node. -/
theorem source_mem_of_released (hold : Forest old) (hw : Within old g) {id x : NodeId} {e : Edge}
    (he : (g.freed id).owningEdge x = some e) (hx : x ∈ old.subtreeIds id) :
    e.source ∈ old.subtreeIds id := by
  rw [owningEdge_freed] at he
  split_ifs at he with hid
  rw [hold.mem_subtreeIds_iff] at hx ⊢
  rcases below_iff.1 hx with heq | ⟨f, hf', hup⟩
  · exact absurd heq.symm hid
  · rw [hw.owners he] at hf'
    exact Option.some.inj hf' ▸ hup

theorem removeSubtree (ha : Attached suits g) (hf : Forest g) (hold : Forest old) (hw : Within old g)
    (id : NodeId) : Attached suits (g.removeSubtree old id) :=
  (ha.detach hf id).dropAll fun _ _ he hx => source_mem_of_released hold hw he hx

theorem removeAll (hold : Sound old) (ids : List NodeId)
    (hids : ∀ id ∈ ids, id ≠ old.rootId ∧ old.kind? id ≠ some .definition) :
    ∀ {g : Graph}, Attached suits g → Sound g → Within old g →
      Attached suits (ids.foldl (fun h id => h.removeSubtree old id) g) := by
  induction ids with
  | nil => exact fun ha _ _ => ha
  | cons id ids ih =>
    intro g ha hs hw
    have hid := hids id List.mem_cons_self
    exact ih (fun x hx => hids x (List.mem_cons_of_mem _ hx))
      (ha.removeSubtree hs.toForest hold.toForest hw id)
      (hs.removeSubtree hold hw hid.1 hid.2) (hw.removeSubtree id)

end Attached

end Graph

end FormGraph

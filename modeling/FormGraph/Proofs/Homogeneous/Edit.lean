import FormGraph.Proofs.SiblingKeys.Edit

/-!
# Arrays with items of one kind

`Homogeneous g` says that the items of every array are of one kind. Only the kinds and the owning
edges of a graph matter for it. Most edits take children away at most, and keep their kinds
(`Homogeneous.shrink`); adding and moving ask for the kind of the items there (`canAccept`), and put
a node next to items of its own kind (`Homogeneous.place`).

Turning a node into a definition does not ask: a reference takes the place of the node, whatever its
siblings are. It keeps an array homogeneous exactly when the node has no siblings there
(`Homogeneous.promoteAs_iff`).
-/

namespace FormGraph

namespace Graph

variable {g g' : Graph}

/-- The items of an array are of one kind. -/
def Homogeneous (g : Graph) : Prop :=
  ∀ ⦃x y p : NodeId⦄, g.kind? p = some .array → g.IsChild x p → g.IsChild y p →
    g.kind? x = g.kind? y

/-- A step that takes children away at most, and keeps kinds, keeps arrays homogeneous. -/
theorem Homogeneous.shrink (hh : Homogeneous g)
    (h : ∀ {x p}, g'.IsChild x p → g.IsChild x p ∧ g'.kind? x = g.kind? x ∧
      (g'.kind? p = some .array → g.kind? p = some .array)) : Homogeneous g' := by
  intro x y p hp hx hy
  obtain ⟨hx, hkx, hkp⟩ := h hx
  obtain ⟨hy, hky, _⟩ := h hy
  rw [hkx, hky]
  exact hh (hkp hp) hx hy

/-- A step that puts one node next to items of its own kind keeps arrays homogeneous. -/
theorem Homogeneous.place (hh : Homogeneous g) (new : NodeId)
    (hrest : ∀ {x p}, x ≠ new → g'.IsChild x p → g.IsChild x p ∧ g'.kind? x = g.kind? x ∧
      (g'.kind? p = some .array → g.kind? p = some .array))
    (hnew : ∀ {x p}, x ≠ new → g'.kind? p = some .array → g'.IsChild new p → g'.IsChild x p →
      g'.kind? x = g'.kind? new) : Homogeneous g' := by
  intro x y p hp hx hy
  by_cases hxn : x = new
  · by_cases hyn : y = new
    · rw [hxn, hyn]
    · subst hxn
      exact (hnew hyn hp hx hy).symm
  · by_cases hyn : y = new
    · subst hyn
      exact hnew hxn hp hy hx
    · obtain ⟨hx, hkx, hkp⟩ := hrest hxn hx
      obtain ⟨hy, hky, _⟩ := hrest hyn hy
      rw [hkx, hky]
      exact hh (hkp hp) hx hy

/-- The items of the array that a node is an item of. -/
def fellowItems (g : Graph) (id : NodeId) : List NodeId :=
  match g.parentId id with
  | some p => if g.kind? p = some .array then g.childIds p else []
  | none => []

/-- The node is an item of an array that has other items. -/
def sharesArray (g : Graph) (id : NodeId) : Bool := (g.fellowItems id).any fun x => x ≠ id

/-- Below an array nodes hang as children only. -/
theorem SoundBut.mem_fellowItems_iff (hs : Sound g) {id x : NodeId} :
    x ∈ g.fellowItems id ↔ ∃ p, g.kind? p = some .array ∧ g.IsChild id p ∧ g.IsChild x p := by
  unfold fellowItems
  constructor
  · intro hx
    split at hx
    · next p hp =>
      split_ifs at hx with hk
      · obtain ⟨e, ho, rfl⟩ := Option.map_eq_some_iff.1 hp
        obtain ⟨n, hn, hkind⟩ := g.kind?_eq_some_iff.1 hk
        have hfits := hs.fits ho hn
        obtain ⟨htarget, _⟩ := hs.listed ho
        refine ⟨e.source, hk, ?_, hs.toForest.mem_childIds_iff.1 hx⟩
        obtain ⟨source, target, kind⟩ := e
        dsimp only at hfits htarget ⊢
        rw [hkind] at hfits
        cases kind with
        | child => rw [IsChild, ho, htarget]
        | thenBranch | elseBranch => simp [isContainer, EdgeKind.isBranch, NodeKind.isGroup] at hfits
      · simp at hx
    · simp at hx
  · rintro ⟨p, hk, hid, hx⟩
    have hp : g.parentId id = some p := by
      rw [parentId, hid]
      rfl
    simp only [hp]
    rw [if_pos hk]
    exact hs.toForest.mem_childIds_iff.2 hx

theorem sharesArray_eq_true_iff (hs : Sound g) {id : NodeId} :
    g.sharesArray id = true ↔
      ∃ p x, g.kind? p = some .array ∧ g.IsChild id p ∧ g.IsChild x p ∧ x ≠ id := by
  unfold sharesArray
  simp only [List.any_eq_true, decide_eq_true_eq, hs.mem_fellowItems_iff]
  constructor
  · rintro ⟨x, ⟨p, hp, hid, hx⟩, hne⟩
    exact ⟨p, x, hp, hid, hx, hne⟩
  · rintro ⟨p, x, hp, hid, hx, hne⟩
    exact ⟨x, ⟨p, hp, hid, hx⟩, hne⟩

/-- Pointing references elsewhere leaves what owns a node alone. -/
theorem owningEdge_pointAll (name : String) (refs : List NodeId) (x : NodeId) :
    ∀ g : Graph, (refs.foldl (fun h ref => h.pointAt name ref) g).owningEdge x = g.owningEdge x := by
  induction refs with
  | nil => exact fun _ => rfl
  | cons ref refs ih =>
    intro g
    rw [List.foldl_cons, ih, pointAt]
    split <;> rfl

/-! ## What a place asks for -/

/-- The children that are found are the nodes that hang below as children. -/
theorem Forest.mem_children (hf : Forest g) {p x : NodeId} {children : List (NodeId × Node NodeId)}
    (h : g.children p = .ok children) (hx : g.IsChild x p) :
    ∃ n, (x, n) ∈ children ∧ g.node? x = some n := by
  obtain ⟨hids, hnodes⟩ := children_ok h
  have hmem : x ∈ children.map Prod.fst := by
    rw [hids]
    exact hf.mem_childIds_iff.2 hx
  obtain ⟨⟨x, n⟩, hc, rfl⟩ := List.mem_map.1 hmem
  exact ⟨n, hc, hnodes _ hc⟩

/-- A node that is accepted into an array of a homogeneous graph is of the kind of the items that are
there, the node itself apart if it is one of them. -/
theorem Homogeneous.kind_of_checkPlace (hh : Homogeneous g) (hf : Forest g) {p : NodeId}
    {parent : Node NodeId} {k : NodeKind} {moving : Option NodeId} {u : Unit}
    (hp : g.node? p = some parent) (hk : parent.kind = .array)
    (h : g.checkPlace p parent k .child moving = .ok u) {x : NodeId} (hx : g.IsChild x p)
    (hne : moving ≠ some x) : g.kind? x = some k := by
  obtain ⟨children, hchildren, haccept⟩ := checkPlace_ok h
  obtain ⟨n, hmem, hn⟩ := hf.mem_children hchildren hx
  have hstay : n.kind ∈ (children.filter fun c => moving ≠ some c.1).map fun c => c.2.kind :=
    List.mem_map.2 ⟨(x, n), List.mem_filter.2 ⟨hmem, by simpa using hne⟩, rfl⟩
  obtain ⟨_, hids⟩ := children_ok hchildren
  cases hfirst : children.filter fun c => moving ≠ some c.1 with
  | nil =>
    rw [hfirst] at hstay
    simp at hstay
  | cons first rest =>
    have hin : first ∈ children :=
      (List.mem_filter.1 (show first ∈ children.filter fun c => moving ≠ some c.1 by
        rw [hfirst]
        exact List.mem_cons_self)).1
    rw [hfirst, List.map_cons, hk] at haccept
    have hsame : first.2.kind = k := by
      unfold canAccept at haccept
      split_ifs at haccept with hdef hbranch
      · simp [EdgeKind.isBranch] at hbranch
      · simpa using haccept
    have hfirstChild : g.IsChild first.1 p := by
      refine hf.mem_childIds_iff.1 ?_
      rw [← (children_ok hchildren).1]
      exact List.mem_map_of_mem hin
    rw [← hsame, ← g.kind?_of_node? (hids _ hin)]
    exact hh (by rw [g.kind?_of_node? hp, hk]) hx hfirstChild

/-- The place that a node was added at had been asked. -/
theorem checkPlace_of_addAs {id parentId : NodeId} {draft : Draft} {edge : EdgeKind}
    {index : Option Int} (h : g.addAs id draft parentId edge index = .ok g') :
    ∃ parent u, g.node? parentId = some parent ∧
      g.checkPlace parentId parent draft.kind edge none = .ok u := by
  unfold addAs at h
  simp only [bind_eq_ok_iff, parentNode_eq_ok_iff] at h
  obtain ⟨parent, hp, u, hcheck, _⟩ := h
  exact ⟨parent, u, hp, hcheck⟩

/-- The place that a node was moved to had been asked. -/
theorem checkPlace_of_move {id newParent : NodeId} {edge : EdgeKind} {index : Option Int}
    (h : g.move id newParent edge index = .ok g') :
    ∃ n parent u, g.node? id = some n ∧ g.node? newParent = some parent ∧
      g.checkPlace newParent parent n.kind edge (some id) = .ok u := by
  unfold move at h
  simp only [refuse_bind, ite_refuse_eq_ok_iff, bind_eq_ok_iff, get_eq_ok_iff,
    parentNode_eq_ok_iff] at h
  obtain ⟨_, n, hn, _, parent, hp, _, _, u, hcheck, _⟩ := h
  exact ⟨n, parent, u, hn, hp, hcheck⟩

namespace Homogeneous

/-! ## Placing nodes -/

theorem addAs (hh : Homogeneous g) (hf : Forest g) {id parentId : NodeId} {draft : Draft}
    {edge : EdgeKind} {index : Option Int} (hfree : g.node? id = none)
    (h : g.addAs id draft parentId edge index = .ok g') : Homogeneous g' := by
  obtain ⟨parent, u, hp, hcheck⟩ := checkPlace_of_addAs h
  obtain ⟨_, taken, key, es, _, _, _, _, _, _, rfl⟩ := addAs_ok h
  have hkinds : ∀ x, ((((g.putNode id (draft.build key)).wire ⟨parentId, id, edge⟩
      es).next).kind? x) = if id = x then some draft.kind else g.kind? x := by
    intro x
    rw [kind?_next, kind?_wire, kind?_putNode]
    rfl
  have howner : ∀ x, (((g.putNode id (draft.build key)).wire ⟨parentId, id, edge⟩
      es).next).owningEdge x = if id = x then some ⟨parentId, id, edge⟩ else g.owningEdge x := by
    intro x
    rw [owningEdge_next, owningEdge_wire, owningEdge_putNode]
  have hother : ∀ {x p}, x ≠ id → (((g.putNode id (draft.build key)).wire ⟨parentId, id, edge⟩
      es).next).IsChild x p → g.IsChild x p := by
    intro x p hx hc
    rwa [IsChild, howner, if_neg (Ne.symm hx)] at hc
  refine hh.place id (fun {x p} hx hc => ⟨hother hx hc, ?_, ?_⟩) fun {x p} hx harray hid hc => ?_
  · rw [hkinds, if_neg (Ne.symm hx)]
  · intro hk
    rwa [hkinds, if_neg] at hk
    rintro rfl
    have hpresent := ((hother hx hc).present hf).2
    simp [hfree] at hpresent
  · rw [IsChild, howner, if_pos rfl] at hid
    obtain ⟨rfl, -, rfl⟩ := Edge.mk.inj (Option.some.inj hid)
    have hne : id ≠ parentId := by
      rintro rfl
      simp [hfree] at hp
    rw [hkinds, if_neg hne, g.kind?_of_node? hp] at harray
    rw [hkinds, hkinds, if_neg (Ne.symm hx), if_pos rfl]
    exact hh.kind_of_checkPlace hf hp (Option.some.inj harray) hcheck (hother hx hc) (by simp)

theorem move (hh : Homogeneous g) (hf : Forest g) {id newParent : NodeId} {edge : EdgeKind}
    {index : Option Int} (h : g.move id newParent edge index = .ok g') : Homogeneous g' := by
  obtain ⟨m, parent, u, hm, hp, hcheck⟩ := checkPlace_of_move h
  have hkinds := kind?_move hf h
  refine hh.place id (fun {x p} hx hc => ⟨?_, hkinds x, fun hk => ?_⟩)
    fun {x p} hx harray hid hc => ?_
  · rwa [IsChild, owningEdge_move hf h, if_neg (Ne.symm hx)] at hc
  · rwa [hkinds] at hk
  · rw [IsChild, owningEdge_move hf h, if_pos rfl] at hid
    obtain ⟨rfl, -, rfl⟩ := Edge.mk.inj (Option.some.inj hid)
    rw [IsChild, owningEdge_move hf h, if_neg (Ne.symm hx)] at hc
    rw [hkinds, g.kind?_of_node? hp] at harray
    rw [hkinds, hkinds, g.kind?_of_node? hm]
    exact hh.kind_of_checkPlace hf hp (Option.some.inj harray) hcheck hc
      (by simpa using Ne.symm hx)

theorem reorder (hh : Homogeneous g) {id : NodeId} {index : Int}
    (h : g.reorder id index = .ok g') : Homogeneous g' := by
  rcases reorder_ok h with rfl | ⟨_, _, _, _, rfl⟩
  · exact hh
  · exact hh.shrink fun hc => ⟨hc, rfl, fun hk => hk⟩

/-! ## Changing a node -/

/-- A node that keeps its kind. -/
theorem putNode (hh : Homogeneous g) {id : NodeId} {n m : Node NodeId} (hn : g.node? id = some n)
    (hk : m.kind = n.kind) : Homogeneous (g.putNode id m).next := by
  have hkinds : ∀ x, ((g.putNode id m).next).kind? x = g.kind? x := by
    intro x
    rw [kind?_next, kind?_putNode]
    split
    · next hx => rw [← hx, g.kind?_of_node? hn, hk]
    · rfl
  exact hh.shrink fun hc => ⟨hc, hkinds _, fun h => hkinds _ ▸ h⟩

theorem update (hh : Homogeneous g) {id : NodeId} {patch : Members}
    (h : g.update id patch = .ok g') : Homogeneous g' := by
  obtain ⟨n, n', hn, hk, _, _, _, _, rfl⟩ := update_ok h
  exact hh.putNode hn hk

theorem setClauses (hh : Homogeneous g) {id : NodeId} {n : Node NodeId} (hn : g.node? id = some n)
    (cs : List (Clause NodeId)) : Homogeneous (g.putNode id (n.setClauses cs)).next :=
  hh.putNode hn (Node.kind_setClauses n cs)

/-! ## Definitions -/

theorem createDefinition (hh : Homogeneous g) (hs : Sound g) {s : IdSupply} (hsup : Supplied g s)
    {name : String} {content : Option Draft} {r : (Graph × NodeId) × IdSupply}
    (h : (g.createDefinition name content).run s = .ok r) : Homogeneous r.1.1 := by
  obtain ⟨made, hmade, _, hcontent⟩ := createDefinition_ok h
  obtain ⟨hsound, hsupplied⟩ := hs.createDefinitionAs hsup hmade
  have hhom : Homogeneous made := by
    obtain ⟨_, _, rfl⟩ := createDefinitionAs_ok hmade
    have hfree := hsup _ (Nat.lt_succ_self s.used)
    refine hh.shrink fun {x p} hc => ⟨hc, ?_, fun hk => ?_⟩
    · rw [kind?_next, kind?_define, kind?_putNode, if_neg]
      rintro rfl
      have hpresent := (IsChild.present hs.toForest (x := IdSupply.nameOf (s.used + 1)) hc).1
      simp [hfree] at hpresent
    · rw [kind?_next, kind?_define, kind?_putNode] at hk
      split_ifs at hk
      · simp [Node.ofDefinition, Node.kind, Body.kind] at hk
      · exact hk
  rcases hcontent with ⟨_, hr, _⟩ | ⟨draft, _, _, hadd⟩
  · rw [hr]
    exact hhom
  · exact hhom.addAs hsound.toForest (hsupplied _ (Nat.lt_succ_self _)) hadd

theorem renameDefinition (hh : Homogeneous g) (hs : Sound g) {oldName newName : String}
    (h : g.renameDefinition oldName newName = .ok g') : Homogeneous g' := by
  obtain ⟨_, hkinds⟩ := hs.renameDefinition h
  refine hh.shrink fun {x p} hc => ⟨?_, hkinds x, fun hk => by rwa [hkinds] at hk⟩
  rcases renameDefinition_ok h with rfl | ⟨id, n, _, _, _, _, _, rfl⟩
  · exact hc
  · rwa [IsChild, owningEdge_next, owningEdge_pointAll] at hc

/-- Turning a node into a definition keeps arrays homogeneous exactly when the node is the only item
of its array, or no item of one: the reference that stays is of another kind. -/
theorem promoteAs_iff (hh : Homogeneous g) (hs : Sound g) {defId refId id : NodeId} {name : String}
    (hdefId : g.node? defId = none) (hrefId : g.node? refId = none)
    (h : g.promoteAs defId refId id name = .ok g') :
    Homogeneous g' ↔ g.sharesArray id = false := by
  obtain ⟨i⟩ := promoteAs_ok h
  have hthere : ∀ {x p}, g.IsChild x p → (x ≠ refId ∧ x ≠ defId) ∧ p ≠ refId ∧ p ≠ defId := by
    intro x p hc
    obtain ⟨hx, hp⟩ := hc.present hs.toForest
    refine ⟨⟨?_, ?_⟩, ?_, ?_⟩ <;> rintro rfl <;> simp_all
  have hkept : ∀ {x}, x ≠ refId → x ≠ defId → g'.kind? x = g.kind? x := by
    intro x hr hd
    rw [i.kind?, if_neg (Ne.symm hr), if_neg (Ne.symm hd)]
    split
    · next hx => rw [← hx, g.kind?_of_node? i.node_eq]
    · rfl
  rw [← Bool.not_eq_true, sharesArray_eq_true_iff hs]
  constructor
  · rintro hh' ⟨p, x, hp, hid, hx, hne⟩
    have hedge : i.edge = ⟨p, id, .child⟩ := Option.some.inj (i.owner.symm.trans hid)
    obtain ⟨⟨hxr, hxd⟩, hpr, hpd⟩ := hthere hx
    have hrefChild : g'.IsChild refId p := by
      rw [IsChild, i.owningEdge, if_pos rfl, hedge]
    have hxChild : g'.IsChild x p := by
      rwa [IsChild, i.owningEdge, if_neg (Ne.symm hxr), if_neg (Ne.symm hne)]
    have hsame := hh' (by rw [hkept hpr hpd, hp]) hxChild hrefChild
    rw [hkept hxr hxd, i.kind? refId, if_pos rfl, hh hp hx hid, g.kind?_of_node? i.node_eq] at hsame
    exact i.not_reference (Option.some.inj hsame)
  · intro halone x y p hp hx hy
    -- of two items of an array, neither is the reference: it would have a sibling in the array
    have hcase : ∀ {x}, g'.IsChild x p → x = refId ∧ g.IsChild id p ∨
        x ≠ refId ∧ x ≠ id ∧ g.IsChild x p := by
      intro x hx
      rw [IsChild, i.owningEdge] at hx
      split_ifs at hx with hr hi
      · obtain ⟨hsource, -, hkind⟩ := Edge.mk.inj (Option.some.inj hx)
        exact Or.inl ⟨hr.symm, by rw [IsChild, i.owningEdge_node hs.toForest, hsource, hkind]⟩
      · -- the promoted node is the content of the definition now, and that is no array
        obtain ⟨rfl, -, -⟩ := Edge.mk.inj (Option.some.inj hx)
        rw [i.kind?, if_neg (i.ne_of_free hdefId), if_pos rfl] at hp
        split at hp <;> cases hp
      · exact Or.inr ⟨Ne.symm hr, Ne.symm hi, hx⟩
    have hkp : ∀ {x}, g.IsChild x p → g.kind? p = some .array := by
      intro x hx
      obtain ⟨_, hpr, hpd⟩ := hthere hx
      rwa [hkept hpr hpd] at hp
    rcases hcase hx with ⟨rfl, hid⟩ | ⟨hxr, hxi, hxc⟩ <;>
      rcases hcase hy with ⟨rfl, hid'⟩ | ⟨hyr, hyi, hyc⟩
    · rfl
    · exact absurd ⟨p, y, hkp hid, hid, hyc, hyi⟩ halone
    · exact absurd ⟨p, x, hkp hid', hid', hxc, hxi⟩ halone
    · rw [hkept hxr (hthere hxc).1.2, hkept hyr (hthere hyc).1.2]
      exact hh (hkp hxc) hxc hyc

/-! ## Removing -/

theorem dropAll (hh : Homogeneous g) (ids : List NodeId) : Homogeneous (g.dropAll ids) := by
  refine hh.shrink fun {x p} hc => ?_
  rw [IsChild, owningEdge_dropAll] at hc
  split_ifs at hc with hx
  refine ⟨hc, by rw [kind?_dropAll, if_neg hx], fun hk => ?_⟩
  rw [kind?_dropAll] at hk
  split_ifs at hk
  exact hk

theorem removeSubtree (hh : Homogeneous g) (old : Graph) (id : NodeId) :
    Homogeneous (g.removeSubtree old id) := by
  rw [removeSubtree_eq]
  refine Homogeneous.dropAll (hh.shrink fun {x p} hc => ?_) _
  rw [IsChild, owningEdge_freed] at hc
  split_ifs at hc
  exact ⟨hc, kind?_freed g id x, fun hk => by rwa [kind?_freed] at hk⟩

theorem removeAll (old : Graph) (ids : List NodeId) :
    ∀ {g : Graph}, Homogeneous g →
      Homogeneous (ids.foldl (fun h id => h.removeSubtree old id) g) := by
  induction ids with
  | nil => exact fun hh => hh
  | cons id ids ih => exact fun hh => ih (hh.removeSubtree old id)

end Homogeneous

end Graph

end FormGraph

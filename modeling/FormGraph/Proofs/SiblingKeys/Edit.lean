import FormGraph.Proofs.Ownership.Change
import FormGraph.Proofs.Tidy

/-!
# Children with different keys

`Keyed g` says that no two children of one node have the same key. Only the keys and the owning edges
of a graph matter for it, so an edit is described by what it does to these two: most edits take
children away at most (`Keyed.shrink`), and where one puts a node under a parent, it chose a key that
the children there do not have (`Keyed.place`).
-/

namespace FormGraph

namespace Graph

variable {g g' old : Graph}

/-! ## Keys after a step -/

theorem key?_of_node? {id : NodeId} {n : Node NodeId} (h : g.node? id = some n) :
    g.key? id = some n.key := by
  rw [key?, h, Option.map_some]

theorem key?_putNode (id : NodeId) (n : Node NodeId) (x : NodeId) :
    (g.putNode id n).key? x = if id = x then some n.key else g.key? x := by
  rw [key?, node?_putNode]
  split <;> rfl

@[simp] theorem key?_wire (e : Edge) (es : List Edge) (x : NodeId) :
    (g.wire e es).key? x = g.key? x := rfl

@[simp] theorem key?_define (name : String) (id x : NodeId) :
    (g.define name id).key? x = g.key? x := rfl

@[simp] theorem key?_next (x : NodeId) : g.next.key? x = g.key? x := rfl

@[simp] theorem key?_detach (id x : NodeId) : (g.detach id).key? x = g.key? x := by
  rw [key?, node?_detach, key?]

theorem key?_dropAll (ids : List NodeId) (x : NodeId) :
    (g.dropAll ids).key? x = if x ∈ ids then none else g.key? x := by
  rw [key?, node?_dropAll]
  split <;> rfl

theorem key_setClauses (n : Node NodeId) (cs : List (Clause NodeId)) :
    (n.setClauses cs).key = n.key := by
  obtain ⟨_, body, _, _, _, _, _, _, _⟩ := n
  cases body <;> rfl

@[simp] theorem key?_retarget (groupId t : NodeId) (new : Option NodeId) (x : NodeId) :
    (g.retarget groupId t new).key? x = g.key? x := by
  rw [key?, key?, node?_retarget]
  split
  · rw [Option.map_map]
    congr 1
    funext n
    exact key_setClauses n _
  · rfl

@[simp] theorem key?_releaseBranch (e : Option Edge) (x : NodeId) :
    (g.releaseBranch e).key? x = g.key? x := by
  cases e with
  | none => rfl
  | some e =>
    unfold releaseBranch
    dsimp only
    split
    · exact key?_retarget e.source e.target none x
    · rfl

theorem key?_enclosed {defId id x : NodeId} {n : Node NodeId} (name : String)
    (hn : g.node? id = some n) (hx : x ≠ defId) :
    (g.enclosed defId id n name).key? x = g.key? x := by
  rw [key?, node?_enclosed, key?]
  split_ifs with hid hd
  · rw [← hid, hn]
    rfl
  · exact absurd hd.symm hx
  · rfl

/-- The reference in the place of a node has its key. -/
theorem ReferenceInPlace.key?_wired {defId refId id : NodeId} {name : String}
    (i : ReferenceInPlace g defId refId id name g') (x : NodeId) : i.wired.key? x =
      if refId = x then some i.node.key else (g.enclosed defId id i.node name).key? x := by
  rw [ReferenceInPlace.wired, key?_wire, key?_putNode]
  rfl

/-- Pointing a reference elsewhere leaves its key alone. -/
@[simp] theorem key?_pointAt (name : String) (ref x : NodeId) :
    (g.pointAt name ref).key? x = g.key? x := by
  unfold pointAt
  split
  · next n hn =>
    rw [key?_putNode]
    split
    · next hx => rw [← hx, key?_of_node? hn]
    · rfl
  · rfl

theorem key?_pointAll (name : String) (refs : List NodeId) (x : NodeId) :
    ∀ g : Graph, (refs.foldl (fun h ref => h.pointAt name ref) g).key? x = g.key? x := by
  induction refs with
  | nil => exact fun _ => rfl
  | cons ref refs ih => exact fun g => (ih _).trans (key?_pointAt name ref x)

/-! ## Different keys -/

/-- The node hangs below the other one as a child. -/
def IsChild (g : Graph) (x p : NodeId) : Prop := g.owningEdge x = some ⟨p, x, .child⟩

/-- The children of a node have different keys. -/
def Keyed (g : Graph) : Prop :=
  ∀ ⦃x y p : NodeId⦄, g.IsChild x p → g.IsChild y p → g.key? x = g.key? y → x = y

theorem IsChild.present (hf : Forest g) {x p : NodeId} (h : g.IsChild x p) :
    (g.node? x).isSome ∧ (g.node? p).isSome := hf.present h

/-- The children of a node are those that are listed. -/
theorem Forest.mem_childIds_iff (hf : Forest g) {x p : NodeId} :
    x ∈ g.childIds p ↔ g.IsChild x p := by
  constructor
  · intro hx
    obtain ⟨e, he, rfl⟩ := List.mem_map.1 hx
    obtain ⟨hmem, hkind⟩ := List.mem_filter.1 he
    have hsource := hf.source_eq hmem
    have hown := hf.owned hmem
    obtain ⟨source, target, kind⟩ := e
    dsimp only at hsource hown hkind ⊢
    rw [IsChild, hown, hsource, of_decide_eq_true hkind]
  · intro h
    exact List.mem_map.2 ⟨⟨p, x, .child⟩, List.mem_filter.2 ⟨(hf.listed h).2, decide_eq_true rfl⟩,
      rfl⟩

theorem IsChild.unique {x p q : NodeId} (h : g.IsChild x p) (h' : g.IsChild x q) : p = q := by
  have heq := Option.some.inj (h.symm.trans h')
  exact congrArg Edge.source heq

/-- A step that takes children away at most keeps their keys different. -/
theorem Keyed.shrink (hk : Keyed g)
    (h : ∀ {x p}, g'.IsChild x p → g.IsChild x p ∧ g'.key? x = g.key? x) : Keyed g' := by
  intro x y p hx hy heq
  obtain ⟨hx, hkx⟩ := h hx
  obtain ⟨hy, hky⟩ := h hy
  rw [hkx, hky] at heq
  exact hk hx hy heq

/-- A step that puts one node in its place, under a key that its siblings do not have, keeps the keys
different. -/
theorem Keyed.place (hk : Keyed g) (new : NodeId)
    (hrest : ∀ {x p}, x ≠ new → g'.IsChild x p → g.IsChild x p ∧ g'.key? x = g.key? x)
    (hnew : ∀ {x p}, x ≠ new → g'.IsChild new p → g'.IsChild x p → g'.key? x ≠ g'.key? new) :
    Keyed g' := by
  intro x y p hx hy heq
  by_cases hxn : x = new
  · by_cases hyn : y = new
    · exact hxn.trans hyn.symm
    · subst hxn
      exact absurd heq.symm (hnew hyn hx hy)
  · by_cases hyn : y = new
    · subst hyn
      exact absurd heq (hnew hxn hy hx)
    · obtain ⟨hx, hkx⟩ := hrest hxn hx
      obtain ⟨hy, hky⟩ := hrest hyn hy
      rw [hkx, hky] at heq
      exact hk hx hy heq

/-- No node is listed twice among the children of a node. -/
theorem Forest.nodup_childIds (hf : Forest g) (id : NodeId) : (g.childIds id).Nodup := by
  refine List.Nodup.map_on (fun e he f hf' heq => ?_) ((hf.nodup id).filter _)
  exact hf.edge_unique (List.mem_filter.1 he).1 (List.mem_filter.1 hf').1 heq

/-- The keys of the children of a node are different. -/
theorem Keyed.nodup (hk : Keyed g) (hf : Forest g) (id : NodeId) :
    ((g.childIds id).map g.key?).Nodup :=
  (hf.nodup_childIds id).map_on fun _ hx _ hy heq =>
    hk (hf.mem_childIds_iff.1 hx) (hf.mem_childIds_iff.1 hy) heq

/-- The keys that are found taken are those of the children there are. -/
theorem mem_siblingKeys (hf : Forest g) {p : NodeId} {exclude : Option NodeId} {taken : List String}
    (h : g.siblingKeys p .child exclude = .ok taken) {x : NodeId} (hx : g.IsChild x p)
    (hne : exclude ≠ some x) {k : String} (hk : g.key? x = some k) : k ∈ taken := by
  have hmem : x ∈ (g.targetsOfKind p .child).filter fun t => exclude ≠ some t := by
    exact List.mem_filter.2 ⟨hf.mem_childIds_iff.2 hx, by simpa using hne⟩
  unfold siblingKeys at h
  rw [mapM_eq_ok_iff] at h
  generalize ((g.targetsOfKind p .child).filter fun t => exclude ≠ some t) = ts at h hmem
  induction h with
  | nil => simp at hmem
  | cons hkey _ ih =>
    rcases List.mem_cons.1 hmem with rfl | hmem
    · simp only [bind_eq_ok_iff, pointedAt_eq_ok_iff, pure_eq_ok_iff] at hkey
      obtain ⟨n, hn, rfl⟩ := hkey
      rw [key?_of_node? hn] at hk
      exact Option.some.inj hk ▸ List.mem_cons_self
    · exact List.mem_cons_of_mem _ (ih hmem)

namespace Keyed

/-! ## Placing nodes -/

/-- The key that is found for a new child is not taken. -/
theorem keyFor_not_mem {draft : Draft} {parentId : NodeId} {taken : List String} {key : String}
    (h : keyFor draft parentId .child taken = .ok key) : key ∉ taken := by
  unfold keyFor at h
  split at h
  · simp only [bind_eq_ok_iff, pure_eq_ok_iff] at h
    obtain ⟨title, _, rfl⟩ := h
    exact Key.unique_not_mem _ _
  · simp only [ite_refuse_eq_ok_iff] at h
    obtain ⟨_, htaken, hkey⟩ := h
    obtain rfl := Except.ok.inj hkey
    simpa using htaken
  · split_ifs at h <;> simp [refuse, breakDown] at h

theorem addAs (hk : Keyed g) (hf : Forest g) {id parentId : NodeId} {draft : Draft}
    {edge : EdgeKind} {index : Option Int} (h : g.addAs id draft parentId edge index = .ok g') :
    Keyed g' := by
  obtain ⟨_, taken, key, es, _, _, _, htaken, hkey, _, rfl⟩ := addAs_ok h
  have hother : ∀ {x p}, x ≠ id → (((g.putNode id (draft.build key)).wire ⟨parentId, id, edge⟩
      es).next).IsChild x p → g.IsChild x p := by
    intro x p hx hc
    unfold IsChild at hc
    rwa [owningEdge_next, owningEdge_wire, if_neg (Ne.symm hx), owningEdge_putNode] at hc
  have hkeys : ∀ {x}, x ≠ id → (((g.putNode id (draft.build key)).wire ⟨parentId, id, edge⟩
      es).next).key? x = g.key? x := by
    intro x hx
    rw [key?_next, key?_wire, key?_putNode, if_neg (Ne.symm hx)]
  refine hk.place id (fun hx hc => ⟨hother hx hc, hkeys hx⟩) fun {x p} hx hid hc heq => ?_
  unfold IsChild at hid
  rw [owningEdge_next, owningEdge_wire, if_pos rfl] at hid
  obtain ⟨rfl, -, rfl⟩ := Edge.mk.inj (Option.some.inj hid)
  rw [hkeys hx, key?_next, key?_wire, key?_putNode, if_pos rfl] at heq
  exact keyFor_not_mem hkey (mem_siblingKeys hf htaken (hother hx hc) (by simp) heq)

/-- A node that is moved gets a key that is not taken. -/
theorem rekeyed_not_mem (n : Node NodeId) (taken : List String) :
    (rekeyed n taken).key ∉ taken := by
  unfold rekeyed
  split
  · exact Key.unique_not_mem _ _
  · next h => simpa using h

theorem move (hk : Keyed g) (hf : Forest g) {id newParent : NodeId} {edge : EdgeKind}
    {index : Option Int} (h : g.move id newParent edge index = .ok g') : Keyed g' := by
  obtain ⟨n, _, taken, es, _, hn, _, _, _, _, htaken, _, hg⟩ := move_steps hf h
  have hmoved : ∀ x, g'.key? x = if id = x then some (rekeyed n taken).key else g.key? x := by
    intro x
    rw [hg, key?_next, key?_wire, key?_putNode, freed, key?_releaseBranch, key?_detach]
  refine hk.place id (fun {x p} hx hc => ?_) fun {x p} hx hid hc heq => ?_
  · rw [IsChild, owningEdge_move hf h, if_neg (Ne.symm hx)] at hc
    exact ⟨hc, by rw [hmoved, if_neg (Ne.symm hx)]⟩
  · rw [IsChild, owningEdge_move hf h, if_pos rfl] at hid
    obtain ⟨rfl, -, rfl⟩ := Edge.mk.inj (Option.some.inj hid)
    rw [IsChild, owningEdge_move hf h, if_neg (Ne.symm hx)] at hc
    rw [hmoved, hmoved, if_neg (Ne.symm hx), if_pos rfl] at heq
    exact rekeyed_not_mem n taken
      (mem_siblingKeys hf htaken hc (by simpa using Ne.symm hx) heq)

theorem reorder (hk : Keyed g) {id : NodeId} {index : Int} (h : g.reorder id index = .ok g') :
    Keyed g' := by
  rcases reorder_ok h with rfl | ⟨_, _, _, _, rfl⟩
  · exact hk
  · exact hk.shrink fun hc => ⟨hc, rfl⟩

/-! ## Changing a node -/

/-- A new key that a patch gives a child is not taken. -/
theorem readKey_ok {id : NodeId} {n : Node NodeId} {patch : Members} {key : String}
    (h : Patch.readKey g id n patch = .ok key) :
    key = n.key ∨ ∀ p, g.IsChild id p →
      ∃ taken, g.siblingKeys p .child (some id) = .ok taken ∧ key ∉ taken := by
  unfold Patch.readKey at h
  split at h
  · exact Or.inl (Except.ok.inj h).symm
  · split_ifs at h with hsame hvalid
    · exact Or.inl ((Except.ok.inj h).symm.trans hsame)
    · simp [refuse] at h
    · refine Or.inr fun p hp => ?_
      unfold IsChild at hp
      simp only [hp] at h
      rw [if_neg (by simp), bind_eq_ok_iff] at h
      obtain ⟨taken, htaken, h⟩ := h
      refine ⟨taken, htaken, ?_⟩
      split_ifs at h with hc
      · simp [refuse] at h
      · obtain rfl := Except.ok.inj h
        simpa using hc
  · simp [refuse] at h

theorem update (hk : Keyed g) (hf : Forest g) {id : NodeId} {patch : Members}
    (h : g.update id patch = .ok g') : Keyed g' := by
  obtain ⟨n, n', hn, _, _, _, hkey, _, rfl⟩ := update_ok h
  have hkeys : ∀ x, (g.putNode id n').next.key? x = if id = x then some n'.key else g.key? x :=
    fun x => key?_putNode id n' x
  refine hk.place id (fun hx hc => ⟨hc, by rw [hkeys, if_neg (Ne.symm hx)]⟩)
    fun {x p} hx hid hc heq => ?_
  rw [hkeys, hkeys, if_neg (Ne.symm hx), if_pos rfl] at heq
  rcases readKey_ok hkey with hsame | hfree
  · exact hx (hk hc hid (by rw [heq, hsame, key?_of_node? hn]))
  · obtain ⟨taken, htaken, hnot⟩ := hfree p hid
    exact hnot (mem_siblingKeys hf htaken hc (by simpa using Ne.symm hx) heq)

theorem setClauses (hk : Keyed g) {id : NodeId} {n : Node NodeId} (hn : g.node? id = some n)
    (cs : List (Clause NodeId)) : Keyed (g.putNode id (n.setClauses cs)).next := by
  refine hk.shrink fun {x p} hc => ⟨hc, ?_⟩
  rw [key?_next, key?_putNode]
  split
  · next hx => rw [← hx, key?_of_node? hn, key_setClauses]
  · rfl

/-! ## Definitions -/

/-- A node that is no child anywhere can be given any key. -/
theorem putTop (hk : Keyed g) {id : NodeId} (htop : g.owningEdge id = none) (n : Node NodeId) :
    Keyed (g.putNode id n) := by
  refine hk.shrink fun {x p} hc => ⟨hc, ?_⟩
  rw [key?_putNode, if_neg]
  rintro rfl
  rw [IsChild, owningEdge_putNode, htop] at hc
  simp at hc

theorem createDefinition (hk : Keyed g) (hs : Sound g) {s : IdSupply} (hsup : Supplied g s)
    {name : String} {content : Option Draft} {r : (Graph × NodeId) × IdSupply}
    (h : (g.createDefinition name content).run s = .ok r) : Keyed r.1.1 := by
  obtain ⟨made, hmade, _, hcontent⟩ := createDefinition_ok h
  obtain ⟨hsound, _⟩ := hs.createDefinitionAs hsup hmade
  have hkeyed : Keyed made := by
    obtain ⟨_, _, rfl⟩ := createDefinitionAs_ok hmade
    have hfree := hs.toForest.owningEdge_eq_none (hsup _ (Nat.lt_succ_self _))
    exact (hk.putTop hfree _).shrink fun hc => ⟨hc, rfl⟩
  rcases hcontent with ⟨_, hr, _⟩ | ⟨draft, _, _, hadd⟩
  · rw [hr]
    exact hkeyed
  · exact hkeyed.addAs hsound.toForest hadd

/-- The node that becomes the content of a definition is its only child. -/
theorem enclosed (hk : Keyed g) (hf : Forest g) {defId id : NodeId} {n : Node NodeId}
    (name : String) (hdefId : g.node? defId = none) (hn : g.node? id = some n) :
    Keyed (g.enclosed defId id n name) := by
  have hfresh : ∀ {x p}, g.IsChild x p → x ≠ defId ∧ p ≠ defId := by
    intro x p hc
    obtain ⟨hx, hp⟩ := hc.present hf
    constructor
    · rintro rfl
      simp [hdefId] at hx
    · rintro rfl
      simp [hdefId] at hp
  have hother : ∀ {x p}, x ≠ id → (g.enclosed defId id n name).IsChild x p → g.IsChild x p := by
    intro x p hx hc
    rwa [IsChild, owningEdge_enclosed, if_neg (Ne.symm hx)] at hc
  refine hk.place id
    (fun hx hc => ⟨hother hx hc, key?_enclosed name hn (hfresh (hother hx hc)).1⟩)
    fun {x p} hx hid hc _ => ?_
  rw [IsChild, owningEdge_enclosed, if_pos rfl] at hid
  obtain ⟨rfl, -, -⟩ := Edge.mk.inj (Option.some.inj hid)
  exact (hfresh (hother hx hc)).2 rfl

/-- The reference clashes with no sibling that the node did not. -/
theorem promoteAs (hk : Keyed g) (hf : Forest g) {defId refId id : NodeId} {name : String}
    (hdefId : g.node? defId = none) (h : g.promoteAs defId refId id name = .ok g') : Keyed g' := by
  obtain ⟨i⟩ := promoteAs_ok h
  have hreplaced : Keyed i.wired := by
    refine (hk.enclosed hf name hdefId i.node_eq).place refId (fun {x p} hx hc => ?_)
      fun {x p} hx hr hc heq => ?_
    · rw [IsChild, i.owningEdge_wired, if_neg (Ne.symm hx)] at hc
      rw [IsChild, owningEdge_enclosed]
      exact ⟨hc, by rw [i.key?_wired, if_neg (Ne.symm hx)]⟩
    · rw [IsChild, i.owningEdge_wired, if_pos rfl] at hr
      obtain ⟨rfl, -, hkind⟩ := Edge.mk.inj (Option.some.inj hr)
      rw [IsChild, i.owningEdge_wired, if_neg (Ne.symm hx)] at hc
      rw [i.key?_wired, i.key?_wired, if_neg (Ne.symm hx), if_pos rfl] at heq
      by_cases hxid : id = x
      · rw [if_pos hxid] at hc
        obtain ⟨hsource, -, -⟩ := Edge.mk.inj (Option.some.inj hc)
        exact i.source_ne_of_free hf hdefId hsource.symm
      · rw [if_neg hxid] at hc
        have hxdef : x ≠ defId := by
          rintro rfl
          simpa [hdefId] using (IsChild.present hf hc).1
        rw [key?_enclosed name i.node_eq hxdef] at heq
        have hid : g.IsChild id i.edge.source := by rw [IsChild, i.owningEdge_node hf, hkind]
        exact hxid (hk hid hc (by rw [heq, key?_of_node? i.node_eq]))
  rw [i.eq_wired]
  split
  · exact hreplaced.shrink fun {x p} hc => by
      unfold IsChild at hc ⊢
      rw [owningEdge_next, owningEdge_retarget] at hc
      exact ⟨hc, by rw [key?_next, key?_retarget]⟩
  · exact hreplaced.shrink fun hc => ⟨hc, rfl⟩

/-- Pointing references elsewhere leaves their keys alone. -/
theorem pointAll (name : String) (refs : List NodeId) :
    ∀ {g : Graph}, Keyed g → Keyed (refs.foldl (fun h ref => h.pointAt name ref) g) := by
  induction refs with
  | nil => exact fun hk => hk
  | cons ref refs ih =>
    intro g hk
    refine ih ?_
    show Keyed (g.pointAt name ref)
    refine hk.shrink fun hc => ⟨?_, key?_pointAt name ref _⟩
    unfold pointAt at hc
    split at hc <;> exact hc

theorem renameDefinition (hk : Keyed g) (hs : Sound g) {oldName newName : String}
    (h : g.renameDefinition oldName newName = .ok g') : Keyed g' := by
  rcases renameDefinition_ok h with rfl | ⟨id, n, hfind, _, _, _, hn, rfl⟩
  · exact hk
  · have htop : g.owningEdge id = none := hs.ownerless_of_definition hfind
    have hrenamed : Keyed (((g.putNode id { n with
        key := newName, body := .definition (.str newName) }).undefine oldName).define newName id) :=
      (hk.putTop htop _).shrink fun hc => ⟨hc, rfl⟩
    exact (hrenamed.pointAll newName _).shrink fun hc => ⟨hc, rfl⟩

/-! ## Removing -/

theorem dropAll (hk : Keyed g) (ids : List NodeId) : Keyed (g.dropAll ids) := by
  refine hk.shrink fun {x p} hc => ?_
  rw [IsChild, owningEdge_dropAll] at hc
  split_ifs at hc with hx
  exact ⟨hc, by rw [key?_dropAll, if_neg hx]⟩

theorem detach (hk : Keyed g) (id : NodeId) : Keyed (g.detach id) := by
  refine hk.shrink fun {x p} hc => ?_
  rw [IsChild, owningEdge_detach] at hc
  split_ifs at hc
  exact ⟨hc, key?_detach id x⟩

theorem removeSubtree (hk : Keyed g) (old : Graph) (id : NodeId) :
    Keyed (g.removeSubtree old id) := by
  refine Keyed.dropAll ((hk.detach id).shrink fun {x p} hc => ?_) _
  rw [IsChild, owningEdge_releaseBranch] at hc
  exact ⟨hc, key?_releaseBranch _ x⟩

theorem removeAll (old : Graph) (ids : List NodeId) :
    ∀ {g : Graph}, Keyed g → Keyed (ids.foldl (fun h id => h.removeSubtree old id) g) := by
  induction ids with
  | nil => exact fun hk => hk
  | cons id ids ih => exact fun hk => ih (hk.removeSubtree old id)

end Keyed

end Graph

end FormGraph

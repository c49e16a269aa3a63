import FormGraph.Proofs.Names
import FormGraph.Proofs.Ownership.Basic

/-!
# Edits keep a graph sound

For each edit but the inlining of references, which is the subject of `Ownership.Inline`: from a
sound graph a successful edit makes a sound graph, and it makes nodes only under names that it took.
-/

namespace FormGraph

namespace Graph

variable {g g' : Graph} {loose : NodeId → Prop} {s : IdSupply}

/-- What owns nothing is above nothing but itself. -/
theorem not_below_of_childless {t x : NodeId} (h : ∀ y e, g.owningEdge y = some e → e.source ≠ t)
    (hne : x ≠ t) : ¬ Below g t x := by
  intro hb
  induction hb with
  | refl => exact hne rfl
  | step ho _ ih => exact ih (h _ _ ho)

theorem Forest.source_ne_of_absent (hf : Forest g) {t : NodeId} (h : g.node? t = none) :
    ∀ y e, g.owningEdge y = some e → e.source ≠ t := by
  intro y e he hs
  have hp := (hf.present he).2
  rw [hs, h] at hp
  simp at hp

/-! ## The steps of a move -/

theorem Forest.node?_freed_self (hf : Forest g) (id : NodeId) :
    (g.freed id).node? id = g.node? id := by
  rw [freed, node?_releaseBranch, node?_detach]
  cases ho : g.owningEdge id with
  | none => rfl
  | some e => exact if_neg fun hsrc => hf.parent_ne ho hsrc.2

theorem kind_rekeyed (n : Node NodeId) (taken : List String) : (rekeyed n taken).kind = n.kind := by
  unfold rekeyed
  split <;> rfl

theorem body_rekeyed (n : Node NodeId) (taken : List String) : (rekeyed n taken).body = n.body := by
  unfold rekeyed
  split <;> rfl

theorem kind?_putNode_rekeyed {id : NodeId} {n : Node NodeId} (hn : g.node? id = some n)
    (taken : List String) (x : NodeId) : (g.putNode id (rekeyed n taken)).kind? x = g.kind? x := by
  rw [kind?_putNode]
  split_ifs with hx
  · rw [← hx, g.kind?_of_node? hn, kind_rekeyed]
  · rfl

/-- A move puts the node, under a key that is free at its new place, and hangs it there. -/
theorem move_steps (hf : Forest g) {id newParent : NodeId} {edge : EdgeKind} {index : Option Int}
    (h : g.move id newParent edge index = .ok g') :
    ∃ n parent taken es, id ≠ g.rootId ∧ g.node? id = some n ∧ n.kind ≠ .definition ∧
      g.node? newParent = some parent ∧ isContainer parent.kind edge = true ∧
      g.wouldCycle id newParent = false ∧
      g.siblingKeys newParent edge (some id) = .ok taken ∧
      placeEdge ⟨newParent, id, edge⟩ index ((g.detach id).edgesFrom newParent) = .ok es ∧
      g' = (((g.freed id).putNode id (rekeyed n taken)).wire ⟨newParent, id, edge⟩ es).next := by
  obtain ⟨n, parent, taken, es, hroot, hn, hdef, hp, hfits, hcycle, htaken, hes, rfl⟩ := move_ok h
  refine ⟨n, parent, taken, es, hroot, hn, hdef, hp, hfits, hcycle, htaken, hes, ?_⟩
  by_cases hc : taken.contains n.key = true
  · rw [if_pos hc]
  · have hnode : (g.freed id).node? id = some n := by rw [hf.node?_freed_self, hn]
    rw [if_neg hc, rekeyed, if_neg hc, putNode_of_node? hnode]

section Moved

variable {id newParent : NodeId} {edge : EdgeKind} {index : Option Int}

theorem owningEdge_move (hf : Forest g) (h : g.move id newParent edge index = .ok g') (x : NodeId) :
    g'.owningEdge x = if id = x then some ⟨newParent, id, edge⟩ else g.owningEdge x := by
  obtain ⟨n, _, taken, es, _, _, _, _, _, _, _, _, rfl⟩ := move_steps hf h
  rw [owningEdge_next, owningEdge_wire, owningEdge_putNode, owningEdge_freed]
  split_ifs <;> rfl

theorem kind?_move (hf : Forest g) (h : g.move id newParent edge index = .ok g') (x : NodeId) :
    g'.kind? x = g.kind? x := by
  obtain ⟨n, _, taken, es, _, hn, _, _, _, _, _, _, rfl⟩ := move_steps hf h
  rw [kind?_next, kind?_wire, kind?_putNode_rekeyed (by rw [hf.node?_freed_self, hn]), kind?_freed]

end Moved

namespace SoundBut

/-- Hanging the one loose node where it belongs makes the graph sound. -/
theorem tie {e : Edge} {i : Option Int} {es : List Edge} {c p : NodeKind}
    (hs : SoundBut (fun x => x = e.target) g)
    (hplace : placeEdge e i (g.edgesFrom e.source) = .ok es)
    (hfree : g.owningEdge e.target = none) (hroot : e.target ≠ g.rootId)
    (hc : g.kind? e.target = some c) (hk : c ≠ .definition)
    (hp : g.kind? e.source = some p) (hfits : isContainer p e.kind = true)
    (hb : ¬ Below g e.target e.source) : Sound (g.wire e es) := by
  obtain ⟨front, back, hsplit, hes⟩ := placeEdge_split hplace
  exact (hs.wire hsplit hes hfree hroot hc hk hp hfits hb).mono fun x hx => hx.2 hx.1

/-- A node that is taken off is the one loose node. -/
theorem freed (hs : Sound g) (id : NodeId) : SoundBut (fun x => x = id) (g.freed id) :=
  ((hs.detach id).releaseBranch _).mono fun _ hx => hx.elim False.elim fun h => h

/-! ## Placing nodes -/

theorem addAs (hs : Sound g) {id parentId : NodeId} {draft : Draft} {edge : EdgeKind}
    {index : Option Int} (hfree : g.node? id = none)
    (h : g.addAs id draft parentId edge index = .ok g') :
    Sound g' ∧ ∀ x, (g'.kind? x).isSome → (g.kind? x).isSome ∨ x = id := by
  obtain ⟨parent, taken, key, es, hp, hfits, hdef, _, _, hplace, rfl⟩ := addAs_ok h
  have hne : parentId ≠ id := by
    rintro rfl
    rw [hfree] at hp
    simp at hp
  have hroot : id ≠ g.rootId := by
    rintro rfl
    obtain ⟨n, hn, _⟩ := hs.root
    rw [hfree] at hn
    simp at hn
  have hput : SoundBut (fun x => x = id) (g.putNode id (draft.build key)) :=
    (hs.putFresh (n := draft.build key) hfree hdef).mono fun x hx => hx.elim False.elim fun h => h
  refine ⟨(tie (e := ⟨parentId, id, edge⟩) (c := draft.kind) (p := parent.kind)
    hput hplace ?_ hroot ?_ hdef ?_ hfits ?_).next, ?_⟩
  · exact hs.toForest.owningEdge_eq_none hfree
  · rw [kind?_putNode, if_pos rfl, Draft.kind_build]
  · rw [kind?_putNode, if_neg (Ne.symm hne), g.kind?_of_node? hp]
  · exact not_below_of_childless (hs.toForest.source_ne_of_absent hfree) hne
  · intro x hx
    rw [kind?_next, kind?_wire, kind?_putNode] at hx
    by_cases hid : id = x
    · exact Or.inr hid.symm
    · rw [if_neg hid] at hx
      exact Or.inl hx

theorem add (hs : Sound g) (hsup : Supplied g s) {draft : Draft} {parentId : NodeId}
    {edge : EdgeKind} {index : Option Int} {r : (Graph × NodeId) × IdSupply}
    (h : (g.add draft parentId edge index).run s = .ok r) :
    Sound r.1.1 ∧ Supplied r.1.1 r.2 := by
  obtain ⟨hadd, _, hr⟩ := add_ok h
  obtain ⟨hsound, hnodes⟩ := hs.addAs (hsup _ (Nat.lt_succ_self _)) hadd
  rw [hr]
  refine ⟨hsound, hsup.step (Nat.le_succ _) fun x hx => ?_⟩
  rcases hnodes x hx with h | h
  · exact Or.inl h
  · exact Or.inr ⟨s.used + 1, Nat.le_refl _, h⟩

theorem move (hs : Sound g) {id newParent : NodeId} {edge : EdgeKind} {index : Option Int}
    (h : g.move id newParent edge index = .ok g') : Sound g' ∧ ∀ x, g'.kind? x = g.kind? x := by
  refine ⟨?_, kind?_move hs.toForest h⟩
  obtain ⟨n, parent, taken, es, hroot, hn, hdef, hp, hfits, hcycle, _, hplace, rfl⟩ :=
    move_steps hs.toForest h
  have hnode : (g.freed id).node? id = some n := by rw [hs.toForest.node?_freed_self, hn]
  have hput := (hs.freed id).putNode hnode (Node.standing_congr (kind_rekeyed n taken) fun _ =>
    body_rekeyed n taken)
  have hkind : ∀ x, ((g.freed id).putNode id (rekeyed n taken)).kind? x = g.kind? x := fun x => by
    rw [kind?_putNode_rekeyed hnode, kind?_freed]
  have howner : ∀ x, ((g.freed id).putNode id (rekeyed n taken)).owningEdge x =
      (g.detach id).owningEdge x := fun x => by
    rw [owningEdge_putNode, owningEdge_freed, owningEdge_detach]
  rw [← edgesFrom_freed, ← edgesFrom_putNode (g.freed id) id (rekeyed n taken)] at hplace
  refine (hput.tie (c := n.kind) (p := parent.kind) hplace ?_ ?_ ?_ hdef ?_ hfits fun hb => ?_).next
  · rw [howner, owningEdge_detach, if_pos rfl]
  · rwa [rootId_putNode, rootId_freed]
  · rw [hkind, g.kind?_of_node? hn]
  · rw [hkind, g.kind?_of_node? hp]
  · rw [wouldCycle_iff.2 (Forest.below_of_below_detach (hb.congr fun x => (howner x).symm))] at hcycle
    simp at hcycle

theorem moveInList_perm {α : Type} [DecidableEq α] {a : α} {as : List α} (position : Nat)
    (hn : as.Nodup) (ha : a ∈ as) : (moveInList a position as).Perm as := by
  unfold moveInList
  have hothers : (as.filter fun b => b ≠ a).Perm (as.erase a) := by
    rw [hn.erase_eq_filter]
    simp [bne, beq_eq_decide]
  refine List.perm_middle.trans ?_
  rw [List.take_append_drop]
  exact (hothers.cons a).trans (List.perm_cons_erase ha).symm

theorem reorder (hs : Sound g) {id : NodeId} {index : Int} (h : g.reorder id index = .ok g') :
    Sound g' ∧ ∀ x, g'.kind? x = g.kind? x := by
  rcases reorder_ok h with rfl | ⟨e, position, ho, hk, rfl⟩
  · exact ⟨hs, fun _ => rfl⟩
  · refine ⟨(hs.setEdges_perm ?_).next, fun x => by rw [kind?_next, kind?_setEdges]⟩
    have hmem : e ∈ g.edgesOfKind e.source .child :=
      List.mem_filter.2 ⟨(hs.listed ho).2, by simp [hk]⟩
    have hperm := moveInList_perm position ((hs.nodup e.source).filter _) hmem
    refine (hperm.append_right _).trans ?_
    simp only [ne_eq, decide_not]
    exact List.filter_append_perm _ _

/-! ## Changing nodes -/

theorem update (hs : SoundBut loose g) {id : NodeId} {patch : Members}
    (h : g.update id patch = .ok g') : SoundBut loose g' ∧ ∀ x, g'.kind? x = g.kind? x := by
  obtain ⟨n, n', hn, hk, _, hb, _, _, rfl⟩ := update_ok h
  refine ⟨(hs.putNode hn (Node.standing_congr hk hb)).next, fun x => ?_⟩
  rw [kind?_next, kind?_putNode]
  by_cases hx : id = x
  · subst hx
    rw [if_pos rfl, g.kind?_of_node? hn, hk]
  · rw [if_neg hx]

theorem setClauses (hs : SoundBut loose g) {id : NodeId} {n : Node NodeId}
    (hn : g.node? id = some n) (cs : List (Clause NodeId)) :
    SoundBut loose (g.putNode id (n.setClauses cs)).next ∧
      ∀ x, (g.putNode id (n.setClauses cs)).next.kind? x = g.kind? x := by
  refine ⟨(hs.putNode hn (Node.standing_setClauses n cs)).next, fun x => ?_⟩
  rw [kind?_next, kind?_putNode]
  by_cases hx : id = x
  · subst hx
    rw [if_pos rfl, g.kind?_of_node? hn, Node.kind_setClauses]
  · rw [if_neg hx]

/-! ## Definitions -/

/-- A definition under a name that was taken for it. -/
theorem createDefinitionAs (hs : Sound g) (hsup : Supplied g s) {name : String}
    (h : g.createDefinitionAs (IdSupply.nameOf (s.used + 1)) name = .ok g') :
    Sound g' ∧ Supplied g' ⟨s.used + 1⟩ := by
  obtain ⟨_, hname, rfl⟩ := createDefinitionAs_ok h
  refine ⟨(hs.define (hsup _ (Nat.lt_succ_self s.used)) hname).next,
    hsup.step (Nat.le_succ _) fun x hx => ?_⟩
  rw [kind?_next, kind?_define, kind?_putNode] at hx
  by_cases hid : IdSupply.nameOf (s.used + 1) = x
  · exact Or.inr ⟨s.used + 1, Nat.le_refl _, hid.symm⟩
  · rw [if_neg hid] at hx
    exact Or.inl hx

theorem createDefinition (hs : Sound g) (hsup : Supplied g s) {name : String}
    {content : Option Draft} {r : (Graph × NodeId) × IdSupply}
    (h : (g.createDefinition name content).run s = .ok r) :
    Sound r.1.1 ∧ Supplied r.1.1 r.2 := by
  obtain ⟨made, hmade, _, hcontent⟩ := createDefinition_ok h
  obtain ⟨hsound, hnodes⟩ := hs.createDefinitionAs hsup hmade
  rcases hcontent with ⟨_, hg, hr⟩ | ⟨draft, _, hr, hadd⟩
  · rw [hg, hr]
    exact ⟨hsound, hnodes⟩
  · obtain ⟨hadded, hkinds⟩ := hsound.addAs (hnodes _ (Nat.lt_succ_self _)) hadd
    rw [hr]
    refine ⟨hadded, hnodes.step (Nat.le_succ _) fun x hx => ?_⟩
    rcases hkinds x hx with h | h
    · exact Or.inl h
    · exact Or.inr ⟨s.used + 2, Nat.le_refl _, h⟩

/-- A new definition that encloses a node: the node hangs below it and nowhere else. -/
theorem enclosed (hs : Sound g) {defId id : NodeId} {n : Node NodeId} {name : String}
    (hfree : g.node? defId = none) (hname : g.definitions.find? name = none)
    (hn : g.node? id = some n) (hroot : id ≠ g.rootId) (hdef : n.kind ≠ .definition) :
    Sound (g.enclosed defId id n name) := by
  have hne : defId ≠ id := by
    rintro rfl
    rw [hfree] at hn
    simp at hn
  have hloose : SoundBut (fun x => x = id) (g.detach id) :=
    (hs.detach id).mono fun x hx => hx.elim False.elim fun h => h
  have hdefined : SoundBut (fun x => x = id)
      (((g.detach id).putNode defId (Node.ofDefinition name)).define name defId) :=
    hloose.define (by rw [node?_detach, hfree]) (by rw [definitions_detach, hname])
  have hnode : (((g.detach id).putNode defId (Node.ofDefinition name)).define name defId).node? id =
      some n := by
    rw [node?_define, node?_putNode, if_neg hne, node?_detach, hn]
  have hput := hdefined.putNode (m := { n with required := false }) hnode rfl
  unfold Graph.enclosed
  rw [attachLast_eq]
  refine hput.tie (e := ⟨defId, id, .child⟩) (i := none) (c := n.kind) (p := .definition)
    rfl ?_ ?_ ?_ hdef ?_ rfl ?_
  · rw [owningEdge_putNode, owningEdge_define, owningEdge_putNode, owningEdge_detach, if_pos rfl]
  · rw [rootId_putNode, rootId_define, rootId_putNode, rootId_detach]
    exact hroot
  · rw [kind?_putNode, if_pos rfl]
    rfl
  · rw [kind?_putNode, if_neg (Ne.symm hne), kind?_define, kind?_putNode, if_pos rfl]
    rfl
  · -- the new definition hangs nowhere, so it is below itself only
    intro hb
    rcases below_iff.1 hb with h | ⟨e, he, _⟩
    · exact hne h
    · rw [owningEdge_putNode, owningEdge_define, owningEdge_putNode, owningEdge_detach,
        if_neg (Ne.symm hne), hs.toForest.owningEdge_eq_none hfree] at he
      simp at he

end SoundBut

/-! ## A reference in the place of a node -/

theorem node?_enclosed (defId id : NodeId) (n : Node NodeId) (name : String) (x : NodeId) :
    (g.enclosed defId id n name).node? x =
      if id = x then some { n with required := false }
      else if defId = x then some (Node.ofDefinition name) else g.node? x := by
  unfold enclosed
  rw [attachLast_eq, node?_wire, node?_putNode, node?_define, node?_putNode, node?_detach]

theorem owningEdge_enclosed (defId id : NodeId) (n : Node NodeId) (name : String) (x : NodeId) :
    (g.enclosed defId id n name).owningEdge x =
      if id = x then some ⟨defId, id, .child⟩ else g.owningEdge x := by
  unfold enclosed
  rw [attachLast_eq, owningEdge_wire, owningEdge_putNode, owningEdge_define, owningEdge_putNode,
    owningEdge_detach]
  by_cases hx : id = x <;> simp [hx]

theorem definitions_enclosed (defId id : NodeId) (n : Node NodeId) (name : String) :
    (g.enclosed defId id n name).definitions = g.definitions.put name defId := by
  unfold enclosed
  rw [attachLast_eq, definitions_wire, definitions_putNode, define, definitions_putNode,
    definitions_detach]

theorem rootId_enclosed (defId id : NodeId) (n : Node NodeId) (name : String) :
    (g.enclosed defId id n name).rootId = g.rootId := by
  unfold enclosed
  rw [attachLast_eq, rootId_wire, rootId_putNode, rootId_define, rootId_putNode, rootId_detach]

namespace ReferenceInPlace

variable {defId refId id : NodeId} {name : String}

/-- The graph with the reference in its place, before the clauses name it. -/
def wired (i : ReferenceInPlace g defId refId id name g') : Graph :=
  ((g.enclosed defId id i.node name).putNode refId (referenceFor i.node name)).wire
    ⟨i.edge.source, refId, i.edge.kind⟩ i.es

theorem eq_wired (i : ReferenceInPlace g defId refId id name g') : g' =
    (if i.edge.kind.isBranch then i.wired.retarget i.edge.source id (some refId)
      else i.wired).next :=
  i.result

/-- The reference will hang by the edge of the node. -/
theorem owningEdge_node (i : ReferenceInPlace g defId refId id name g') (hf : Forest g) :
    g.owningEdge id = some ⟨i.edge.source, id, i.edge.kind⟩ := by
  have htarget : i.edge.target = id := (hf.listed i.owner).1
  rw [i.owner]
  exact congrArg (fun t => some (Edge.mk i.edge.source t i.edge.kind)) htarget

theorem ne_of_free (i : ReferenceInPlace g defId refId id name g') {x : NodeId}
    (hx : g.node? x = none) : id ≠ x := by
  rintro rfl
  simp [i.node_eq] at hx

theorem source_ne_of_free (i : ReferenceInPlace g defId refId id name g') (hf : Forest g)
    {x : NodeId} (hx : g.node? x = none) : i.edge.source ≠ x := by
  rintro rfl
  simpa [hx] using (hf.present i.owner).2

theorem node?_wired (i : ReferenceInPlace g defId refId id name g') (x : NodeId) :
    i.wired.node? x = if refId = x then some (referenceFor i.node name)
      else if id = x then some { i.node with required := false }
      else if defId = x then some (Node.ofDefinition name) else g.node? x := by
  rw [wired, node?_wire, node?_putNode, node?_enclosed]

theorem kind?_wired (i : ReferenceInPlace g defId refId id name g') (x : NodeId) :
    i.wired.kind? x = if refId = x then some .reference else if id = x then some i.node.kind
      else if defId = x then some .definition else g.kind? x := by
  rw [Graph.kind?, i.node?_wired]
  split_ifs <;> rfl

theorem owningEdge_wired (i : ReferenceInPlace g defId refId id name g') (x : NodeId) :
    i.wired.owningEdge x = if refId = x then some ⟨i.edge.source, refId, i.edge.kind⟩
      else if id = x then some ⟨defId, id, .child⟩ else g.owningEdge x := by
  rw [wired, owningEdge_wire, owningEdge_putNode, owningEdge_enclosed]

theorem definitions_wired (i : ReferenceInPlace g defId refId id name g') :
    i.wired.definitions = g.definitions.put name defId := by
  rw [wired, definitions_wire, definitions_putNode, definitions_enclosed]

theorem rootId_wired (i : ReferenceInPlace g defId refId id name g') :
    i.wired.rootId = g.rootId := by
  rw [wired, rootId_wire, rootId_putNode, rootId_enclosed]

theorem kind? (i : ReferenceInPlace g defId refId id name g') (x : NodeId) :
    g'.kind? x = if refId = x then some .reference else if id = x then some i.node.kind
      else if defId = x then some .definition else g.kind? x := by
  refine (congrArg (fun h => h.kind? x) i.eq_wired).trans ?_
  rw [kind?_next, ← i.kind?_wired]
  split
  · rw [kind?_retarget]
  · rfl

theorem owningEdge (i : ReferenceInPlace g defId refId id name g') (x : NodeId) :
    g'.owningEdge x = if refId = x then some ⟨i.edge.source, refId, i.edge.kind⟩
      else if id = x then some ⟨defId, id, .child⟩ else g.owningEdge x := by
  refine (congrArg (fun h => h.owningEdge x) i.eq_wired).trans ?_
  rw [owningEdge_next, ← i.owningEdge_wired]
  split
  · rw [owningEdge_retarget]
  · rfl

/-- There are no nodes in the end but those from before, the definition and the reference. -/
theorem present (i : ReferenceInPlace g defId refId id name g') {x : NodeId}
    (hx : (g'.node? x).isSome) : (g.node? x).isSome ∨ x = defId ∨ x = refId := by
  rw [← isSome_kind?, i.kind?] at hx
  split_ifs at hx with href hid hdef
  · exact Or.inr (Or.inr href.symm)
  · exact Or.inl (by rw [← hid, i.node_eq]; rfl)
  · exact Or.inr (Or.inl hdef.symm)
  · exact Or.inl (by rwa [← isSome_kind?])

/-- The reference hangs where the node did, which is not below the reference. -/
theorem sound (i : ReferenceInPlace g defId refId id name g') (hs : Sound g)
    (hdefId : g.node? defId = none) (hrefId : g.node? refId = none) (hne : defId ≠ refId) :
    Sound g' := by
  have hheld : Sound (g.enclosed defId id i.node name) :=
    hs.enclosed hdefId i.name_free i.node_eq i.ne_root i.not_definition
  obtain ⟨parent, hparent⟩ := Option.isSome_iff_exists.1 (hs.present i.owner).2
  have hfits : isContainer parent.kind i.edge.kind = true := hs.fits i.owner hparent
  have hsrcDef : i.edge.source ≠ defId := i.source_ne_of_free hs.toForest hdefId
  have hsrcRef : i.edge.source ≠ refId := i.source_ne_of_free hs.toForest hrefId
  have hsrcKind : i.wired.kind? i.edge.source = some parent.kind := by
    rw [i.kind?_wired, if_neg (Ne.symm hsrcRef), if_neg (hs.toForest.parent_ne i.owner).symm,
      if_neg (Ne.symm hsrcDef), g.kind?_of_node? hparent]
  have hfree : (g.enclosed defId id i.node name).node? refId = none := by
    rw [node?_enclosed, if_neg (i.ne_of_free hrefId), if_neg hne, hrefId]
  have hput : SoundBut (fun x => x = refId)
      ((g.enclosed defId id i.node name).putNode refId (referenceFor i.node name)) :=
    (hheld.putFresh hfree (by simp [Node.kind, referenceFor, Body.kind])).mono fun x hx =>
      hx.elim False.elim fun h => h
  have hwired : Sound i.wired := by
    refine hput.tie (e := ⟨i.edge.source, refId, i.edge.kind⟩) (c := .reference)
      (p := parent.kind) i.placed ?_ ?_ ?_ (by simp) ?_ hfits ?_
    · exact hheld.toForest.owningEdge_eq_none hfree
    · rw [rootId_putNode]
      intro hroot
      obtain ⟨m, hm, _⟩ := hheld.root
      simp [← hroot, hfree] at hm
    · rw [kind?_putNode, if_pos rfl]
      rfl
    · rwa [wired, kind?_wire] at hsrcKind
    · exact not_below_of_childless (hheld.toForest.source_ne_of_absent hfree) hsrcRef
  rw [i.eq_wired]
  split
  · exact (hwired.retarget _ _ _).next
  · exact hwired.next

end ReferenceInPlace

namespace SoundBut

theorem promote (hs : Sound g) (hsup : Supplied g s) {id : NodeId} {name : String}
    {r : (Graph × NodeId) × IdSupply} (h : (g.promote id name).run s = .ok r) :
    Sound r.1.1 ∧ Supplied r.1.1 r.2 := by
  obtain ⟨hpromote, hr⟩ := promote_ok h
  have hne : IdSupply.nameOf (s.used + 1) ≠ IdSupply.nameOf (s.used + 2) := fun heq => by
    have := IdSupply.nameOf_injective heq
    omega
  obtain ⟨i⟩ := promoteAs_ok hpromote
  rw [hr]
  refine ⟨i.sound hs (hsup _ (by omega)) (hsup _ (by omega)) hne,
    hsup.step (Nat.le_add_right _ _) fun x hx => ?_⟩
  rw [isSome_kind?] at hx ⊢
  rcases i.present hx with h | h | h
  · exact Or.inl h
  · exact Or.inr ⟨s.used + 1, by simp, h⟩
  · exact Or.inr ⟨s.used + 2, by simp, h⟩

end SoundBut

end Graph

end FormGraph

import FormGraph.Edit.Change
import FormGraph.Proofs.Views

/-!
# What a successful edit did

One lemma for each edit: from its success the facts that its checks established, and the new graph as
a chain of the steps of `Graph.Wiring`. No later proof opens an edit again.
-/

namespace FormGraph

/-- A place that takes a node is of a kind that can hold something over the edge, and what it takes
is no definition. -/
theorem isContainer_of_canAccept {parent child : NodeKind} {existing : List NodeKind}
    {edge : EdgeKind} (h : canAccept parent child existing edge = true) :
    isContainer parent edge = true ∧ child ≠ .definition := by
  unfold canAccept at h
  split_ifs at h with hc hb
  · unfold isContainer
    rw [if_pos hb]
    exact ⟨h, hc⟩
  · unfold isContainer
    rw [if_neg hb]
    refine ⟨?_, hc⟩
    cases parent <;> simp_all

theorem isContainer_eq_false_of_isLeaf {kind : NodeKind} (edge : EdgeKind)
    (h : kind.isLeaf = true) : isContainer kind edge = false := by
  cases kind <;> simp_all [NodeKind.isLeaf, isContainer, NodeKind.isGroup]

theorem isLeaf_eq_false_of_isContainer {kind : NodeKind} {edge : EdgeKind}
    (h : isContainer kind edge = true) : kind.isLeaf = false := by
  cases hl : kind.isLeaf with
  | false => rfl
  | true => exact absurd (h.symm.trans (isContainer_eq_false_of_isLeaf edge hl)) (by decide)

namespace Graph

variable {g g' : Graph}

theorem get_eq_ok_iff {id : NodeId} {n : Node NodeId} :
    g.get id = .ok n ↔ g.node? id = some n := by
  unfold get
  cases g.node? id <;> simp [refuse]

theorem pointedAt_eq_ok_iff {id : NodeId} {n : Node NodeId} :
    g.pointedAt id = .ok n ↔ g.node? id = some n :=
  orBreakDown_eq_ok_iff

theorem parentNode_eq_ok_iff {id : NodeId} {n : Node NodeId} :
    g.parentNode id = .ok n ↔ g.node? id = some n := by
  unfold parentNode
  cases g.node? id <;> simp [refuse]

theorem getGroup_eq_ok_iff {id : NodeId} {n : Node NodeId} :
    g.getGroup id = .ok n ↔ g.node? id = some n ∧ n.kind.isGroup = true := by
  unfold getGroup
  simp only [bind_eq_ok_iff, get_eq_ok_iff, ite_else_refuse_eq_ok_iff, pure_eq_ok_iff]
  constructor
  · rintro ⟨m, hm, hk, rfl⟩
    exact ⟨hm, hk⟩
  · rintro ⟨hn, hk⟩
    exact ⟨n, hn, hk, rfl⟩

/-- The children that are found are those whose names are listed, with their nodes. -/
theorem children_ok {id : NodeId} {cs : List (NodeId × Node NodeId)}
    (h : g.children id = .ok cs) :
    cs.map Prod.fst = g.childIds id ∧ ∀ c ∈ cs, g.node? c.1 = some c.2 := by
  unfold children at h
  rw [mapM_eq_ok_iff] at h
  generalize g.childIds id = ids at h
  induction h with
  | nil => exact ⟨rfl, by simp⟩
  | @cons x c ids cs hc _ ih =>
    simp only [bind_eq_ok_iff, pointedAt_eq_ok_iff, pure_eq_ok_iff] at hc
    obtain ⟨n, hn, rfl⟩ := hc
    refine ⟨by rw [List.map_cons, ih.1], fun c hc => ?_⟩
    rcases List.mem_cons.1 hc with rfl | hc
    · exact hn
    · exact ih.2 c hc

/-! ## Placing nodes -/

theorem checkPlace_ok {parentId : NodeId} {parent : Node NodeId} {child : NodeKind}
    {edge : EdgeKind} {moving : Option NodeId} {u : Unit}
    (h : g.checkPlace parentId parent child edge moving = .ok u) :
    ∃ children, g.children parentId = .ok children ∧
      canAccept parent.kind child
        ((children.filter fun c => moving ≠ some c.1).map fun c => c.2.kind) edge = true := by
  unfold checkPlace at h
  simp only [refuse_bind, ite_refuse_eq_ok_iff, bind_eq_ok_iff, ite_else_refuse_eq_ok_iff] at h
  obtain ⟨_, children, hc, ha, _⟩ := h
  exact ⟨children, hc, ha⟩

theorem addAs_ok {id parentId : NodeId} {draft : Draft} {edge : EdgeKind} {index : Option Int}
    (h : g.addAs id draft parentId edge index = .ok g') :
    ∃ parent taken key es, g.node? parentId = some parent ∧
      isContainer parent.kind edge = true ∧ draft.kind ≠ .definition ∧
      g.siblingKeys parentId edge none = .ok taken ∧
      keyFor draft parentId edge taken = .ok key ∧
      placeEdge ⟨parentId, id, edge⟩ index (g.edgesFrom parentId) = .ok es ∧
      g' = ((g.putNode id (draft.build key)).wire ⟨parentId, id, edge⟩ es).next := by
  unfold addAs at h
  simp only [bind_eq_ok_iff, parentNode_eq_ok_iff, pure_eq_ok_iff, attach_eq_ok_iff] at h
  obtain ⟨parent, hp, _, hcheck, taken, htaken, key, hkey, wired, ⟨es, hes, rfl⟩, rfl⟩ := h
  obtain ⟨_, _, haccept⟩ := checkPlace_ok hcheck
  obtain ⟨hcontainer, hdef⟩ := isContainer_of_canAccept haccept
  exact ⟨parent, taken, key, es, hp, hcontainer, hdef, htaken, hkey, hes, rfl⟩

theorem add_ok {draft : Draft} {parentId : NodeId} {edge : EdgeKind} {index : Option Int}
    {s : IdSupply} {r : (Graph × NodeId) × IdSupply}
    (h : (g.add draft parentId edge index).run s = .ok r) :
    g.addAs (IdSupply.nameOf (s.used + 1)) draft parentId edge index = .ok r.1.1 ∧
      r.1.2 = IdSupply.nameOf (s.used + 1) ∧ r.2 = ⟨s.used + 1⟩ := by
  unfold add at h
  simp only [Edit.bind_eq_ok_iff, Edit.fresh_eq_ok_iff, Edit.lift_eq_ok_iff,
    Edit.pure_eq_ok_iff] at h
  obtain ⟨_, _, hfresh, g', _, ⟨hadd, rfl⟩, rfl⟩ := h
  cases hfresh
  exact ⟨hadd, rfl, rfl⟩

/-- The node that a move puts at its new place: it gets another key where its own is taken. -/
def rekeyed (n : Node NodeId) (taken : List String) : Node NodeId :=
  if taken.contains n.key then { n with key := Key.unique n.key taken } else n

theorem move_ok {id newParent : NodeId} {edge : EdgeKind} {index : Option Int}
    (h : g.move id newParent edge index = .ok g') :
    ∃ n parent taken es, id ≠ g.rootId ∧ g.node? id = some n ∧ n.kind ≠ .definition ∧
      g.node? newParent = some parent ∧ isContainer parent.kind edge = true ∧
      g.wouldCycle id newParent = false ∧
      g.siblingKeys newParent edge (some id) = .ok taken ∧
      placeEdge ⟨newParent, id, edge⟩ index ((g.detach id).edgesFrom newParent) = .ok es ∧
      g' = ((if taken.contains n.key then (g.freed id).putNode id (rekeyed n taken)
        else g.freed id).wire ⟨newParent, id, edge⟩ es).next := by
  unfold move at h
  simp only [refuse_bind, ite_refuse_eq_ok_iff, bind_eq_ok_iff, get_eq_ok_iff,
    parentNode_eq_ok_iff, pure_eq_ok_iff, attach_eq_ok_iff] at h
  obtain ⟨hroot, n, hn, hdef, parent, hp, hcycle, _, _, hcheck, taken, htaken, _,
    ⟨es, hes, rfl⟩, rfl⟩ := h
  obtain ⟨_, _, haccept⟩ := checkPlace_ok hcheck
  refine ⟨n, parent, taken, es, hroot, hn, hdef, hp, (isContainer_of_canAccept haccept).1,
    by simpa using hcycle, htaken, ?_, ?_⟩
  · rw [← hes]
    split <;> simp
  · by_cases hk : taken.contains n.key = true
    · simp only [rekeyed, freed, hk, if_true]
    · simp only [freed, hk, Bool.false_eq_true, if_false]

theorem reorder_ok {id : NodeId} {index : Int} (h : g.reorder id index = .ok g') :
    g' = g ∨ ∃ e position, g.owningEdge id = some e ∧ e.kind = .child ∧
      g' = (g.setEdges e.source (moveInList e position (g.edgesOfKind e.source .child) ++
        (g.edgesFrom e.source).filter fun f => f.kind ≠ .child)).next := by
  unfold reorder at h
  simp only [refuse_bind, ite_refuse_eq_ok_iff, bind_eq_ok_iff] at h
  obtain ⟨_, _, _, h⟩ := h
  cases ho : g.owningEdge id with
  | none =>
    simp only [ho, pure_eq_ok_iff] at h
    exact Or.inl h.symm
  | some e =>
    simp only [ho] at h
    split_ifs at h with hk hp
    · exact Or.inl (pure_eq_ok_iff.1 h).symm
    · exact Or.inl (pure_eq_ok_iff.1 h).symm
    · exact Or.inr ⟨e, _, rfl, by simpa using hk, (pure_eq_ok_iff.1 h).symm⟩

/-! ## Changing a node -/

/-- Merging changes into a lone attribute writes the value that they name. -/
theorem loneAttribute_merge_ok {k : NodeKind} {name : String} {initial current v : Value}
    {changes : Members} (h : (Body.loneAttribute k name initial).merge current changes = .ok v) :
    v = (Entries.find? changes name).getD current := by
  unfold AttributeSet.merge at h
  split at h
  · simp only [Body.loneAttribute, List.foldl_cons, List.foldl_nil] at h
    rw [← Except.ok.inj h]
    cases Entries.find? changes name <;> rfl
  · simp [refuse] at h

/-- A merge keeps the kind; the clauses of a group and the name of a definition it keeps where the
changes do not name them. -/
theorem body_merge_ok {b b' : Body NodeId} {changes : Members} (h : b.merge changes = .ok b') :
    b'.kind = b.kind ∧ (Entries.has changes "clauses" = false → b'.clauses = b.clauses) ∧
      (Entries.has changes "name" = false → b.kind = .definition → b' = b) := by
  have hfree : ∀ {name : String}, Entries.has changes name = false →
      Entries.find? changes name = none := fun h => by simpa [Entries.has] using h
  cases b with
  | string a | number a | boolean | enum a | object a | array a | reference target =>
    simp only [Body.merge, bind_eq_ok_iff, pure_eq_ok_iff] at h
    obtain ⟨_, _, rfl⟩ := h
    exact ⟨rfl, fun _ => rfl, fun _ hk => by simp [Body.kind] at hk⟩
  | group kind cs =>
    simp only [Body.merge, bind_eq_ok_iff] at h
    obtain ⟨v, hv, h⟩ := h
    refine ⟨?_, fun hclauses => ?_, fun _ hk => by simp [Body.kind] at hk⟩
    · split at h
      · cases h
        rfl
      · cases h
        rfl
      · simp [breakDown] at h
    · obtain rfl := loneAttribute_merge_ok hv
      rw [hfree hclauses] at h
      cases h
      rfl
  | definition name =>
    simp only [Body.merge, bind_eq_ok_iff, pure_eq_ok_iff] at h
    obtain ⟨v, hv, rfl⟩ := h
    refine ⟨rfl, fun _ => rfl, fun hname _ => ?_⟩
    rw [loneAttribute_merge_ok hv, hfree hname, Option.getD_none]

/-- A merge gives a reference the target that the changes name. -/
theorem reference_merge_ok {target : Value} {b : Body NodeId} {changes : Members}
    (h : (Body.reference target).merge changes = .ok b) :
    b = .reference ((Entries.find? changes "target").getD target) := by
  simp only [Body.merge, bind_eq_ok_iff, pure_eq_ok_iff] at h
  obtain ⟨v, hv, rfl⟩ := h
  rw [loneAttribute_merge_ok hv]

theorem mergeInto_ok {b b' : Body NodeId} {attributes : Members} {others : List Value}
    (h : Patch.mergeInto b attributes others = .ok b') : b.merge attributes = .ok b' := by
  unfold Patch.mergeInto at h
  split at h
  · exact h
  · split at h <;> simp [breakDown, refuse] at h

theorem checkAttributes_ok {id : NodeId} {n : Node NodeId} {attributes : Members} {u : Unit}
    (h : Patch.checkAttributes g id n attributes = .ok u) :
    Entries.has attributes "clauses" = false ∧
      (n.kind = .definition → Entries.has attributes "name" = false) ∧
      (n.kind = .reference → ∀ v, Entries.find? attributes "target" = some v →
        ∃ name, v = .str name ∧ g.definitions.has name = true) := by
  unfold Patch.checkAttributes at h
  simp only [refuse_bind, ite_refuse_eq_ok_iff] at h
  obtain ⟨hclauses, hname, htarget⟩ := h
  refine ⟨by simpa using hclauses, fun hk => by simpa [hk] using hname, fun hk v hv => ?_⟩
  rw [if_pos hk, hv] at htarget
  cases v with
  | str name =>
    refine ⟨name, rfl, ?_⟩
    by_contra hnot
    simp [hnot, refuse] at htarget
  | null | bool _ | int _ | float _ | list _ | obj _ => simp [refuse, breakDown] at htarget

theorem applyFields_ok {n n' : Node NodeId} {patch : Members}
    (h : Patch.applyFields n patch = .ok n') : n'.key = n.key ∧ n'.body = n.body := by
  unfold Patch.applyFields at h
  cases hw : Entries.find? patch "widget_options" <;> cases he : Entries.find? patch "extras" <;>
    simp only [hw, he, bind_eq_ok_iff, pure_eq_ok_iff] at h <;>
    obtain ⟨_, _, _, _, rfl⟩ := h <;> exact ⟨rfl, rfl⟩

theorem update_ok {id : NodeId} {patch : Members} (h : g.update id patch = .ok g') :
    ∃ n n', g.node? id = some n ∧ n'.kind = n.kind ∧ n'.clauses = n.clauses ∧
      (n.kind = .definition → n'.body = n.body) ∧ Patch.readKey g id n patch = .ok n'.key ∧
      (∀ v, n'.target? = some v →
        n.target? = some v ∨ ∃ name, v = .str name ∧ g.definitions.has name = true) ∧
      g' = (g.putNode id n').next := by
  unfold update at h
  simp only [bind_eq_ok_iff, get_eq_ok_iff] at h
  obtain ⟨n, hn, h⟩ := h
  split at h
  swap
  · simp only [refuse_bind, refuse_eq_ok_iff] at h
  simp only [bind_eq_ok_iff, pure_eq_ok_iff] at h
  obtain ⟨given, _, _, hcheck, body, hbody, key, hkey, n', hfields, rfl⟩ := h
  obtain ⟨hclauses, hname, htarget⟩ := checkAttributes_ok hcheck
  obtain ⟨hkind, hkeeps, hdef⟩ := body_merge_ok (mergeInto_ok hbody)
  obtain ⟨hk, hb⟩ := applyFields_ok hfields
  dsimp only at hb
  refine ⟨n, n', hn, ?_, ?_, ?_, ?_, fun v hv => ?_, rfl⟩
  · rw [Node.kind, hb]
    exact hkind
  · rw [Node.clauses, hb]
    exact hkeeps hclauses
  · intro hd
    rw [hb]
    exact hdef (hname hd) hd
  · rw [hk]
    exact hkey
  · rw [← hb] at hkind hbody
    obtain ⟨target, htargetOf⟩ : ∃ target, n.body = .reference target := by
      unfold Node.target? at hv
      split at hv
      · next heq =>
        rw [heq] at hkind
        cases hn : n.body <;> simp [hn, Body.kind] at hkind ⊢
      · simp at hv
    have href : n.kind = .reference := by rw [Node.kind, htargetOf]; rfl
    rw [htargetOf] at hbody
    rw [Node.target?, reference_merge_ok (mergeInto_ok hbody), Option.some.injEq] at hv
    cases hfind : Entries.find? (Entries.putAll given.named (Patch.ownAttributes patch)) "target" with
    | none =>
      rw [hfind, Option.getD_none] at hv
      exact Or.inl (by rw [Node.target?, htargetOf, hv])
    | some w =>
      rw [hfind, Option.getD_some] at hv
      exact Or.inr (htarget href v (hv ▸ hfind))

/-! ## Definitions -/

theorem checkNewName_ok {name : String} {u : Unit} (h : g.checkNewName name = .ok u) :
    name ≠ "" ∧ g.definitions.find? name = none := by
  unfold checkNewName at h
  simp only [refuse_bind, ite_refuse_eq_ok_iff] at h
  obtain ⟨hname, hfree, _⟩ := h
  exact ⟨hname, by simpa [Table.has_eq] using hfree⟩

theorem createDefinitionAs_ok {id : NodeId} {name : String}
    (h : g.createDefinitionAs id name = .ok g') :
    name ≠ "" ∧ g.definitions.find? name = none ∧
      g' = ((g.putNode id (Node.ofDefinition name)).define name id).next := by
  unfold createDefinitionAs at h
  simp only [bind_eq_ok_iff, pure_eq_ok_iff] at h
  obtain ⟨_, hname, rfl⟩ := h
  exact ⟨(checkNewName_ok hname).1, (checkNewName_ok hname).2, rfl⟩

theorem createDefinition_ok {name : String} {content : Option Draft} {s : IdSupply}
    {r : (Graph × NodeId) × IdSupply} (h : (g.createDefinition name content).run s = .ok r) :
    ∃ made, g.createDefinitionAs (IdSupply.nameOf (s.used + 1)) name = .ok made ∧
      r.1.2 = IdSupply.nameOf (s.used + 1) ∧
      (content = none ∧ r.1.1 = made ∧ r.2 = ⟨s.used + 1⟩ ∨
        ∃ draft, content = some draft ∧ r.2 = ⟨s.used + 2⟩ ∧
          made.addAs (IdSupply.nameOf (s.used + 2)) draft (IdSupply.nameOf (s.used + 1)) .child
            none = .ok r.1.1) := by
  unfold createDefinition at h
  simp only [Edit.bind_eq_ok_iff, Edit.fresh_eq_ok_iff, Edit.lift_eq_ok_iff] at h
  obtain ⟨_, _, ⟨_, rfl⟩, _, _, hfresh, made, _, ⟨hmade, rfl⟩, h⟩ := h
  cases hfresh
  refine ⟨made, hmade, ?_⟩
  cases content with
  | none =>
    rw [Edit.pure_eq_ok_iff] at h
    subst h
    exact ⟨rfl, Or.inl ⟨rfl, rfl, rfl⟩⟩
  | some draft =>
    simp only [Edit.bind_eq_ok_iff, Edit.pure_eq_ok_iff] at h
    obtain ⟨added, t, hadd, rfl⟩ := h
    obtain ⟨haddAs, _, ht⟩ := add_ok hadd
    exact ⟨rfl, Or.inr ⟨draft, rfl, ht, haddAs⟩⟩

theorem content_ok {name : String} {id : NodeId} {n : Node NodeId}
    (h : g.content name = .ok (some (id, n))) :
    g.contentId? name = some id ∧ g.node? id = some n := by
  unfold content at h
  cases hid : g.contentId? name with
  | none => simp [hid, pure, Except.pure] at h
  | some id' =>
    rw [hid, Option.mapM_some] at h
    simp only [map_eq_pure_bind, bind_eq_ok_iff, pure_eq_ok_iff, pointedAt_eq_ok_iff] at h
    obtain ⟨_, ⟨m, hm, rfl⟩, heq⟩ := h
    cases heq
    exact ⟨rfl, hm⟩

theorem promotableEdge_ok {id : NodeId} {n : Node NodeId} {e : Edge}
    (h : g.promotableEdge id n = .ok e) :
    g.owningEdge id = some e ∧ id ≠ g.rootId ∧ n.kind ≠ .reference ∧ n.kind ≠ .definition ∧
      g.isDefinition e.source = false ∧ n.kind.isGroup = false := by
  unfold promotableEdge at h
  cases ho : g.owningEdge id with
  | none => simp [ho, refuse] at h
  | some f =>
    simp only [ho, refuse_bind, ite_refuse_eq_ok_iff, pure_eq_ok_iff] at h
    obtain ⟨hroot, hkind, hgroup, rfl⟩ := h
    simp only [Bool.or_eq_true, decide_eq_true_eq, not_or] at hkind
    exact ⟨rfl, hroot, hkind.1.1, hkind.1.2, by simpa using hkind.2, by simpa using hgroup⟩

/-- The graph in which a new definition holds a node that was taken off its place. -/
def enclosed (g : Graph) (defId id : NodeId) (n : Node NodeId) (name : String) : Graph :=
  ((((g.detach id).putNode defId (Node.ofDefinition name)).define name defId).putNode id
    { n with required := false }).attachLast defId id .child

/-- A reference in the place of the node `id`: the node was taken off its place and put under a new
definition, and the reference hangs where the node did. -/
structure ReferenceInPlace (g : Graph) (defId refId id : NodeId) (name : String) (g' : Graph) where
  /-- The node. -/
  node : Node NodeId
  /-- The edge that owned it. -/
  edge : Edge
  /-- What its parent owns in the end. -/
  es : List Edge
  node_eq : g.node? id = some node
  owner : g.owningEdge id = some edge
  ne_root : id ≠ g.rootId
  not_reference : node.kind ≠ .reference
  not_definition : node.kind ≠ .definition
  parent_not_definition : g.isDefinition edge.source = false
  not_group : node.kind.isGroup = false
  name_ne : name ≠ ""
  name_free : g.definitions.find? name = none
  /-- A reference that is a child takes the position of the node. -/
  placed : placeEdge ⟨edge.source, refId, edge.kind⟩
    (if edge.kind = .child then some (((g.childIds edge.source).idxOf id : Nat) : Int) else none)
    ((g.enclosed defId id node name).edgesFrom edge.source) = .ok es
  /-- The clauses that named the node name the reference. -/
  result : g' =
    (if edge.kind.isBranch then
      (((g.enclosed defId id node name).putNode refId (referenceFor node name)).wire
        ⟨edge.source, refId, edge.kind⟩ es).retarget edge.source id (some refId)
    else ((g.enclosed defId id node name).putNode refId (referenceFor node name)).wire
      ⟨edge.source, refId, edge.kind⟩ es).next

theorem promoteAs_ok {defId refId id : NodeId} {name : String}
    (h : g.promoteAs defId refId id name = .ok g') :
    Nonempty (ReferenceInPlace g defId refId id name g') := by
  unfold promoteAs at h
  simp only [bind_eq_ok_iff, get_eq_ok_iff, pure_eq_ok_iff, attach_eq_ok_iff] at h
  obtain ⟨n, hn, e, he, _, hname, _, ⟨es, hes, rfl⟩, rfl⟩ := h
  obtain ⟨ho, hroot, href, hdef, hisdef, hgroup⟩ := promotableEdge_ok he
  obtain ⟨hne, hfree⟩ := checkNewName_ok hname
  exact ⟨n, e, es, hn, ho, hroot, href, hdef, hisdef, hgroup, hne, hfree, hes, rfl⟩

theorem promote_ok {id : NodeId} {name : String} {s : IdSupply} {r : (Graph × NodeId) × IdSupply}
    (h : (g.promote id name).run s = .ok r) :
    g.promoteAs (IdSupply.nameOf (s.used + 1)) (IdSupply.nameOf (s.used + 2)) id name =
      .ok r.1.1 ∧ r.2 = ⟨s.used + 2⟩ := by
  unfold promote at h
  simp only [Edit.bind_eq_ok_iff, Edit.fresh_eq_ok_iff, Edit.lift_eq_ok_iff,
    Edit.pure_eq_ok_iff] at h
  obtain ⟨_, _, hdef, _, _, href, _, _, ⟨hpromote, rfl⟩, rfl⟩ := h
  cases hdef
  cases href
  exact ⟨hpromote, rfl⟩

theorem promote_made {id : NodeId} {name : String} {s : IdSupply}
    {r : (Graph × NodeId) × IdSupply} (h : (g.promote id name).run s = .ok r) :
    r.1.2 = IdSupply.nameOf (s.used + 2) := by
  unfold promote at h
  simp only [Edit.bind_eq_ok_iff, Edit.fresh_eq_ok_iff, Edit.lift_eq_ok_iff,
    Edit.pure_eq_ok_iff] at h
  obtain ⟨_, _, hdef, _, _, href, _, _, _, rfl⟩ := h
  cases hdef
  cases href
  rfl

theorem renameDefinition_ok {old new : String} (h : g.renameDefinition old new = .ok g') :
    g' = g ∨ ∃ id n, g.definitions.find? old = some id ∧ new ≠ old ∧ new ≠ "" ∧
      g.definitions.find? new = none ∧ g.node? id = some n ∧
      g' = ((g.referencesTo old).foldl (fun h ref => h.pointAt new ref)
        (((g.putNode id { n with key := new, body := .definition (.str new) }).undefine old).define
          new id)).next := by
  unfold renameDefinition at h
  cases hd : g.definitions.find? old with
  | none => simp [hd, refuse] at h
  | some id =>
    simp only [hd] at h
    split_ifs at h with hsame
    · exact Or.inl (pure_eq_ok_iff.1 h).symm
    · simp only [bind_eq_ok_iff, pointedAt_eq_ok_iff, pure_eq_ok_iff] at h
      obtain ⟨_, hname, n, hn, rfl⟩ := h
      obtain ⟨hne, hfree⟩ := checkNewName_ok hname
      exact Or.inr ⟨id, n, rfl, hsame, hne, hfree, hn, rfl⟩

/-! ## Removing -/

theorem removeDefinition_ok {name : String} {policy : RemovalPolicy} {s : IdSupply}
    {r : (Graph × List String) × IdSupply}
    (h : (g.removeDefinition name policy).run s = .ok r) :
    ∃ defId settled warnings, g.definitions.find? name = some defId ∧
      (g.settleReferences name defId policy).run s = .ok ((settled, warnings), r.2) ∧
      r.1.1 = ((settled.dropAll (g.subtreeIds defId)).undefine name).next := by
  unfold removeDefinition at h
  cases hd : g.definitions.find? name with
  | none =>
    simp only [hd, Edit.throw_eq_ok_iff] at h
  | some defId =>
    simp only [hd, Edit.bind_eq_ok_iff, Edit.pure_eq_ok_iff] at h
    obtain ⟨⟨settled, warnings⟩, t, hsettle, rfl⟩ := h
    exact ⟨defId, settled, warnings, rfl, hsettle, rfl⟩

/-- What becomes of the references: they stay, if there are any only where the policy allows it; or
they go; or each that stands outside of the definition is inlined in turn. -/
theorem settleReferences_ok {name : String} {defId : NodeId} {policy : RemovalPolicy}
    {s : IdSupply} {r : (Graph × List String) × IdSupply}
    (h : (g.settleReferences name defId policy).run s = .ok r) :
    ((policy = .allow ∨ g.referencesTo name = []) ∧ r.1.1 = g ∧ r.2 = s) ∨
    (policy = .cascade ∧
      r.1.1 = (g.referencesTo name).foldl (fun h ref => h.removeSubtree g ref) g ∧ r.2 = s) ∨
    (policy = .inlined ∧
      (((g.referencesTo name).filter fun ref => !(g.subtreeIds defId).contains ref).foldlM
        (fun (h : Graph) ref => h.inlineReference g ref (g.childIds defId).head?) g :
          Edit Graph).run s = .ok (r.1.1, r.2)) := by
  unfold settleReferences at h
  dsimp only at h
  split_ifs at h with hrefs
  · rw [Edit.pure_eq_ok_iff] at h
    subst h
    exact Or.inl ⟨Or.inr (List.isEmpty_iff.1 hrefs), rfl, rfl⟩
  · cases policy with
    | allow =>
      rw [Edit.pure_eq_ok_iff] at h
      subst h
      exact Or.inl ⟨Or.inl rfl, rfl, rfl⟩
    | refuse => simp only [Edit.throw_eq_ok_iff] at h
    | cascade =>
      rw [Edit.pure_eq_ok_iff] at h
      subst h
      exact Or.inr (Or.inl ⟨rfl, rfl, rfl⟩)
    | inlined =>
      simp only [Edit.bind_eq_ok_iff, Edit.pure_eq_ok_iff] at h
      obtain ⟨settled, t, hsettle, rfl⟩ := h
      exact Or.inr (Or.inr ⟨rfl, hsettle⟩)

theorem remove_ok {id : NodeId} {policy : RemovalPolicy} {s : IdSupply} {r : Graph × IdSupply}
    (h : (g.remove id policy).run s = .ok r) :
    ∃ n, id ≠ g.rootId ∧ g.node? id = some n ∧
      ((n.kind ≠ .definition ∧ r = ((g.removeSubtree g id).next, s)) ∨
        ∃ name warnings, n.body = .definition (.str name) ∧
          (g.removeDefinition name policy).run s = .ok ((r.1, warnings), r.2)) := by
  unfold remove at h
  simp only [Edit.throw_bind, Edit.ite_throw_eq_ok_iff, Edit.bind_eq_ok_iff, Edit.lift_eq_ok_iff,
    get_eq_ok_iff] at h
  obtain ⟨hroot, n, _, ⟨hn, rfl⟩, h⟩ := h
  refine ⟨n, hroot, hn, ?_⟩
  cases hb : n.body with
  | definition v =>
    cases v with
    | str name =>
      simp only [hb, Edit.bind_eq_ok_iff, Edit.pure_eq_ok_iff] at h
      obtain ⟨⟨g'', warnings⟩, t, hrem, rfl⟩ := h
      exact Or.inr ⟨name, warnings, rfl, hrem⟩
    | null | bool _ | int _ | float _ | list _ | obj _ =>
      simp only [hb] at h
      split_ifs at h <;> simp only [Edit.throw_eq_ok_iff] at h
  | string a | number a | boolean | enum a | object a | array a | reference target | group k cs =>
    simp only [hb, Edit.pure_eq_ok_iff] at h
    exact Or.inl ⟨by simp [Node.kind, hb, Body.kind], h⟩

/-- The nodes below a node with the names that their copies get. -/
def copyPairs (old : Graph) (source : NodeId) (used : Nat) : List (NodeId × NodeId) :=
  (old.subtreeIds source).zip
    ((List.range (old.subtreeIds source).length).map fun i => IdSupply.nameOf (used + 1 + i))

theorem copySubtree_ok {old : Graph} {source : NodeId} {s : IdSupply}
    {r : (Graph × NodeId) × IdSupply} (h : (g.copySubtree old source).run s = .ok r) :
    g.copySubtreeAs old (copyPairs old source s.used) = .ok r.1.1 ∧
      copyName? (copyPairs old source s.used) source = some r.1.2 ∧
      r.2 = ⟨s.used + (old.subtreeIds source).length⟩ := by
  unfold copySubtree at h
  simp only [Edit.bind_eq_ok_iff, Edit.lift_eq_ok_iff, Edit.pure_eq_ok_iff,
    orBreakDown_eq_ok_iff] at h
  obtain ⟨_, _, hnames, _, _, ⟨hcopied, rfl⟩, _, _, ⟨hname, rfl⟩, rfl⟩ := h
  cases hnames
  exact ⟨hcopied, hname, rfl⟩

/-- The copy that takes the place of a reference. -/
def standIn (copy ref : Node NodeId) : Node NodeId :=
  { copy with
    key := ref.key
    required := ref.required
    title := if ref.title.isNull then copy.title else ref.title }

theorem inlineReference_ok {old : Graph} {refId : NodeId} {content : Option NodeId} {s : IdSupply}
    {r : Graph × IdSupply} (h : (g.inlineReference old refId content).run s = .ok r) :
    ∃ ref, old.node? refId = some ref ∧
      ((content = none ∨ g.owningEdge refId = none) ∧ r = (g.removeSubtree old refId, s) ∨
        ∃ contentId e copied copyId copy es, content = some contentId ∧
          g.owningEdge refId = some e ∧
          (((g.detach refId).drop refId).copySubtree old contentId).run s =
            .ok ((copied, copyId), r.2) ∧
          copied.node? copyId = some copy ∧
          placeEdge ⟨e.source, copyId, e.kind⟩
            (if e.kind = .child then some (((g.childIds e.source).idxOf refId : Nat) : Int)
              else none) (copied.edgesFrom e.source) = .ok es ∧
          ∃ wired, wired =
              (copied.putNode copyId (standIn copy ref)).wire ⟨e.source, copyId, e.kind⟩ es ∧
            r.1 = if e.kind.isBranch then wired.retarget e.source refId (some copyId)
              else wired) := by
  unfold inlineReference at h
  simp only [Edit.bind_eq_ok_iff, Edit.lift_eq_ok_iff, pointedAt_eq_ok_iff] at h
  obtain ⟨ref, _, ⟨href, rfl⟩, h⟩ := h
  refine ⟨ref, href, ?_⟩
  cases content with
  | none =>
    rw [Edit.pure_eq_ok_iff] at h
    exact Or.inl ⟨Or.inl rfl, h⟩
  | some contentId =>
    cases ho : g.owningEdge refId with
    | none =>
      simp only [ho, Edit.pure_eq_ok_iff] at h
      exact Or.inl ⟨Or.inr rfl, h⟩
    | some e =>
      simp only [ho, Edit.bind_eq_ok_iff, Edit.lift_eq_ok_iff, Edit.pure_eq_ok_iff,
        pointedAt_eq_ok_iff, attach_eq_ok_iff] at h
      obtain ⟨⟨copied, copyId⟩, t, hcopy, copy, _, ⟨hnode, rfl⟩, _, _, ⟨⟨es, hes, rfl⟩, rfl⟩,
        rfl⟩ := h
      exact Or.inr ⟨contentId, e, copied, copyId, copy, es, rfl, rfl, hcopy, hnode, hes, _, rfl,
        rfl⟩

/-! ## Groups and their clauses -/

theorem createGroup_ok {kind : NodeKind} {parentId : NodeId} {title description : Value}
    {index : Option Int} {s : IdSupply} {r : (Graph × NodeId) × IdSupply}
    (h : (g.createGroup kind parentId title description index).run s = .ok r) :
    kind.isGroup = true ∧
      (g.add { body := Body.initial kind, title := title, description := description } parentId
        .child index).run s = .ok r := by
  unfold createGroup at h
  simp only [Edit.throw_bind, Edit.ite_throw_eq_ok_iff] at h
  exact ⟨by simpa using h.1, h.2⟩

theorem getClauses_eq_ok_iff {id : NodeId} {cs : List (Clause NodeId)} :
    g.getClauses id = .ok cs ↔
      ∃ n, g.node? id = some n ∧ n.kind.isGroup = true ∧ n.clauses = cs := by
  unfold getClauses
  simp only [bind_eq_ok_iff, getGroup_eq_ok_iff, pure_eq_ok_iff, and_assoc]

/-- A branch that an edit makes sure of hangs there already, or is moved there. It is moved from the
other branches of the group only if no other clause points at it there. -/
theorem ensureBranch_ok {groupId key : NodeId} {target : Option NodeId} {kind : EdgeKind}
    {skip : Option Nat} (h : g.ensureBranch groupId key target kind skip = .ok g') :
    (target = none ∧ g' = g) ∨ ∃ id, target = some id ∧
      ((∃ e, g.owningEdge id = some e ∧ e.source = groupId ∧ e.kind = kind ∧ g' = g) ∨
        (∀ e, g.owningEdge id = some e → e.source = groupId → e.kind ≠ kind ∧
          ∃ n, g.node? groupId = some n ∧
            servesElsewhere n.clauses skip id (otherBranch kind) = false) ∧
        g.move id groupId kind none = .ok g') := by
  unfold ensureBranch at h
  cases target with
  | none => exact Or.inl ⟨rfl, (pure_eq_ok_iff.1 h).symm⟩
  | some id =>
    refine Or.inr ⟨id, rfl, ?_⟩
    simp only [bind_eq_ok_iff] at h
    obtain ⟨_, _, h⟩ := h
    cases ho : g.owningEdge id with
    | none =>
      simp only [ho] at h
      exact Or.inr ⟨by simp, h⟩
    | some e =>
      simp only [ho] at h
      by_cases hs : e.source = groupId
      · rw [if_pos hs] at h
        by_cases hk : e.kind = kind
        · rw [if_pos hk, pure_eq_ok_iff] at h
          exact Or.inl ⟨e, rfl, hs, hk, h.symm⟩
        · simp only [if_neg hk, refuse_bind, bind_eq_ok_iff, getClauses_eq_ok_iff,
            ite_refuse_eq_ok_iff] at h
          obtain ⟨_, ⟨n, hn, _, rfl⟩, hserves, h⟩ := h
          exact Or.inr ⟨fun f hf _ => ⟨Option.some.inj hf ▸ hk, n, hn, by simpa using hserves⟩, h⟩
      · rw [if_neg hs] at h
        refine Or.inr ⟨fun f hf hsource => ?_, h⟩
        rw [Option.some.inj hf] at hs
        exact absurd hsource hs

theorem writeClauses_ok {id : NodeId} {clauses : List (Clause NodeId)}
    (h : g.writeClauses id clauses = .ok g') :
    ∃ n, g.node? id = some n ∧ g' = (g.putNode id (n.setClauses clauses)).next := by
  unfold writeClauses at h
  simp only [bind_eq_ok_iff, get_eq_ok_iff, pure_eq_ok_iff] at h
  obtain ⟨n, hn, rfl⟩ := h
  exact ⟨n, hn, rfl⟩

theorem appendClause_ok {id : NodeId} {clause : Clause NodeId}
    (h : g.appendClause id clause = .ok g') :
    ∃ n written g₁ g₂ m, g.node? id = some n ∧ n.kind.isGroup = true ∧
      clauseFor id n clause = .ok written ∧
      g.ensureBranch id n.key written.onTrue .thenBranch none = .ok g₁ ∧
      g₁.ensureBranch id n.key written.onFalse .elseBranch none = .ok g₂ ∧
      g₂.node? id = some m ∧ m.kind.isGroup = true ∧
      g' = (g₂.putNode id (m.setClauses (m.clauses ++ [written]))).next := by
  unfold appendClause at h
  simp only [bind_eq_ok_iff, getGroup_eq_ok_iff, getClauses_eq_ok_iff] at h
  obtain ⟨n, ⟨hn, hgroup⟩, written, hfor, g₁, h₁, g₂, h₂, _, ⟨m, hm, hgroup', rfl⟩, h⟩ := h
  obtain ⟨m', hm', rfl⟩ := writeClauses_ok h
  rw [hm] at hm'
  obtain rfl := Option.some.inj hm'
  exact ⟨n, written, g₁, g₂, m, hn, hgroup, hfor, h₁, h₂, hm, hgroup', rfl⟩

theorem clauseAt_ok {id : NodeId} {clauses : List (Clause NodeId)} {index : Int}
    {c : Clause NodeId} (h : clauseAt id clauses index = .ok c) :
    clauses[index.toNat]? = some c := by
  unfold clauseAt at h
  by_cases hi : 0 ≤ index
  · rw [if_pos hi] at h
    cases hc : clauses[index.toNat]? with
    | none => simp [hc, refuse] at h
    | some d =>
      simp only [hc] at h
      rw [Except.ok.inj h]
  · simp [hi, refuse] at h

theorem updateClause_ok {id : NodeId} {index : Int} {patch : Members}
    (h : g.updateClause id index patch = .ok g') :
    ∃ n clause p updated g₁ g₂ m, g.node? id = some n ∧ n.kind.isGroup = true ∧
      n.clauses[index.toNat]? = some clause ∧ ClausePatch.ofMembers patch = .ok p ∧
      p.apply clause = .ok updated ∧
      g.ensureBranch id n.key updated.onTrue .thenBranch (some index.toNat) = .ok g₁ ∧
      g₁.ensureBranch id n.key updated.onFalse .elseBranch (some index.toNat) = .ok g₂ ∧
      g₂.node? id = some m ∧ m.kind.isGroup = true ∧
      g' = (g₂.putNode id (m.setClauses
        (if n.kind = .group .ifBlock then
          (m.clauses.set index.toNat updated).map fun c =>
            { c with onTrue := updated.onTrue, onFalse := updated.onFalse }
        else m.clauses.set index.toNat updated))).next := by
  unfold updateClause at h
  simp only [bind_eq_ok_iff, getGroup_eq_ok_iff] at h
  obtain ⟨n, ⟨hn, hgroup⟩, clause, hat, h⟩ := h
  split at h
  swap
  · simp only [refuse_bind, refuse_eq_ok_iff] at h
  simp only [bind_eq_ok_iff, getClauses_eq_ok_iff] at h
  obtain ⟨p, hp, updated, happly, g₁, h₁, g₂, h₂, _, ⟨m, hm, hgroup', rfl⟩, h⟩ := h
  obtain ⟨m', hm', rfl⟩ := writeClauses_ok h
  rw [hm] at hm'
  obtain rfl := Option.some.inj hm'
  exact ⟨n, clause, p, updated, g₁, g₂, m, hn, hgroup, clauseAt_ok hat, hp, happly, h₁, h₂, hm,
    hgroup', rfl⟩

theorem pruneBranches_ok {id : NodeId} (h : g.pruneBranches id = .ok g') :
    ∃ n, g.node? id = some n ∧ n.kind.isGroup = true ∧
      (g' = g ∨ g' = ((g.unusedBranches id n.clauses).foldl
        (fun h e => h.removeSubtree g e.target) g).next) := by
  unfold pruneBranches at h
  simp only [bind_eq_ok_iff, getGroup_eq_ok_iff] at h
  obtain ⟨n, ⟨hn, hgroup⟩, h⟩ := h
  refine ⟨n, hn, hgroup, ?_⟩
  split at h
  · exact Or.inl (pure_eq_ok_iff.1 h).symm
  · exact Or.inr (pure_eq_ok_iff.1 h).symm

theorem removeClause_ok {id : NodeId} {index : Int} {prune : Bool}
    (h : g.removeClause id index prune = .ok g') :
    ∃ n g₁, g.node? id = some n ∧ n.kind.isGroup = true ∧
      g₁ = (g.putNode id (n.setClauses (n.clauses.eraseIdx index.toNat))).next ∧
      (g' = g₁ ∨ g₁.pruneBranches id = .ok g') := by
  unfold removeClause at h
  simp only [bind_eq_ok_iff, getGroup_eq_ok_iff] at h
  obtain ⟨n, ⟨hn, hgroup⟩, _, _, g₁, hwrite, h⟩ := h
  obtain ⟨m, hm, rfl⟩ := writeClauses_ok hwrite
  rw [hn] at hm
  obtain rfl := Option.some.inj hm
  refine ⟨n, _, hn, hgroup, rfl, ?_⟩
  split_ifs at h
  · exact Or.inr h
  · exact Or.inl (pure_eq_ok_iff.1 h).symm

theorem synchronizeBranches_ok {id : NodeId} {onTrue onFalse : Option (Option NodeId)}
    (h : g.synchronizeBranches id onTrue onFalse = .ok g') :
    ∃ n, g.node? id = some n ∧ n.kind.isGroup = true ∧
      ((n.clauses = [] ∧ g' = g) ∨ ∃ first rest, n.clauses = first :: rest ∧
        (((∀ c ∈ n.clauses, c.branches = (onTrue.getD first.onTrue, onFalse.getD first.onFalse)) ∧
            g' = g) ∨
          ∃ g₁ g₂ m, g.ensureBranch id n.key (onTrue.getD first.onTrue) .thenBranch none =
              .ok g₁ ∧
            g₁.ensureBranch id n.key (onFalse.getD first.onFalse) .elseBranch none = .ok g₂ ∧
            g₂.node? id = some m ∧ m.kind.isGroup = true ∧
            g' = (g₂.putNode id (m.setClauses (m.clauses.map fun c =>
              { c with
                onTrue := onTrue.getD first.onTrue
                onFalse := onFalse.getD first.onFalse }))).next)) := by
  unfold synchronizeBranches at h
  simp only [bind_eq_ok_iff, getGroup_eq_ok_iff] at h
  obtain ⟨n, ⟨hn, hgroup⟩, h⟩ := h
  refine ⟨n, hn, hgroup, ?_⟩
  cases hc : n.clauses with
  | nil =>
    simp only [hc, pure_eq_ok_iff] at h
    exact Or.inl ⟨rfl, h.symm⟩
  | cons first rest =>
    simp only [hc] at h
    refine Or.inr ⟨first, rest, rfl, ?_⟩
    split_ifs at h with hall
    · refine Or.inl ⟨fun c hmem => ?_, (pure_eq_ok_iff.1 h).symm⟩
      rw [List.all_eq_true] at hall
      simpa using hall c hmem
    · simp only [bind_eq_ok_iff, getClauses_eq_ok_iff] at h
      obtain ⟨g₁, h₁, g₂, h₂, _, ⟨m, hm, hgroup', rfl⟩, h⟩ := h
      obtain ⟨m', hm', rfl⟩ := writeClauses_ok h
      rw [hm] at hm'
      obtain rfl := Option.some.inj hm'
      exact Or.inr ⟨g₁, g₂, m, h₁, h₂, hm, hgroup', rfl⟩

theorem appendClauseFrom_ok {id : NodeId} {clause : Members}
    (h : g.appendClauseFrom id clause = .ok g') :
    ∃ c, Clause.ofMembers clause = .ok c ∧ g.appendClause id c = .ok g' := by
  unfold appendClauseFrom at h
  simp only [bind_eq_ok_iff] at h
  obtain ⟨_, _, c, hc, h⟩ := h
  exact ⟨c, hc, h⟩

/-- The branches of a clause were made sure of, and clauses were written into the group. -/
inductive ClausesWritten (g : Graph) (id : NodeId) : Graph → Prop where
  /-- Both branches hang below the group when the clauses are written. -/
  | intro {key : NodeId} {onTrue onFalse : Option NodeId} {skip : Option Nat} {g₁ g₂ : Graph}
    {m : Node NodeId} (h₁ : g.ensureBranch id key onTrue .thenBranch skip = .ok g₁)
    (h₂ : g₁.ensureBranch id key onFalse .elseBranch skip = .ok g₂) (hm : g₂.node? id = some m)
    (cs : List (Clause NodeId)) : ClausesWritten g id (g₂.putNode id (m.setClauses cs)).next

theorem clausesWritten_of_appendClause {id : NodeId} {clause : Clause NodeId}
    (h : g.appendClause id clause = .ok g') : g.ClausesWritten id g' := by
  obtain ⟨_, _, _, _, _, _, _, _, h₁, h₂, hm, _, rfl⟩ := appendClause_ok h
  exact .intro h₁ h₂ hm _

theorem clausesWritten_of_updateClause {id : NodeId} {index : Int} {patch : Members}
    (h : g.updateClause id index patch = .ok g') : g.ClausesWritten id g' := by
  obtain ⟨_, _, _, _, _, _, _, _, _, _, _, _, h₁, h₂, hm, _, rfl⟩ := updateClause_ok h
  exact .intro h₁ h₂ hm _

/-- Clauses that have the branches already are not written. -/
theorem clausesWritten_of_synchronizeBranches {id : NodeId} {onTrue onFalse : Option (Option NodeId)}
    (h : g.synchronizeBranches id onTrue onFalse = .ok g') : g' = g ∨ g.ClausesWritten id g' := by
  obtain ⟨_, _, _, ⟨_, rfl⟩ | ⟨_, _, _, ⟨_, rfl⟩ | ⟨_, _, _, h₁, h₂, hm, _, rfl⟩⟩⟩ :=
    synchronizeBranches_ok h
  · exact Or.inl rfl
  · exact Or.inl rfl
  · exact Or.inr (.intro h₁ h₂ hm _)

/-! ## Changes -/

/-- A change that only leads to another graph takes no names. -/
theorem apply_graph_ok {x : Except Fault Graph} {s : IdSupply} {r : Effect × IdSupply}
    (h : (do return ({ graph := ← x } : Effect) : Edit Effect).run s = .ok r) :
    ∃ g', x = .ok g' ∧ r = ({ graph := g' }, s) := by
  simp only [Edit.bind_eq_ok_iff, Edit.lift_eq_ok_iff, Edit.pure_eq_ok_iff] at h
  obtain ⟨g', _, ⟨hok, rfl⟩, rfl⟩ := h
  exact ⟨g', hok, rfl⟩

/-- What a change did that was applied: the edit that it stands for led to the graph and left the
supply of names. -/
inductive Applied (g : Graph) (s : IdSupply) : Change → Graph → IdSupply → Prop where
  | add {draft : Draft} {parentId : NodeId} {edge : EdgeKind} {index : Option Int}
    {r : (Graph × NodeId) × IdSupply} (h : (g.add draft parentId edge index).run s = .ok r) :
    Applied g s (.add draft parentId edge index) r.1.1 r.2
  | update {id : NodeId} {patch : Members} {g' : Graph} (h : g.update id patch = .ok g') :
    Applied g s (.update id patch) g' s
  | remove {id : NodeId} {policy : RemovalPolicy} {r : Graph × IdSupply}
    (h : (g.remove id policy).run s = .ok r) : Applied g s (.remove id policy) r.1 r.2
  | move {id newParent : NodeId} {edge : EdgeKind} {index : Option Int} {g' : Graph}
    (h : g.move id newParent edge index = .ok g') :
    Applied g s (.move id newParent edge index) g' s
  | reorder {id : NodeId} {index : Int} {g' : Graph} (h : g.reorder id index = .ok g') :
    Applied g s (.reorder id index) g' s
  /-- A group is added as a child without clauses. -/
  | createGroup {kind : NodeKind} {parentId : NodeId} {title description : Value}
    {index : Option Int} {r : (Graph × NodeId) × IdSupply} (hgroup : kind.isGroup = true)
    (h : (g.add { body := Body.initial kind, title := title, description := description } parentId
      .child index).run s = .ok r) :
    Applied g s (.createGroup kind parentId title description index) r.1.1 r.2
  | appendClause {id : NodeId} {clause : Members} {written : Clause NodeId} {g' : Graph}
    (hread : Clause.ofMembers clause = .ok written) (h : g.appendClause id written = .ok g') :
    Applied g s (.appendClause id clause) g' s
  | updateClause {id : NodeId} {index : Int} {patch : Members} {g' : Graph}
    (h : g.updateClause id index patch = .ok g') : Applied g s (.updateClause id index patch) g' s
  | removeClause {id : NodeId} {index : Int} {prune : Bool} {g' : Graph}
    (h : g.removeClause id index prune = .ok g') : Applied g s (.removeClause id index prune) g' s
  | synchronize {id : NodeId} {onTrue onFalse : Option (Option NodeId)} {g' : Graph}
    (h : g.synchronizeBranches id onTrue onFalse = .ok g') :
    Applied g s (.synchronize id onTrue onFalse) g' s
  | prune {id : NodeId} {g' : Graph} (h : g.pruneBranches id = .ok g') :
    Applied g s (.prune id) g' s
  | createDefinition {name : String} {content : Option Draft} {r : (Graph × NodeId) × IdSupply}
    (h : (g.createDefinition name content).run s = .ok r) :
    Applied g s (.createDefinition name content) r.1.1 r.2
  | promote {id : NodeId} {name : String} {r : (Graph × NodeId) × IdSupply}
    (h : (g.promote id name).run s = .ok r) : Applied g s (.promote id name) r.1.1 r.2
  | renameDefinition {old new : String} {g' : Graph} (h : g.renameDefinition old new = .ok g') :
    Applied g s (.renameDefinition old new) g' s
  | removeDefinition {name : String} {policy : RemovalPolicy}
    {r : (Graph × List String) × IdSupply} (h : (g.removeDefinition name policy).run s = .ok r) :
    Applied g s (.removeDefinition name policy) r.1.1 r.2

theorem applied_of_apply {c : Change} {s : IdSupply} {r : Effect × IdSupply}
    (h : (g.apply c).run s = .ok r) : Applied g s c r.1.graph r.2 := by
  cases c with
  | add draft parentId edge index =>
    simp only [apply, Edit.bind_eq_ok_iff, Edit.pure_eq_ok_iff] at h
    obtain ⟨made, u, h, rfl⟩ := h
    exact .add h
  | update id patch =>
    obtain ⟨g', hg, rfl⟩ := apply_graph_ok h
    exact .update hg
  | remove id policy =>
    simp only [apply, Edit.bind_eq_ok_iff, Edit.pure_eq_ok_iff] at h
    obtain ⟨g', u, h, rfl⟩ := h
    exact .remove h
  | move id newParent edge index =>
    obtain ⟨g', hg, rfl⟩ := apply_graph_ok h
    exact .move hg
  | reorder id index =>
    obtain ⟨g', hg, rfl⟩ := apply_graph_ok h
    exact .reorder hg
  | createGroup kind parentId title description index =>
    simp only [apply, Edit.bind_eq_ok_iff, Edit.pure_eq_ok_iff] at h
    obtain ⟨made, u, h, rfl⟩ := h
    obtain ⟨hgroup, hadd⟩ := createGroup_ok h
    exact .createGroup hgroup hadd
  | appendClause id clause =>
    obtain ⟨g', hg, rfl⟩ := apply_graph_ok h
    obtain ⟨written, hread, happend⟩ := appendClauseFrom_ok hg
    exact .appendClause hread happend
  | updateClause id index patch =>
    obtain ⟨g', hg, rfl⟩ := apply_graph_ok h
    exact .updateClause hg
  | removeClause id index prune =>
    obtain ⟨g', hg, rfl⟩ := apply_graph_ok h
    exact .removeClause hg
  | synchronize id onTrue onFalse =>
    obtain ⟨g', hg, rfl⟩ := apply_graph_ok h
    exact .synchronize hg
  | prune id =>
    obtain ⟨g', hg, rfl⟩ := apply_graph_ok h
    exact .prune hg
  | createDefinition name content =>
    simp only [apply, Edit.bind_eq_ok_iff, Edit.pure_eq_ok_iff] at h
    obtain ⟨made, u, h, rfl⟩ := h
    exact .createDefinition h
  | promote id name =>
    simp only [apply, Edit.bind_eq_ok_iff, Edit.pure_eq_ok_iff] at h
    obtain ⟨made, u, h, rfl⟩ := h
    exact .promote h
  | renameDefinition old new =>
    obtain ⟨g', hg, rfl⟩ := apply_graph_ok h
    exact .renameDefinition hg
  | removeDefinition name policy =>
    simp only [apply, Edit.bind_eq_ok_iff, Edit.pure_eq_ok_iff] at h
    obtain ⟨warned, u, h, rfl⟩ := h
    exact .removeDefinition h

end Graph

end FormGraph

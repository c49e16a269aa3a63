import FormGraph.Proofs.Agreement.Basic

/-!
# What takes the place of a promoted node

After a node was turned into a definition the graph is as before, but for three nodes: the definition,
the reference in the place of the node, and the node itself, which hangs below the definition and is
not required any more. `Promoted` says so in the views that a writer of documents has: nodes, children
and definitions.
-/

namespace FormGraph

namespace Graph

/-- Where an edge is placed among children. -/
theorem insertAtChild_eq (e : Edge) : ∀ (i : Nat) {es : List Edge}, (∀ f ∈ es, f.kind = .child) →
    insertAtChild e i es = es.take i ++ e :: es.drop i
  | 0, [], _ => rfl
  | i + 1, [], _ => rfl
  | 0, f :: fs, h => by
    rw [insertAtChild, if_pos (h f List.mem_cons_self)]
    rfl
  | i + 1, f :: fs, h => by
    rw [insertAtChild, if_pos (h f List.mem_cons_self),
      insertAtChild_eq e i fun f hf => h f (List.mem_cons_of_mem _ hf)]
    rfl

/-- A child that is put at the place of another among children takes its place. -/
theorem placeEdge_of_children {e : Edge} {front back es : List Edge} (he : e.kind = .child)
    (hchild : ∀ f ∈ front ++ back, f.kind = .child)
    (h : placeEdge e (some ((front.length : Nat) : Int)) (front ++ back) = .ok es) :
    es = front ++ e :: back := by
  have hcount : ((front ++ back).filter fun f => decide (f.kind = .child)) = front ++ back :=
    List.filter_eq_self.2 fun f hf => decide_eq_true (hchild f hf)
  unfold placeEdge at h
  rw [hcount] at h
  dsimp only at h
  rw [if_neg (not_not_intro he)] at h
  split_ifs at h with hlast hnone
  · have hback : back = [] := by
      rw [List.length_append] at hlast
      exact List.eq_nil_of_length_eq_zero (by omega)
    rw [hback] at h ⊢
    rw [List.append_nil] at h
    exact (Except.ok.inj h).symm
  · simp [breakDown] at h
  · rw [insertAtChild_eq e _ hchild, Int.toNat_natCast, List.take_left, List.drop_left] at h
    exact (Except.ok.inj h).symm

variable {g g' : Graph}

/-- The names of nodes after `old` was replaced by `new`. -/
def swapped (old new x : NodeId) : NodeId := if x = old then new else x

/-- What a writer sees of a graph in which the node `id` was turned into a definition, and the
reference `refId` put in its place. -/
structure Promoted (g g' : Graph) (defId refId id : NodeId) (name : String) (n : Node NodeId)
    (e : Edge) : Prop where
  /-- The node was there. -/
  node : g.node? id = some n
  /-- It hung somewhere. -/
  owner : g.owningEdge id = some e
  /-- The node above is no definition. -/
  parent_kind : g.kind? e.source ≠ some .definition
  /-- It was no group. -/
  not_group : n.kind.isGroup = false
  /-- The name is new. -/
  name_free : g.definitions.find? name = none
  /-- The definition is a new node. -/
  definition_free : g.node? defId = none
  /-- So is the reference. -/
  reference_free : g.node? refId = none
  /-- The reference is there. -/
  reference : g'.node? refId = some (referenceFor n name)
  /-- The other nodes stay, with the reference as the branch that the node was. -/
  kept : ∀ x m, g.node? x = some m → g'.node? x = some { m.mapClauses
    (Clause.bindTargets fun t => some (swapped id refId t)) with
      required := if x = id then false else m.required }
  /-- The definition holds the node. -/
  content : g'.childIds defId = [id]
  /-- The reference is the child that the node was. -/
  childIds : ∀ x, (g.node? x).isSome → g'.childIds x = (g.childIds x).map (swapped id refId)
  /-- The name is added to the definitions. -/
  definitions : g'.definitions = g.definitions.put name defId
  /-- The root stays the root. -/
  rootId : g'.rootId = g.rootId

/-- Edges below a node that can hold children lead to children. -/
theorem SoundBut.child_of_sibling {loose : NodeId → Prop} (hs : SoundBut loose g) {id : NodeId}
    {e f : Edge} (he : e ∈ g.edgesFrom id) (hk : e.kind = .child) (hf : f ∈ g.edgesFrom id) :
    f.kind = .child := by
  obtain ⟨n, hn⟩ := Option.isSome_iff_exists.1 (hs.present (hs.owned he)).2
  have hsource : f.source = e.source := (hs.source_eq hf).trans (hs.source_eq he).symm
  have hholds := hs.fits (hs.owned he) hn
  have hholds' := hs.fits (hs.owned hf) (hsource ▸ hn)
  rw [hk] at hholds
  cases hfk : f.kind with
  | child => rfl
  | thenBranch | elseBranch =>
    rw [hfk] at hholds'
    generalize n.kind = k at hholds hholds'
    cases k <;> simp [isContainer, EdgeKind.isBranch, NodeKind.isGroup] at hholds hholds'

theorem edgesFrom_enclosed (defId id : NodeId) (n : Node NodeId) (name : String) (x : NodeId) :
    (g.enclosed defId id n name).edgesFrom x =
      if defId = x then (g.detach id).edgesFrom defId ++ [⟨defId, id, .child⟩]
      else (g.detach id).edgesFrom x := by
  unfold enclosed
  rw [attachLast_eq, edgesFrom_wire]
  rfl

section Placed

variable {refId id : NodeId} {e : Edge} {es : List Edge}

/-- What else hangs below the parent of a node has another target. -/
theorem Forest.target_ne_of_ne (hf : Forest g) (ho : g.owningEdge id = some e) {f : Edge}
    (hmem : f ∈ g.edgesFrom e.source) (hne : f ≠ e) : f.target ≠ id := by
  obtain ⟨htarget, he⟩ := hf.listed ho
  exact fun heq => hne (hf.edge_unique hmem he (heq.trans htarget.symm))

/-- A child that was taken off and another put at its position, between the same children. -/
theorem childIds_of_placeEdge_child (hs : Sound g) (ho : g.owningEdge id = some e)
    (hk : e.kind = .child)
    (hplace : placeEdge ⟨e.source, refId, e.kind⟩
      (some (((g.childIds e.source).idxOf id : Nat) : Int))
      ((g.edgesFrom e.source).filter fun f => g.owningEdge id ≠ some f) = .ok es) :
    (es.filter fun f => f.kind = .child).map (·.target) =
      (g.childIds e.source).map (swapped id refId) := by
  obtain ⟨htarget, hmem⟩ := hs.listed ho
  obtain ⟨front, back, hsplit⟩ := List.append_of_mem hmem
  have hchild : ∀ f ∈ front ++ e :: back, f.kind = .child := fun f hf =>
    hs.child_of_sibling hmem hk (hsplit ▸ hf)
  have hrest : ∀ f ∈ front ++ back, f ≠ e ∧ f.kind = .child ∧ f.target ≠ id := by
    intro f hf
    have hin : f ∈ front ++ e :: back :=
      List.mem_append.2 ((List.mem_append.1 hf).imp_right (List.mem_cons_of_mem _))
    have hnd := hs.nodup e.source
    rw [hsplit, List.nodup_middle, List.nodup_cons] at hnd
    have hne : f ≠ e := fun heq => hnd.1 (heq ▸ hf)
    exact ⟨hne, hchild f hin, hs.toForest.target_ne_of_ne ho (hsplit ▸ hin) hne⟩
  have hids : g.childIds e.source = front.map (·.target) ++ id :: back.map (·.target) := by
    unfold childIds targetsOfKind edgesOfKind
    rw [hsplit, List.filter_eq_self.2 fun f hf => decide_eq_true (hchild f hf), List.map_append,
      List.map_cons, htarget]
  have hindex : (g.childIds e.source).idxOf id = front.length := by
    rw [hids, List.idxOf_append_of_notMem, List.idxOf_cons_self, Nat.add_zero, List.length_map]
    intro hin
    obtain ⟨f, hf, heq⟩ := List.mem_map.1 hin
    exact (hrest f (List.mem_append_left _ hf)).2.2 heq
  have hothers : ((g.edgesFrom e.source).filter fun f => g.owningEdge id ≠ some f) =
      front ++ back := by
    have hkeep : ∀ fs : List Edge, (∀ f ∈ fs, f ≠ e) →
        (fs.filter fun f => decide (g.owningEdge id ≠ some f)) = fs := fun fs hfs =>
      List.filter_eq_self.2 fun f hf => decide_eq_true fun h =>
        hfs f hf (Option.some.inj (ho.symm.trans h)).symm
    rw [hsplit, List.filter_append, List.filter_cons_of_neg (by simp [ho]),
      hkeep front fun f hf => (hrest f (List.mem_append_left _ hf)).1,
      hkeep back fun f hf => (hrest f (List.mem_append_right _ hf)).1]
  rw [hindex, hothers] at hplace
  obtain rfl := placeEdge_of_children (e := ⟨e.source, refId, e.kind⟩) hk
    (fun f hf => (hrest f hf).2.1) hplace
  have hsame : ∀ fs : List Edge, (∀ f ∈ fs, f ∈ front ++ back) →
      (fs.map (·.target)).map (swapped id refId) = fs.map (·.target) := by
    intro fs hfs
    rw [List.map_map]
    exact List.map_congr_left fun f hf => if_neg (hrest f (hfs f hf)).2.2
  rw [hids, List.map_append, List.map_cons, hsame front fun f hf => List.mem_append_left _ hf,
    hsame back fun f hf => List.mem_append_right _ hf, swapped, if_pos rfl,
    List.filter_eq_self.2, List.map_append, List.map_cons]
  intro f hf
  rcases List.mem_append.1 hf with hf | hf
  · exact decide_eq_true (hrest f (List.mem_append_left _ hf)).2.1
  · rcases List.mem_cons.1 hf with rfl | hf
    · exact decide_eq_true hk
    · exact decide_eq_true (hrest f (List.mem_append_right _ hf)).2.1

/-- A branch that was taken off and another put in its place are no children. -/
theorem childIds_of_placeEdge_branch (hs : Sound g) (ho : g.owningEdge id = some e)
    (hk : e.kind ≠ .child)
    (hplace : placeEdge ⟨e.source, refId, e.kind⟩ none
      ((g.edgesFrom e.source).filter fun f => g.owningEdge id ≠ some f) = .ok es) :
    (es.filter fun f => f.kind = .child).map (·.target) =
      (g.childIds e.source).map (swapped id refId) := by
  obtain rfl := Except.ok.inj hplace
  have hnew : ([⟨e.source, refId, e.kind⟩] : List Edge).filter (fun f => f.kind = .child) = [] := by
    rw [List.filter_cons_of_neg (by simpa using hk), List.filter_nil]
  rw [List.filter_append, hnew, List.append_nil, List.filter_filter]
  have hsame : (g.edgesFrom e.source).filter (fun f => decide (f.kind = .child) &&
      decide (g.owningEdge id ≠ some f)) = g.edgesOfKind e.source .child := by
    refine List.filter_congr fun f _ => ?_
    rw [Bool.and_eq_left_iff_imp, decide_eq_true_eq]
    intro hf
    refine decide_eq_true fun h => hk ?_
    rw [Option.some.inj (ho.symm.trans h)]
    exact hf
  rw [hsame, childIds, targetsOfKind, List.map_map]
  refine List.map_congr_left fun f hf => (if_neg ?_).symm
  rw [edgesOfKind, List.mem_filter, decide_eq_true_eq] at hf
  exact hs.toForest.target_ne_of_ne ho hf.1 fun heq => hk (heq ▸ hf.2)

/-- The children of a node after one of them was taken off and another put in its place. -/
theorem childIds_of_placeEdge (hs : Sound g) (ho : g.owningEdge id = some e)
    (hplace : placeEdge ⟨e.source, refId, e.kind⟩
      (if e.kind = .child then some (((g.childIds e.source).idxOf id : Nat) : Int) else none)
      ((g.edgesFrom e.source).filter fun f => g.owningEdge id ≠ some f) = .ok es) :
    (es.filter fun f => f.kind = .child).map (·.target) =
      (g.childIds e.source).map (swapped id refId) := by
  by_cases hk : e.kind = .child
  · rw [if_pos hk] at hplace
    exact childIds_of_placeEdge_child hs ho hk hplace
  · rw [if_neg hk] at hplace
    exact childIds_of_placeEdge_branch hs ho hk hplace

end Placed

/-- What hangs elsewhere keeps its names. -/
theorem map_swapped_childIds (hf : Forest g) {id new x : NodeId} {e : Edge}
    (ho : g.owningEdge id = some e) (hx : e.source ≠ x) :
    (g.childIds x).map (swapped id new) = g.childIds x := by
  refine (List.map_congr_left fun y hy => if_neg ?_).trans (List.map_id' _)
  rintro rfl
  obtain ⟨f, hmem, rfl, -⟩ := mem_edgesFrom_of_mem_childIds hy
  have hsame := (hf.owned hmem).symm.trans ho
  exact hx (Option.some.inj hsame ▸ hf.source_eq hmem)

/-- Where a node was taken off its place and another put there, the other is the child that the node
was. -/
theorem childIds_of_replaced (hs : Sound g) {g' w : Graph} {id new x : NodeId} {e : Edge}
    {es : List Edge} (ho : g.owningEdge id = some e)
    (hplace : placeEdge ⟨e.source, new, e.kind⟩
      (if e.kind = .child then some (((g.childIds e.source).idxOf id : Nat) : Int) else none)
      (w.edgesFrom e.source) = .ok es)
    (hw : w.edgesFrom x = (g.detach id).edgesFrom x)
    (hedges : g'.edgesFrom x = if e.source = x then es else w.edgesFrom x) :
    g'.childIds x = (g.childIds x).map (swapped id new) := by
  rw [hw, edgesFrom_detach_of_owned ho] at hedges
  by_cases hsource : e.source = x
  · subst hsource
    rw [hw, edgesFrom_detach_of_owned ho, if_pos rfl] at hplace
    rw [← childIds_of_placeEdge hs ho hplace]
    unfold childIds targetsOfKind edgesOfKind
    rw [hedges, if_pos rfl]
  · rw [if_neg hsource, if_neg hsource] at hedges
    rw [map_swapped_childIds hs.toForest ho hsource, childIds_congr hedges]

/-! ## Clauses that name what replaces a branch -/

/-- The graph in which, where `e` led to a branch, the clauses above name `new` instead of `old`. -/
def rehung (g : Graph) (e : Edge) (old new : NodeId) : Graph :=
  if e.kind.isBranch then g.retarget e.source old (some new) else g

theorem node?_rehung (g : Graph) (e : Edge) (old new x : NodeId) :
    (g.rehung e old new).node? x = if e.kind.isBranch = true ∧ e.source = x then
      (g.node? x).map fun m => retargeted m old (some new) else g.node? x := by
  unfold rehung
  by_cases hk : e.kind.isBranch = true
  · rw [if_pos hk, node?_retarget]
    simp only [hk, true_and]
  · rw [if_neg hk, if_neg fun h => hk h.1]

theorem edgesFrom_rehung (g : Graph) (e : Edge) (old new x : NodeId) :
    (g.rehung e old new).edgesFrom x = g.edgesFrom x := by
  unfold rehung
  split
  · rw [edgesFrom_retarget]
  · rfl

theorem definitions_rehung (g : Graph) (e : Edge) (old new : NodeId) :
    (g.rehung e old new).definitions = g.definitions := by
  unfold rehung
  split
  · rw [definitions_retarget]
  · rfl

theorem rootId_rehung (g : Graph) (e : Edge) (old new : NodeId) :
    (g.rehung e old new).rootId = g.rootId := by
  unfold rehung
  split
  · rw [rootId_retarget]
  · rfl

/-- The clauses name what replaces a branch where they named the branch. -/
theorem retargeted_eq (m : Node NodeId) (old new : NodeId) : retargeted m old (some new) =
    m.mapClauses (Clause.bindTargets fun t => some (swapped old new t)) := by
  refine (Node.setClauses_map m _).trans (Node.bindTargets_congr fun c _ k t _ => ?_)
  unfold swapped
  split <;> rfl

/-- Where a node that is replaced was a branch, the clauses of the group above name what replaces it;
no other clause named it. -/
theorem Attached.rehung {suits : EdgeKind → EdgeKind → Prop} (ha : Attached suits g)
    {old new x : NodeId} {e : Edge} {m : Node NodeId} (ho : g.owningEdge old = some e)
    (hm : g.node? x = some m) :
    (if e.kind.isBranch = true ∧ e.source = x then retargeted m old (some new) else m) =
      m.mapClauses (Clause.bindTargets fun t => some (swapped old new t)) := by
  split
  · exact retargeted_eq m old new
  · next hnot =>
    refine (Node.mapClauses_bindTargets_some m).symm.trans (Node.bindTargets_congr ?_)
    intro c hc k t ht
    refine congrArg some (if_neg ?_).symm
    rintro rfl
    obtain ⟨hsource, -, hbranch⟩ := ha.source_eq ⟨c, clausesAt_of_node? hm ▸ hc, ht⟩ ho
    exact hnot ⟨hbranch, hsource⟩

namespace ReferenceInPlace

variable {defId refId id : NodeId} {name : String} {x : NodeId}

theorem eq_rehung (i : ReferenceInPlace g defId refId id name g') :
    g' = (i.wired.rehung i.edge id refId).next :=
  i.eq_wired

theorem edgesFrom_eq (i : ReferenceInPlace g defId refId id name g') (x : NodeId) :
    g'.edgesFrom x = if i.edge.source = x then i.es
      else (g.enclosed defId id i.node name).edgesFrom x := by
  refine (congrArg (fun h => h.edgesFrom x) i.eq_rehung).trans ?_
  rw [edgesFrom_next, edgesFrom_rehung, wired, edgesFrom_wire, edgesFrom_putNode]

/-- What was there stays, with the reference as the branch that the node was. -/
theorem node?_kept (i : ReferenceInPlace g defId refId id name g') (hs : Sound g)
    {suits : EdgeKind → EdgeKind → Prop} (ha : Attached suits g) (hdef : x ≠ defId)
    (href : x ≠ refId) {m : Node NodeId} (hm : g.node? x = some m) :
    g'.node? x = some { m.mapClauses (Clause.bindTargets fun t => some (swapped id refId t)) with
      required := if x = id then false else m.required } := by
  have hstays : i.wired.node? x = some { m with
      required := if x = id then false else m.required } := by
    rw [i.node?_wired, if_neg (Ne.symm href), if_neg (Ne.symm hdef), hm]
    by_cases hx : x = id
    · subst hx
      rw [if_pos rfl, if_pos rfl, Option.some.inj (i.node_eq.symm.trans hm)]
    · rw [if_neg (Ne.symm hx), if_neg hx]
  refine (congrArg (fun h => h.node? x) i.eq_rehung).trans ?_
  rw [node?_next, node?_rehung, hstays, ← ha.rehung i.owner hm]
  by_cases hbranch : i.edge.kind.isBranch = true ∧ i.edge.source = x
  · have hx : x ≠ id := fun h => hs.parent_ne i.owner (hbranch.2.trans h)
    simp only [if_pos hbranch, if_neg hx, Option.map_some, retargeted_eq]
    rfl
  · rw [if_neg hbranch, if_neg hbranch]

/-- The reference is the child that the node was. -/
theorem childIds_kept (i : ReferenceInPlace g defId refId id name g') (hs : Sound g)
    (hdef : x ≠ defId) :
    g'.childIds x = (g.childIds x).map (swapped id refId) :=
  childIds_of_replaced hs i.owner i.placed
    (by rw [edgesFrom_enclosed, if_neg (Ne.symm hdef)]) (i.edgesFrom_eq x)

/-- The definition holds the node. -/
theorem childIds_definition (i : ReferenceInPlace g defId refId id name g') (hs : Sound g)
    (hdefId : g.node? defId = none) : g'.childIds defId = [id] := by
  unfold Graph.childIds targetsOfKind edgesOfKind
  rw [i.edgesFrom_eq, if_neg (i.source_ne_of_free hs.toForest hdefId), edgesFrom_enclosed,
    if_pos rfl, edgesFrom_detach, hs.edgesFrom_eq_nil hdefId]
  simp

theorem parent_kind (i : ReferenceInPlace g defId refId id name g') (hs : Sound g) :
    g.kind? i.edge.source ≠ some .definition := by
  obtain ⟨parent, hparent⟩ := Option.isSome_iff_exists.1 (hs.present i.owner).2
  have hnot := i.parent_not_definition
  unfold isDefinition at hnot
  rw [hparent] at hnot
  intro hk
  rw [g.kind?_of_node? hparent] at hk
  simp [Option.some.inj hk] at hnot

theorem promoted (i : ReferenceInPlace g defId refId id name g') (hs : Sound g)
    {suits : EdgeKind → EdgeKind → Prop} (ha : Attached suits g)
    (hdefId : g.node? defId = none) (hrefId : g.node? refId = none) :
    Promoted g g' defId refId id name i.node i.edge where
  node := i.node_eq
  owner := i.owner
  parent_kind := i.parent_kind hs
  not_group := i.not_group
  name_free := i.name_free
  definition_free := hdefId
  reference_free := hrefId
  reference := by
    have hsource := i.source_ne_of_free hs.toForest hrefId
    refine (congrArg (fun h => h.node? refId) i.eq_rehung).trans ?_
    rw [node?_next, node?_rehung, if_neg fun h => hsource h.2, i.node?_wired, if_pos rfl]
  kept x m hm := i.node?_kept hs ha (by rintro rfl; simp [hdefId] at hm)
    (by rintro rfl; simp [hrefId] at hm) hm
  content := i.childIds_definition hs hdefId
  childIds x hx := i.childIds_kept hs (by rintro rfl; simp [hdefId] at hx)
  definitions := by
    refine (congrArg Graph.definitions i.eq_rehung).trans ?_
    rw [definitions_next, definitions_rehung, i.definitions_wired]
  rootId := by
    refine (congrArg Graph.rootId i.eq_rehung).trans ?_
    rw [rootId_next, rootId_rehung, i.rootId_wired]

end ReferenceInPlace

/-- Putting the node under a definition, with a reference in its place, leaves all else. -/
theorem promoted_of_promoteAs (hs : Sound g) {suits : EdgeKind → EdgeKind → Prop}
    (ha : Attached suits g) {defId refId id : NodeId} {name : String}
    (hdefId : g.node? defId = none) (hrefId : g.node? refId = none)
    (h : g.promoteAs defId refId id name = .ok g') :
    ∃ n e, Promoted g g' defId refId id name n e :=
  (promoteAs_ok h).elim fun i => ⟨_, _, i.promoted hs ha hdefId hrefId⟩

end Graph

end FormGraph

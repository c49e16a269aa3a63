import FormGraph.Edit.Clause
import FormGraph.Edit.Definition
import FormGraph.Proofs.Outcome
import FormGraph.Proofs.Tables

/-!
# What the steps of an edit do to a graph

A graph is looked at in four ways: the node of a name (`node?`), the edges below a node
(`edgesFrom`), the edge that owns a node (`owningEdge`) and the table of definitions. For every step
of `Graph.Wiring` there is one lemma for each of the four; later proofs use these and never open a
step again.
-/

namespace FormGraph

namespace Graph

variable (g : Graph)

/-! ## Putting a node -/

theorem node?_putNode (id : NodeId) (n : Node NodeId) (x : NodeId) :
    (g.putNode id n).node? x = if id = x then some n else g.node? x :=
  Table.find?_put g.nodes id n x

@[simp] theorem node?_putNode_self (id : NodeId) (n : Node NodeId) :
    (g.putNode id n).node? id = some n := by
  simp [node?_putNode]

/-- Putting the node that is there changes nothing. -/
theorem putNode_of_node? {g : Graph} {id : NodeId} {n : Node NodeId} (h : g.node? id = some n) :
    g.putNode id n = g := by
  have hnodes : g.nodes.put id n = g.nodes := Table.ext (Entries.put_of_find? h)
  rw [putNode, hnodes]

@[simp] theorem edgesFrom_putNode (id : NodeId) (n : Node NodeId) (x : NodeId) :
    (g.putNode id n).edgesFrom x = g.edgesFrom x := rfl

@[simp] theorem owningEdge_putNode (id : NodeId) (n : Node NodeId) (x : NodeId) :
    (g.putNode id n).owningEdge x = g.owningEdge x := rfl

@[simp] theorem definitions_putNode (id : NodeId) (n : Node NodeId) :
    (g.putNode id n).definitions = g.definitions := rfl

@[simp] theorem rootId_putNode (id : NodeId) (n : Node NodeId) :
    (g.putNode id n).rootId = g.rootId := rfl

/-! ## Replacing the edges below a node -/

@[simp] theorem node?_setEdges (id : NodeId) (es : List Edge) (x : NodeId) :
    (g.setEdges id es).node? x = g.node? x := rfl

theorem edgesFrom_setEdges (id : NodeId) (es : List Edge) (x : NodeId) :
    (g.setEdges id es).edgesFrom x = if id = x then es else g.edgesFrom x := by
  rw [edgesFrom, setEdges, Table.find?_put]
  by_cases h : id = x <;> simp [h, edgesFrom]

@[simp] theorem owningEdge_setEdges (id : NodeId) (es : List Edge) (x : NodeId) :
    (g.setEdges id es).owningEdge x = g.owningEdge x := rfl

@[simp] theorem definitions_setEdges (id : NodeId) (es : List Edge) :
    (g.setEdges id es).definitions = g.definitions := rfl

@[simp] theorem rootId_setEdges (id : NodeId) (es : List Edge) :
    (g.setEdges id es).rootId = g.rootId := rfl

/-! ## Hanging a node below another -/

/-- The graph with one more edge, placed as `es` says among the edges below its source. -/
def wire (e : Edge) (es : List Edge) : Graph :=
  { g.setEdges e.source es with owners := g.owners.put e.target e }

@[simp] theorem node?_wire (e : Edge) (es : List Edge) (x : NodeId) :
    (g.wire e es).node? x = g.node? x := rfl

theorem edgesFrom_wire (e : Edge) (es : List Edge) (x : NodeId) :
    (g.wire e es).edgesFrom x = if e.source = x then es else g.edgesFrom x :=
  edgesFrom_setEdges g e.source es x

theorem owningEdge_wire (e : Edge) (es : List Edge) (x : NodeId) :
    (g.wire e es).owningEdge x = if e.target = x then some e else g.owningEdge x :=
  Table.find?_put g.owners e.target e x

@[simp] theorem definitions_wire (e : Edge) (es : List Edge) :
    (g.wire e es).definitions = g.definitions := rfl

@[simp] theorem rootId_wire (e : Edge) (es : List Edge) : (g.wire e es).rootId = g.rootId := rfl

theorem attachLast_eq (source target : NodeId) (kind : EdgeKind) :
    g.attachLast source target kind =
      g.wire ⟨source, target, kind⟩ (g.edgesFrom source ++ [⟨source, target, kind⟩]) := rfl

theorem attach_eq_ok_iff {source target : NodeId} {kind : EdgeKind} {index : Option Int}
    {g' : Graph} :
    g.attach source target kind index = .ok g' ↔
      ∃ es, placeEdge ⟨source, target, kind⟩ index (g.edgesFrom source) = .ok es ∧
        g' = g.wire ⟨source, target, kind⟩ es := by
  unfold attach
  simp only [bind_eq_ok_iff, pure_eq_ok_iff]
  constructor
  · rintro ⟨es, hes, rfl⟩
    exact ⟨es, hes, rfl⟩
  · rintro ⟨es, hes, rfl⟩
    exact ⟨es, hes, rfl⟩

/-- Inserting an edge splits the others in two. -/
theorem insertAtChild_split (e : Edge) (i : Nat) (es : List Edge) :
    ∃ front back, es = front ++ back ∧ insertAtChild e i es = front ++ e :: back := by
  induction es generalizing i with
  | nil => exact ⟨[], [], rfl, by cases i <;> rfl⟩
  | cons f fs ih =>
    cases i with
    | zero =>
      by_cases hf : f.kind = .child
      · exact ⟨[], f :: fs, rfl, by simp [insertAtChild, hf]⟩
      · obtain ⟨front, back, hsplit, hins⟩ := ih 0
        exact ⟨f :: front, back, by simp [hsplit], by simp [insertAtChild, hf, hins]⟩
    | succ i =>
      by_cases hf : f.kind = .child
      · obtain ⟨front, back, hsplit, hins⟩ := ih i
        exact ⟨f :: front, back, by simp [hsplit], by simp [insertAtChild, hf, hins]⟩
      · obtain ⟨front, back, hsplit, hins⟩ := ih (i + 1)
        exact ⟨f :: front, back, by simp [hsplit], by simp [insertAtChild, hf, hins]⟩

/-- Wherever an edge is placed, the others keep their order. -/
theorem placeEdge_split {e : Edge} {index : Option Int} {es fs : List Edge}
    (h : placeEdge e index es = .ok fs) :
    ∃ front back, es = front ++ back ∧ fs = front ++ e :: back := by
  unfold placeEdge at h
  have hlast : ∃ front back, es = front ++ back ∧ es ++ [e] = front ++ e :: back :=
    ⟨es, [], by simp, rfl⟩
  cases index with
  | none =>
    cases h
    exact hlast
  | some i =>
    dsimp only at h
    split_ifs at h
    · cases h
      exact hlast
    · cases h
      exact hlast
    · simp [breakDown] at h
    · cases h
      exact insertAtChild_split e i.toNat es

/-! ## Taking a node off -/

@[simp] theorem node?_detach (id x : NodeId) : (g.detach id).node? x = g.node? x := by
  unfold detach
  split <;> rfl

theorem edgesFrom_detach (id x : NodeId) :
    (g.detach id).edgesFrom x =
      if g.parentId id = some x then
        (g.edgesFrom x).filter fun f => g.owningEdge id ≠ some f
      else g.edgesFrom x := by
  unfold detach
  split
  · next h => simp [parentId, h]
  · next e h =>
    show (g.setEdges e.source _).edgesFrom x = _
    rw [edgesFrom_setEdges]
    by_cases hx : e.source = x
    · subst hx
      simp [parentId, h, eq_comm]
    · simp [parentId, h, hx]

/-- Only the node above loses an edge. -/
theorem edgesFrom_detach_of_owned {g : Graph} {id : NodeId} {e : Edge}
    (ho : g.owningEdge id = some e) (x : NodeId) : (g.detach id).edgesFrom x =
      if e.source = x then (g.edgesFrom x).filter fun f => g.owningEdge id ≠ some f
      else g.edgesFrom x := by
  rw [edgesFrom_detach, parentId, ho, Option.map_some]
  simp only [Option.some.injEq]

theorem owningEdge_detach (id x : NodeId) :
    (g.detach id).owningEdge x = if id = x then none else g.owningEdge x := by
  unfold detach
  split
  · next h =>
    by_cases hx : id = x
    · subst hx
      simp [h]
    · simp [hx]
  · exact Table.find?_erase g.owners id x

@[simp] theorem definitions_detach (id : NodeId) :
    (g.detach id).definitions = g.definitions := by
  unfold detach
  split <;> rfl

@[simp] theorem rootId_detach (id : NodeId) : (g.detach id).rootId = g.rootId := by
  unfold detach
  split <;> rfl

/-! ## Forgetting nodes -/

theorem node?_drop (id x : NodeId) :
    (g.drop id).node? x = if id = x then none else g.node? x :=
  Table.find?_erase g.nodes id x

theorem edgesFrom_drop (id x : NodeId) :
    (g.drop id).edgesFrom x = if id = x then [] else g.edgesFrom x := by
  rw [edgesFrom, drop, Table.find?_erase]
  by_cases h : id = x <;> simp [h, edgesFrom]

theorem owningEdge_drop (id x : NodeId) :
    (g.drop id).owningEdge x = if id = x then none else g.owningEdge x :=
  Table.find?_erase g.owners id x

@[simp] theorem definitions_drop (id : NodeId) : (g.drop id).definitions = g.definitions := rfl

@[simp] theorem rootId_drop (id : NodeId) : (g.drop id).rootId = g.rootId := rfl

theorem node?_dropAll (ids : List NodeId) (x : NodeId) :
    (g.dropAll ids).node? x = if x ∈ ids then none else g.node? x := by
  induction ids generalizing g with
  | nil => simp [dropAll]
  | cons id ids ih =>
    show ((g.drop id).dropAll ids).node? x = _
    rw [ih, node?_drop]
    by_cases h : id = x <;> by_cases hm : x ∈ ids <;> simp [h, hm]
    simp [Ne.symm h]

theorem edgesFrom_dropAll (ids : List NodeId) (x : NodeId) :
    (g.dropAll ids).edgesFrom x = if x ∈ ids then [] else g.edgesFrom x := by
  induction ids generalizing g with
  | nil => simp [dropAll]
  | cons id ids ih =>
    show ((g.drop id).dropAll ids).edgesFrom x = _
    rw [ih, edgesFrom_drop]
    by_cases h : id = x <;> by_cases hm : x ∈ ids <;> simp [h, hm]
    simp [Ne.symm h]

theorem owningEdge_dropAll (ids : List NodeId) (x : NodeId) :
    (g.dropAll ids).owningEdge x = if x ∈ ids then none else g.owningEdge x := by
  induction ids generalizing g with
  | nil => simp [dropAll]
  | cons id ids ih =>
    show ((g.drop id).dropAll ids).owningEdge x = _
    rw [ih, owningEdge_drop]
    by_cases h : id = x <;> by_cases hm : x ∈ ids <;> simp [h, hm]
    simp [Ne.symm h]

@[simp] theorem definitions_dropAll (ids : List NodeId) :
    (g.dropAll ids).definitions = g.definitions := by
  induction ids generalizing g with
  | nil => rfl
  | cons id ids ih => exact ih (g.drop id)

@[simp] theorem rootId_dropAll (ids : List NodeId) : (g.dropAll ids).rootId = g.rootId := by
  induction ids generalizing g with
  | nil => rfl
  | cons id ids ih => exact ih (g.drop id)

/-! ## Pointing clauses elsewhere -/

/-- The node with the branches of its clauses that are `old` turned into `new`. -/
def retargeted (n : Node NodeId) (old : NodeId) (new : Option NodeId) : Node NodeId :=
  n.setClauses (n.clauses.map (Clause.bindTargets fun t => if t = old then new else some t))

theorem node?_retarget (groupId old : NodeId) (new : Option NodeId) (x : NodeId) :
    (g.retarget groupId old new).node? x =
      if groupId = x then (g.node? x).map fun n => retargeted n old new else g.node? x := by
  unfold retarget
  split
  · next h =>
    by_cases hx : groupId = x
    · subst hx
      simp [h]
    · simp [hx]
  · next n h =>
    rw [node?_putNode]
    by_cases hx : groupId = x
    · subst hx
      simp [h, retargeted]
    · simp [hx]

@[simp] theorem edgesFrom_retarget (groupId old : NodeId) (new : Option NodeId) (x : NodeId) :
    (g.retarget groupId old new).edgesFrom x = g.edgesFrom x := by
  unfold retarget
  split <;> rfl

@[simp] theorem owningEdge_retarget (groupId old : NodeId) (new : Option NodeId) (x : NodeId) :
    (g.retarget groupId old new).owningEdge x = g.owningEdge x := by
  unfold retarget
  split <;> rfl

@[simp] theorem definitions_retarget (groupId old : NodeId) (new : Option NodeId) :
    (g.retarget groupId old new).definitions = g.definitions := by
  unfold retarget
  split <;> rfl

@[simp] theorem rootId_retarget (groupId old : NodeId) (new : Option NodeId) :
    (g.retarget groupId old new).rootId = g.rootId := by
  unfold retarget
  split <;> rfl

theorem node?_releaseBranch (e : Option Edge) (x : NodeId) :
    (g.releaseBranch e).node? x =
      match e with
      | none => g.node? x
      | some f =>
        if f.kind.isBranch = true ∧ f.source = x then
          (g.node? x).map fun n => retargeted n f.target none
        else g.node? x := by
  cases e with
  | none => rfl
  | some f =>
    unfold releaseBranch
    by_cases hk : f.kind.isBranch = true
    · simp only [hk, if_true, true_and]
      exact node?_retarget g f.source f.target none x
    · simp only [hk, Bool.false_eq_true, if_false, false_and]

@[simp] theorem edgesFrom_releaseBranch (e : Option Edge) (x : NodeId) :
    (g.releaseBranch e).edgesFrom x = g.edgesFrom x := by
  cases e with
  | none => rfl
  | some e =>
    unfold releaseBranch
    dsimp only
    split
    · exact edgesFrom_retarget g e.source e.target none x
    · rfl

@[simp] theorem owningEdge_releaseBranch (e : Option Edge) (x : NodeId) :
    (g.releaseBranch e).owningEdge x = g.owningEdge x := by
  cases e with
  | none => rfl
  | some e =>
    unfold releaseBranch
    dsimp only
    split
    · exact owningEdge_retarget g e.source e.target none x
    · rfl

@[simp] theorem definitions_releaseBranch (e : Option Edge) :
    (g.releaseBranch e).definitions = g.definitions := by
  cases e with
  | none => rfl
  | some e =>
    unfold releaseBranch
    dsimp only
    split
    · exact definitions_retarget g e.source e.target none
    · rfl

@[simp] theorem rootId_releaseBranch (e : Option Edge) :
    (g.releaseBranch e).rootId = g.rootId := by
  cases e with
  | none => rfl
  | some e =>
    unfold releaseBranch
    dsimp only
    split
    · exact rootId_retarget g e.source e.target none
    · rfl

/-! ## Kinds -/

/-- The kind of the node of that name. -/
def kind? (id : NodeId) : Option NodeKind := (g.node? id).map Node.kind

theorem kind?_eq_some_iff {id : NodeId} {k : NodeKind} :
    g.kind? id = some k ↔ ∃ n, g.node? id = some n ∧ n.kind = k := by
  rw [kind?, Option.map_eq_some_iff]

theorem isSome_kind? (id : NodeId) : (g.kind? id).isSome = (g.node? id).isSome := by
  rw [kind?, Option.isSome_map]

theorem kind?_eq_none_iff {g : Graph} {id : NodeId} : g.kind? id = none ↔ g.node? id = none := by
  rw [kind?, Option.map_eq_none_iff]

theorem present_of_kind? {g : Graph} {id : NodeId} {k : NodeKind} (h : g.kind? id = some k) :
    (g.node? id).isSome := by
  rw [← isSome_kind?, h]
  rfl

theorem kind?_of_node? {id : NodeId} {n : Node NodeId} (h : g.node? id = some n) :
    g.kind? id = some n.kind := by
  rw [kind?, h, Option.map_some]

theorem kind?_putNode (id : NodeId) (n : Node NodeId) (x : NodeId) :
    (g.putNode id n).kind? x = if id = x then some n.kind else g.kind? x := by
  rw [kind?, node?_putNode]
  split <;> rfl

@[simp] theorem kind?_setEdges (id : NodeId) (es : List Edge) (x : NodeId) :
    (g.setEdges id es).kind? x = g.kind? x := rfl

@[simp] theorem kind?_wire (e : Edge) (es : List Edge) (x : NodeId) :
    (g.wire e es).kind? x = g.kind? x := rfl

@[simp] theorem kind?_detach (id x : NodeId) : (g.detach id).kind? x = g.kind? x := by
  rw [kind?, node?_detach, kind?]

theorem kind?_dropAll (ids : List NodeId) (x : NodeId) :
    (g.dropAll ids).kind? x = if x ∈ ids then none else g.kind? x := by
  rw [kind?, node?_dropAll]
  split <;> rfl

@[simp] theorem kind?_retarget (groupId old : NodeId) (new : Option NodeId) (x : NodeId) :
    (g.retarget groupId old new).kind? x = g.kind? x := by
  rw [kind?, kind?, node?_retarget]
  split
  · rw [Option.map_map]
    congr 1
    funext n
    exact Node.kind_setClauses n _
  · rfl

@[simp] theorem kind?_releaseBranch (e : Option Edge) (x : NodeId) :
    (g.releaseBranch e).kind? x = g.kind? x := by
  cases e with
  | none => rfl
  | some e =>
    unfold releaseBranch
    dsimp only
    split
    · exact kind?_retarget g e.source e.target none x
    · rfl

/-- The graph in which the node was taken off and no clause names it any more. -/
def freed (g : Graph) (id : NodeId) : Graph := (g.detach id).releaseBranch (g.owningEdge id)

@[simp] theorem edgesFrom_freed (id x : NodeId) :
    (g.freed id).edgesFrom x = (g.detach id).edgesFrom x :=
  edgesFrom_releaseBranch _ _ x

theorem owningEdge_freed (id x : NodeId) :
    (g.freed id).owningEdge x = if id = x then none else g.owningEdge x := by
  rw [freed, owningEdge_releaseBranch, owningEdge_detach]

@[simp] theorem kind?_freed (id x : NodeId) : (g.freed id).kind? x = g.kind? x := by
  rw [freed, kind?_releaseBranch, kind?_detach]

@[simp] theorem definitions_freed (id : NodeId) : (g.freed id).definitions = g.definitions := by
  rw [freed, definitions_releaseBranch, definitions_detach]

@[simp] theorem rootId_freed (id : NodeId) : (g.freed id).rootId = g.rootId := by
  rw [freed, rootId_releaseBranch, rootId_detach]

theorem removeSubtree_eq (old : Graph) (id : NodeId) :
    g.removeSubtree old id = (g.freed id).dropAll (old.subtreeIds id) := rfl

theorem kind?_removeSubtree (old : Graph) (id x : NodeId) :
    (g.removeSubtree old id).kind? x = if x ∈ old.subtreeIds id then none else g.kind? x := by
  rw [removeSubtree_eq, kind?_dropAll, kind?_freed]

theorem owningEdge_removeSubtree (old : Graph) (id x : NodeId) :
    (g.removeSubtree old id).owningEdge x =
      if x ∈ old.subtreeIds id then none else if id = x then none else g.owningEdge x := by
  rw [removeSubtree_eq, owningEdge_dropAll, owningEdge_freed]

@[simp] theorem definitions_removeSubtree (old : Graph) (id : NodeId) :
    (g.removeSubtree old id).definitions = g.definitions := by
  rw [removeSubtree_eq, definitions_dropAll, definitions_freed]

@[simp] theorem rootId_removeSubtree (old : Graph) (id : NodeId) :
    (g.removeSubtree old id).rootId = g.rootId := by
  rw [removeSubtree_eq, rootId_dropAll, rootId_freed]

@[simp] theorem kind?_define (name : String) (id x : NodeId) :
    (g.define name id).kind? x = g.kind? x := rfl

@[simp] theorem kind?_undefine (name : String) (x : NodeId) :
    (g.undefine name).kind? x = g.kind? x := rfl

@[simp] theorem kind?_next (x : NodeId) : g.next.kind? x = g.kind? x := rfl

/-! ## Definitions and the version -/

@[simp] theorem node?_define (name : String) (id x : NodeId) :
    (g.define name id).node? x = g.node? x := rfl

@[simp] theorem edgesFrom_define (name : String) (id x : NodeId) :
    (g.define name id).edgesFrom x = g.edgesFrom x := rfl

@[simp] theorem owningEdge_define (name : String) (id x : NodeId) :
    (g.define name id).owningEdge x = g.owningEdge x := rfl

@[simp] theorem rootId_define (name : String) (id : NodeId) :
    (g.define name id).rootId = g.rootId := rfl

theorem find?_define (name : String) (id : NodeId) (other : String) :
    (g.define name id).definitions.find? other =
      if name = other then some id else g.definitions.find? other :=
  Table.find?_put g.definitions name id other

@[simp] theorem node?_undefine (name : String) (x : NodeId) :
    (g.undefine name).node? x = g.node? x := rfl

@[simp] theorem edgesFrom_undefine (name : String) (x : NodeId) :
    (g.undefine name).edgesFrom x = g.edgesFrom x := rfl

@[simp] theorem owningEdge_undefine (name : String) (x : NodeId) :
    (g.undefine name).owningEdge x = g.owningEdge x := rfl

@[simp] theorem rootId_undefine (name : String) : (g.undefine name).rootId = g.rootId := rfl

theorem find?_undefine (name other : String) :
    (g.undefine name).definitions.find? other =
      if name = other then none else g.definitions.find? other :=
  Table.find?_erase g.definitions name other

@[simp] theorem node?_next (x : NodeId) : g.next.node? x = g.node? x := rfl

@[simp] theorem edgesFrom_next (x : NodeId) : g.next.edgesFrom x = g.edgesFrom x := rfl

@[simp] theorem owningEdge_next (x : NodeId) : g.next.owningEdge x = g.owningEdge x := rfl

@[simp] theorem definitions_next : g.next.definitions = g.definitions := rfl

@[simp] theorem rootId_next : g.next.rootId = g.rootId := rfl

/-! ## Children -/

variable {g} {g' : Graph} {x : NodeId}

/-- The children of a node are the ends of edges below it. -/
theorem childIds_congr (h : g'.edgesFrom x = g.edgesFrom x) : g'.childIds x = g.childIds x := by
  unfold childIds targetsOfKind edgesOfKind
  rw [h]

theorem mem_edgesFrom_of_mem_childIds {c : NodeId} (h : c ∈ g.childIds x) :
    ∃ e ∈ g.edgesFrom x, e.target = c ∧ e.kind = .child := by
  obtain ⟨e, he, rfl⟩ := List.mem_map.1 h
  rw [edgesOfKind, List.mem_filter, decide_eq_true_eq] at he
  exact ⟨e, he.1, rfl, he.2⟩

end Graph

end FormGraph

import FormGraph.Edit.Placement
import FormGraph.Proofs.Moving.Steps
import Mathlib.Data.List.InsertIdx
import Mathlib.Data.List.Nodup

/-!
# Placing children

The edges below a node are children and branches in one list, and a position counts the children only.
The two ways to get to a position, placing an edge in that list (`placeEdge`) and putting a member of a
list in order (`moveInList`), come to the same: among the children, the insertion at the position that
the given number is clamped to.

So adding a node, creating a group, moving a node and putting one in order all come to the same: the
node is inserted among the other children at the clamped position, and the children of no other node
change but for the node that leaves (`Placed`). A place that takes the node takes it at every position,
with one exception: adding and moving are refused a negative position where there are no other
children, while putting in order is not (`positions_of_reachable`).
-/

namespace FormGraph

namespace Graph

/-- The position among `count` others that a number stands for: what is negative is the first, what is
too large is the last. -/
def clamped (index : Int) (count : Nat) : Nat := (min (max index 0) count).toNat

theorem clamped_le (index : Int) (count : Nat) : clamped index count ≤ count := by
  unfold clamped
  omega

/-- The edges among these that lead to children. -/
def childEdges (es : List Edge) : List Edge := es.filter fun f => f.kind = .child

variable {e : Edge} {es fs : List Edge} {index : Int}

/-- Edges before the position that are no children are not counted. -/
theorem childEdges_insertAtChild (he : e.kind = .child) (es : List Edge) :
    ∀ {i : Nat}, i ≤ (childEdges es).length →
      childEdges (insertAtChild e i es) = (childEdges es).insertIdx i e := by
  unfold childEdges
  induction es with
  | nil =>
    intro i hi
    obtain rfl : i = 0 := Nat.le_zero.1 hi
    simp [insertAtChild, he]
  | cons f fs ih =>
    intro i hi
    by_cases hf : f.kind = .child
    · rw [List.filter_cons_of_pos (by simpa using hf)] at hi ⊢
      cases i with
      | zero => simp [insertAtChild, hf, he]
      | succ i =>
        simp only [insertAtChild, hf, if_true]
        rw [List.filter_cons_of_pos (by simpa using hf), List.insertIdx_succ_cons,
          ih (Nat.le_of_succ_le_succ hi)]
    · rw [List.filter_cons_of_neg (by simpa using hf)] at hi ⊢
      rw [← ih hi]
      cases i <;> simp [insertAtChild, hf]

/-- A child edge is placed unless it is to go in front of the first child where there is none. -/
theorem exists_placeEdge_iff (he : e.kind = .child) :
    (∃ fs, placeEdge e (some index) es = .ok fs) ↔ 0 ≤ index ∨ childEdges es ≠ [] := by
  unfold placeEdge
  simp only [he, not_true, if_false, ne_eq]
  change (∃ fs, (if ((childEdges es).length : Int) ≤ index then _ else
    if (childEdges es).length = 0 then _ else _) = _) ↔ _
  split_ifs with hlast hnone
  · have hpos : 0 ≤ index := by omega
    simp [hpos]
  · have hneg : ¬ 0 ≤ index := by omega
    simp [breakDown, List.length_eq_zero_iff.1 hnone, hneg]
  · have hne : childEdges es ≠ [] := fun hnil => hnone (by rw [hnil]; rfl)
    simp [hne]

/-- A child edge that is placed stands among the children at the clamped position. -/
theorem childEdges_placeEdge (he : e.kind = .child) (h : placeEdge e (some index) es = .ok fs) :
    childEdges fs = (childEdges es).insertIdx (clamped index (childEdges es).length) e := by
  unfold placeEdge at h
  simp only [he, not_true, if_false, ne_eq] at h
  change (if ((childEdges es).length : Int) ≤ index then _ else
    if (childEdges es).length = 0 then _ else _) = _ at h
  split_ifs at h with hlast
  · obtain rfl := Except.ok.inj h
    have hpos : clamped index (childEdges es).length = (childEdges es).length := by
      unfold clamped
      omega
    rw [hpos, List.insertIdx_length_self, childEdges, List.filter_append]
    simp [he, childEdges]
  · simp [breakDown] at h
  · obtain rfl := Except.ok.inj h
    have hpos : clamped index (childEdges es).length = index.toNat := by
      unfold clamped
      omega
    rw [hpos]
    exact childEdges_insertAtChild he es (by omega)

section Lists

variable {α : Type} [DecidableEq α] {a : α} {as : List α}

omit [DecidableEq α] in
theorem take_cons_drop_eq_insertIdx (as : List α) (a : α) :
    ∀ {i : Nat}, i ≤ as.length → as.take i ++ a :: as.drop i = as.insertIdx i a := by
  induction as with
  | nil =>
    intro i hi
    obtain rfl : i = 0 := Nat.le_zero.1 hi
    rfl
  | cons b as ih =>
    intro i hi
    cases i with
    | zero => rfl
    | succ i =>
      rw [List.take_succ_cons, List.drop_succ_cons, List.insertIdx_succ_cons, List.cons_append,
        ih (Nat.le_of_succ_le_succ hi)]

/-- Putting a member of a list in order is inserting it among the others. -/
theorem moveInList_eq_insertIdx {position : Nat}
    (h : position ≤ (as.filter fun b => b ≠ a).length) :
    moveInList a position as = (as.filter fun b => b ≠ a).insertIdx position a :=
  take_cons_drop_eq_insertIdx _ a h

theorem filter_ne_eq_erase (hn : as.Nodup) (a : α) : (as.filter fun b => b ≠ a) = as.erase a := by
  rw [hn.erase_eq_filter]
  exact List.filter_congr fun b _ => decide_not.trans (congrArg not (beq_eq_decide b a).symm)

theorem length_filter_ne (hn : as.Nodup) (ha : a ∈ as) :
    (as.filter fun b => b ≠ a).length = as.length - 1 := by
  rw [filter_ne_eq_erase hn, List.length_erase_of_mem ha]

/-- A member of a list without repetitions stands where it is inserted among the others at its
place. -/
theorem insertIdx_idxOf (hn : as.Nodup) (ha : a ∈ as) :
    (as.filter fun b => b ≠ a).insertIdx (as.idxOf a) a = as := by
  have hlt : as.idxOf a < as.length := List.idxOf_lt_length_iff.2 ha
  have hself := List.insertIdx_eraseIdx_getElem hlt
  rw [List.getElem_idxOf hlt] at hself
  rwa [filter_ne_eq_erase hn, List.erase_eq_eraseIdx_of_idxOf rfl]

end Lists

end Graph

/-! ## What is placed -/

namespace Graph

variable {g g' : Graph}

/-- The children of a node in order, without the given one. -/
def otherChildren (g : Graph) (id p : NodeId) : List NodeId :=
  (g.childIds p).filter fun c => c ≠ id

/-- The place takes a node of the kind as a child, next to the children that are there. -/
def Takes (g : Graph) (p : NodeId) (kind : NodeKind) (others : List NodeId) : Prop :=
  ∃ parent, g.node? p = some parent ∧
    canAccept parent.kind kind (others.filterMap g.kind?) .child = true

/-- The node stands among the other children of the place at the clamped position, and was taken off
the children of every other node. -/
structure Placed (g g' : Graph) (id p : NodeId) (index : Int) : Prop where
  /-- The children of the place keep their order. -/
  here : g'.childIds p =
    (g.otherChildren id p).insertIdx (clamped index (g.otherChildren id p).length) id
  /-- So do those of every other node. -/
  elsewhere : ∀ q, q ≠ p → g'.childIds q = g.otherChildren id q

/-- What a position does in each of the four operations that have one. -/
structure Positions (g : Graph) (s : IdSupply) : Prop where
  /-- A node is added where it is taken and finds a key, unless it is to go in front of the first of
  no children. -/
  add_iff : ∀ draft p i, (∃ r, (g.add draft p .child (some i)).run s = .ok r) ↔
    (g.Takes p draft.kind (g.childIds p) ∧
      ∃ key, keyFor draft p .child ((g.childIds p).filterMap g.key?) = .ok key) ∧
    (0 ≤ i ∨ g.childIds p ≠ [])
  /-- An added node stands at the position. -/
  added : ∀ draft p i r, (g.add draft p .child (some i)).run s = .ok r →
    Placed g r.1.1 r.1.2 p i
  /-- A group is created where it is taken and its title can be read, unless it is to go in front of
  the first of no children. -/
  createGroup_iff : ∀ kind p title description i,
    (∃ r, (g.createGroup kind p title description (some i)).run s = .ok r) ↔
    (kind.isGroup = true ∧ g.Takes p kind (g.childIds p) ∧ ∃ t, Key.readTitle title = .ok t) ∧
    (0 ≤ i ∨ g.childIds p ≠ [])
  /-- A created group stands at the position. -/
  created : ∀ kind p title description i r,
    (g.createGroup kind p title description (some i)).run s = .ok r → Placed g r.1.1 r.1.2 p i
  /-- A node that can be moved is moved where it is taken, unless it is to go in front of the first of
  no other children. -/
  move_iff : ∀ id p i, (∃ g', g.move id p .child (some i) = .ok g') ↔
    (∃ n, id ≠ g.rootId ∧ g.node? id = some n ∧ n.kind ≠ .definition ∧ p ∉ g.subtreeIds id ∧
      g.Takes p n.kind (g.otherChildren id p)) ∧
    (0 ≤ i ∨ g.otherChildren id p ≠ [])
  /-- A moved node stands at the position. -/
  moved : ∀ id p i g', g.move id p .child (some i) = .ok g' → Placed g g' id p i
  /-- A child is put in order at every position, and stands there. -/
  reordered : ∀ id p i, g.owningEdge id = some ⟨p, id, .child⟩ →
    ∃ g', g.reorder id i = .ok g' ∧ Placed g g' id p i

/-! ## Places -/

theorem childIds_eq (g : Graph) (p : NodeId) :
    g.childIds p = (childEdges (g.edgesFrom p)).map Edge.target := rfl

theorem childIds_eq_nil_iff {p : NodeId} : childEdges (g.edgesFrom p) = [] ↔ g.childIds p = [] := by
  rw [childIds_eq, List.map_eq_nil_iff]

/-- A place is asked about the kinds of the children that are there. -/
theorem Forest.checkPlace_iff (hf : Forest g) {p : NodeId} {parent : Node NodeId} {kind : NodeKind}
    {moving : Option NodeId} :
    (∃ u, g.checkPlace p parent kind .child moving = .ok u) ↔ canAccept parent.kind kind
      (((g.childIds p).filter fun c => moving ≠ some c).filterMap g.kind?) .child = true := by
  obtain ⟨cs, hcs, hids, hnodes⟩ := hf.children_eq p
  have hkinds : (cs.filter fun c => moving ≠ some c.1).map (fun c => c.2.kind) =
      ((g.childIds p).filter fun c => moving ≠ some c).filterMap g.kind? := by
    rw [← hids, List.filter_map, List.filterMap_map, ← List.filterMap_eq_map]
    refine List.filterMap_congr fun c hc => ?_
    exact (g.kind?_of_node? (hnodes c (List.mem_filter.1 hc).1)).symm
  rw [← hkinds]
  constructor
  · rintro ⟨u, hu⟩
    obtain ⟨below, hbelow, haccept⟩ := checkPlace_ok hu
    rw [hcs] at hbelow
    rwa [Except.ok.inj hbelow]
  · intro haccept
    obtain ⟨hcontainer, hdef⟩ := isContainer_of_canAccept haccept
    refine ⟨(), ?_⟩
    unfold checkPlace
    rw [if_neg (by simp [isLeaf_eq_false_of_isContainer hcontainer, hdef]), hcs]
    exact if_pos haccept

/-! ## Adding -/

theorem Forest.addAs_isOk_iff (hf : Forest g) (id : NodeId) {p : NodeId} {draft : Draft} {i : Int} :
    (∃ g', g.addAs id draft p .child (some i) = .ok g') ↔
      (g.Takes p draft.kind (g.childIds p) ∧
        ∃ key, keyFor draft p .child ((g.childIds p).filterMap g.key?) = .ok key) ∧
      (0 ≤ i ∨ g.childIds p ≠ []) := by
  have hall : ((g.childIds p).filter fun c => none ≠ some c) = g.childIds p :=
    List.filter_eq_self.2 fun _ _ => rfl
  have htaken : g.siblingKeys p .child none = .ok ((g.childIds p).filterMap g.key?) := by
    rw [hf.siblingKeys_eq]
    exact congrArg _ (congrArg _ hall)
  unfold addAs
  simp only [bind_eq_ok_iff, parentNode_eq_ok_iff, pure_eq_ok_iff, attach_eq_ok_iff, htaken,
    Except.ok.injEq]
  constructor
  · rintro ⟨_, parent, hp, u, hcheck, _, rfl, key, hkey, _, ⟨es, hes, rfl⟩, rfl⟩
    have haccept := hf.checkPlace_iff.1 ⟨u, hcheck⟩
    rw [hall] at haccept
    have hpos := (exists_placeEdge_iff rfl).1 ⟨es, hes⟩
    rw [edgesFrom_putNode, ne_eq, childIds_eq_nil_iff] at hpos
    exact ⟨⟨⟨parent, hp, haccept⟩, key, hkey⟩, hpos⟩
  · rintro ⟨⟨⟨parent, hp, haccept⟩, key, hkey⟩, hpos⟩
    obtain ⟨u, hcheck⟩ := hf.checkPlace_iff.2 (hall.symm ▸ haccept)
    rw [ne_eq, ← childIds_eq_nil_iff] at hpos
    obtain ⟨es, hes⟩ := (exists_placeEdge_iff (e := ⟨p, id, .child⟩) rfl).2 hpos
    exact ⟨_, parent, hp, u, hcheck, _, rfl, key, hkey, _, ⟨es, hes, rfl⟩, rfl⟩

/-- A node whose key the caller leaves open finds one when its title can be read. -/
theorem exists_keyFor_iff {draft : Draft} (h : draft.key = .null) {p : NodeId} {edge : EdgeKind}
    {taken : List String} :
    (∃ key, keyFor draft p edge taken = .ok key) ↔ ∃ t, Key.readTitle draft.title = .ok t := by
  unfold keyFor
  simp only [h, bind_eq_ok_iff, pure_eq_ok_iff]
  constructor
  · rintro ⟨_, t, ht, _⟩
    exact ⟨t, ht⟩
  · rintro ⟨t, ht⟩
    exact ⟨_, t, ht, rfl⟩

/-- A child edge that is placed among the edges of a node stands among its children. -/
theorem childIds_of_placedEdge {p id : NodeId} {i : Int} {es fs : List Edge}
    (hes : placeEdge ⟨p, id, .child⟩ (some i) fs = .ok es) {others : List NodeId}
    (hfs : (childEdges fs).map Edge.target = others) (hedges : g'.edgesFrom p = es) :
    g'.childIds p = others.insertIdx (clamped i others.length) id := by
  rw [childIds_eq, hedges, childEdges_placeEdge rfl hes, List.map_insertIdx, hfs, ← hfs,
    List.length_map]

/-- A new node is not among the children that are there. -/
theorem Forest.otherChildren_of_absent (hf : Forest g) {id : NodeId} (h : g.node? id = none)
    (p : NodeId) : g.otherChildren id p = g.childIds p := by
  refine List.filter_eq_self.2 fun c hc => decide_eq_true ?_
  rintro rfl
  have hpresent := hf.child_present hc
  rw [h] at hpresent
  simp at hpresent

theorem Forest.placed_of_addAs (hf : Forest g) {id p : NodeId} {draft : Draft} {i : Int}
    (hfree : g.node? id = none) (h : g.addAs id draft p .child (some i) = .ok g') :
    Placed g g' id p i := by
  obtain ⟨_, _, key, es, _, _, _, _, _, hes, rfl⟩ := addAs_ok h
  have hothers := hf.otherChildren_of_absent hfree
  have hedges (q : NodeId) : ((g.putNode id (draft.build key)).wire ⟨p, id, .child⟩
      es).next.edgesFrom q = if p = q then es else g.edgesFrom q := by
    rw [edgesFrom_next, edgesFrom_wire, edgesFrom_putNode]
  refine ⟨?_, fun q hq => ?_⟩
  · rw [hothers]
    exact childIds_of_placedEdge hes rfl (by rw [hedges, if_pos rfl])
  · rw [hothers]
    exact childIds_congr (by rw [hedges, if_neg (Ne.symm hq)])

section Supply

variable {s : IdSupply} {p : NodeId} {i : Int}

theorem Forest.add_isOk_iff (hf : Forest g) {draft : Draft} :
    (∃ r, (g.add draft p .child (some i)).run s = .ok r) ↔
      (g.Takes p draft.kind (g.childIds p) ∧
        ∃ key, keyFor draft p .child ((g.childIds p).filterMap g.key?) = .ok key) ∧
      (0 ≤ i ∨ g.childIds p ≠ []) := by
  rw [← hf.addAs_isOk_iff (IdSupply.nameOf (s.used + 1))]
  constructor
  · rintro ⟨r, hr⟩
    exact ⟨_, (add_ok hr).1⟩
  · rintro ⟨g', hg⟩
    refine ⟨((g', IdSupply.nameOf (s.used + 1)), ⟨s.used + 1⟩), ?_⟩
    unfold Graph.add
    simp only [Edit.bind_eq_ok_iff, Edit.fresh_eq_ok_iff, Edit.lift_eq_ok_iff, Edit.pure_eq_ok_iff]
    exact ⟨_, _, rfl, g', _, ⟨hg, rfl⟩, rfl⟩

theorem Forest.placed_of_add (hf : Forest g) (hsup : Supplied g s) {draft : Draft}
    {r : (Graph × NodeId) × IdSupply} (h : (g.add draft p .child (some i)).run s = .ok r) :
    Placed g r.1.1 r.1.2 p i := by
  obtain ⟨hg, hid, _⟩ := add_ok h
  rw [hid]
  exact hf.placed_of_addAs (hsup _ (Nat.lt_succ_self _)) hg

/-- A group is added as a draft of its kind that leaves the key open. -/
theorem Forest.createGroup_isOk_iff (hf : Forest g) {kind : NodeKind} {title description : Value} :
    (∃ r, (g.createGroup kind p title description (some i)).run s = .ok r) ↔
      (kind.isGroup = true ∧ g.Takes p kind (g.childIds p) ∧ ∃ t, Key.readTitle title = .ok t) ∧
      (0 ≤ i ∨ g.childIds p ≠ []) := by
  have hadd : (∃ r, (g.add { body := Body.initial kind, title, description } p .child
      (some i)).run s = .ok r) ↔ _ := hf.add_isOk_iff
  rw [exists_keyFor_iff rfl, Draft.kind, Body.kind_initial] at hadd
  rw [and_assoc, ← hadd]
  constructor
  · rintro ⟨r, hr⟩
    exact ⟨(createGroup_ok hr).1, r, (createGroup_ok hr).2⟩
  · rintro ⟨hkind, r, hr⟩
    refine ⟨r, ?_⟩
    unfold createGroup
    rw [if_neg (by simp [hkind])]
    exact hr

end Supply

/-! ## Moving -/

theorem otherChildren_eq (id p : NodeId) :
    g.otherChildren id p = (childEdges (g.edgesFromBut id p)).map Edge.target := by
  rw [otherChildren, childIds_eq, List.filter_map, childEdges, childEdges, edgesFromBut,
    List.filter_filter, List.filter_filter]
  congr 1
  exact List.filter_congr fun f _ => Bool.and_comm _ _

/-- When a node is taken off, the other children are left. -/
theorem Forest.childIds_detach (hf : Forest g) (id p : NodeId) :
    (g.detach id).childIds p = g.otherChildren id p := by
  rw [otherChildren_eq, ← hf.edgesFromBut_detach id p, childIds_eq]
  have hnone : ∀ f ∈ (g.detach id).edgesFrom p, f.target ≠ id := by
    rintro f hfm rfl
    have ho := (hf.detach f.target).owned hfm
    rw [owningEdge_detach, if_pos rfl] at ho
    simp at ho
  rw [edgesFromBut, List.filter_eq_self.2 fun f hfm => decide_eq_true (hnone f hfm)]

theorem Forest.placed_of_move (hf : Forest g) {id p : NodeId} {i : Int}
    (h : g.move id p .child (some i) = .ok g') : Placed g g' id p i := by
  obtain ⟨es, hes, hedges⟩ := edgesFrom_move hf h
  refine ⟨?_, fun q hq => ?_⟩
  · exact childIds_of_placedEdge hes (hf.childIds_detach id p) (by rw [hedges, if_pos rfl])
  · rw [← hf.childIds_detach]
    exact childIds_congr (by rw [hedges, if_neg (Ne.symm hq)])

theorem Forest.move_isOk_iff (hf : Forest g) {id p : NodeId} {i : Int} :
    (∃ g', g.move id p .child (some i) = .ok g') ↔
      (∃ n, id ≠ g.rootId ∧ g.node? id = some n ∧ n.kind ≠ .definition ∧ p ∉ g.subtreeIds id ∧
        g.Takes p n.kind (g.otherChildren id p)) ∧
      (0 ≤ i ∨ g.otherChildren id p ≠ []) := by
  have hothers : ((g.childIds p).filter fun c => some id ≠ some c) = g.otherChildren id p :=
    List.filter_congr fun c _ => by simp only [ne_eq, Option.some.injEq, eq_comm]
  have hnone : childEdges ((g.detach id).edgesFrom p) = [] ↔ g.otherChildren id p = [] := by
    rw [childIds_eq_nil_iff, hf.childIds_detach]
  have hbelow : g.wouldCycle id p = false ↔ p ∉ g.subtreeIds id := by
    rw [← Bool.not_eq_true, wouldCycle_iff, hf.mem_subtreeIds_iff]
  constructor
  · rintro ⟨g', h⟩
    obtain ⟨es, hes, _⟩ := edgesFrom_move hf h
    have hpos := (exists_placeEdge_iff rfl).1 ⟨es, hes⟩
    rw [ne_eq, hnone] at hpos
    refine ⟨?_, hpos⟩
    unfold move at h
    simp only [refuse_bind, ite_refuse_eq_ok_iff, bind_eq_ok_iff, get_eq_ok_iff,
      parentNode_eq_ok_iff] at h
    obtain ⟨hroot, n, hn, hdef, parent, hp, hcycle, _, u, hcheck, _⟩ := h
    have haccept := hf.checkPlace_iff.1 ⟨u, hcheck⟩
    rw [hothers] at haccept
    exact ⟨n, hroot, hn, hdef, hbelow.1 (by simpa using hcycle), parent, hp, haccept⟩
  · rintro ⟨⟨n, hroot, hn, hdef, hcycle, parent, hp, haccept⟩, hpos⟩
    obtain ⟨u, hcheck⟩ := hf.checkPlace_iff.2 (hothers.symm ▸ haccept)
    have hleaf := isLeaf_eq_false_of_isContainer (isContainer_of_canAccept haccept).1
    rw [ne_eq, ← hnone] at hpos
    obtain ⟨es, hes⟩ := (exists_placeEdge_iff (e := ⟨p, id, .child⟩) rfl).2 hpos
    unfold move
    simp only [refuse_bind, ite_refuse_eq_ok_iff, bind_eq_ok_iff, get_eq_ok_iff,
      parentNode_eq_ok_iff, pure_eq_ok_iff, attach_eq_ok_iff, hf.siblingKeys_eq, Except.ok.injEq]
    refine ⟨_, hroot, n, hn, hdef, parent, hp, by simp [hbelow.2 hcycle], by simp [hleaf], u,
      hcheck, _, rfl, _, ⟨es, ?_, rfl⟩, rfl⟩
    rw [← hes]
    split <;> simp

/-! ## Putting in order -/

/-- The edge of a child is put in order where the child is. -/
theorem map_target_moveInList (hf : Forest g) {id p : NodeId}
    (ho : g.owningEdge id = some ⟨p, id, .child⟩) {position : Nat}
    (hpos : position ≤ (g.otherChildren id p).length) :
    (childEdges (moveInList ⟨p, id, .child⟩ position (g.edgesOfKind p .child) ++
      (g.edgesFrom p).filter fun f => f.kind ≠ .child)).map Edge.target =
      (g.otherChildren id p).insertIdx position id := by
  -- among the edges below the parent, the one that is moved is the one to the child
  have hothers : ((g.edgesOfKind p .child).filter fun f => f ≠ ⟨p, id, .child⟩).map Edge.target =
      g.otherChildren id p := by
    rw [otherChildren, childIds, targetsOfKind, List.filter_map]
    congr 1
    refine List.filter_congr fun f hfm => ?_
    have hown := hf.owned (List.mem_filter.1 hfm).1
    simp only [Function.comp_apply, ne_eq, decide_not]
    congr 2
    refine propext ⟨fun heq => by rw [heq], fun htarget => ?_⟩
    rw [htarget, ho] at hown
    exact (Option.some.inj hown).symm
  rw [← hothers, List.length_map] at hpos
  have hrest : ((g.edgesFrom p).filter fun f => f.kind ≠ .child).filter
      (fun f => f.kind = .child) = [] := by
    rw [List.filter_filter, List.filter_eq_nil_iff]
    simp
  have hchildren : ∀ f ∈ moveInList ⟨p, id, .child⟩ position (g.edgesOfKind p .child),
      f.kind = .child := by
    intro f hfm
    rw [moveInList_eq_insertIdx hpos] at hfm
    rcases List.eq_or_mem_of_mem_insertIdx hfm with rfl | hfm
    · rfl
    · exact of_decide_eq_true (List.mem_filter.1 (List.mem_filter.1 hfm).1).2
  rw [childEdges, List.filter_append, hrest, List.append_nil,
    List.filter_eq_self.2 fun f hfm => decide_eq_true (hchildren f hfm),
    moveInList_eq_insertIdx hpos, List.map_insertIdx, hothers]

/-- The children of the other nodes are those without the child of this one. -/
theorem Forest.childIds_of_ne (hf : Forest g) {id p q : NodeId}
    (ho : g.owningEdge id = some ⟨p, id, .child⟩) (hq : q ≠ p) :
    g.childIds q = g.otherChildren id q := by
  refine (List.filter_eq_self.2 fun c hc => decide_eq_true ?_).symm
  rintro rfl
  exact hq ((hf.mem_childIds_iff.1 hc).unique ho)

theorem Forest.reorder_isOk (hf : Forest g) {id p : NodeId} (hroot : id ≠ g.rootId)
    (ho : g.owningEdge id = some ⟨p, id, .child⟩) (i : Int) :
    ∃ g', g.reorder id i = .ok g' ∧ Placed g g' id p i := by
  obtain ⟨n, hn⟩ := Option.isSome_iff_exists.1 (hf.present ho).1
  have hmem : id ∈ g.childIds p := hf.mem_childIds_iff.2 ho
  have hlen : (g.otherChildren id p).length = (g.edgesOfKind p .child).length - 1 := by
    rw [otherChildren, length_filter_ne (hf.nodup_childIds p) hmem, childIds, targetsOfKind,
      List.length_map]
  have hsome : 0 < (g.edgesOfKind p .child).length := by
    rw [← List.length_map (f := Edge.target)]
    exact List.length_pos_of_mem hmem
  have hpos : (min (max i 0) (((g.edgesOfKind p .child).length : Int) - 1)).toNat =
      clamped i (g.otherChildren id p).length := by
    unfold clamped
    omega
  unfold reorder
  rw [if_neg hroot, get, hn]
  simp only [ho, hpos]
  split_ifs with hkind hthere
  · exact absurd rfl hkind
  · refine ⟨g, rfl, ?_, fun q hq => hf.childIds_of_ne ho hq⟩
    rw [← hthere]
    exact (insertIdx_idxOf (hf.nodup_childIds p) hmem).symm
  · refine ⟨_, rfl, ?_, fun q hq => ?_⟩
    · rw [childIds_eq, edgesFrom_next, edgesFrom_setEdges, if_pos rfl]
      exact map_target_moveInList hf ho (clamped_le i _)
    · rw [← hf.childIds_of_ne ho hq]
      exact childIds_congr (by rw [edgesFrom_next, edgesFrom_setEdges, if_neg (Ne.symm hq)])

/-! ## The theorem -/

theorem SoundBut.positions (hs : Sound g) {s : IdSupply} (hsup : Supplied g s) :
    Positions g s :=
  have hf := hs.toForest
  { add_iff := fun _ _ _ => hf.add_isOk_iff
    added := fun _ _ _ _ h => hf.placed_of_add hsup h
    createGroup_iff := fun _ _ _ _ _ => hf.createGroup_isOk_iff
    created := fun _ _ _ _ _ _ h => hf.placed_of_add hsup (createGroup_ok h).2
    move_iff := fun _ _ _ => hf.move_isOk_iff
    moved := fun _ _ _ _ h => hf.placed_of_move h
    reordered := fun id p i ho => by
      have hroot : id ≠ g.rootId := by
        rintro rfl
        rw [hs.root_top] at ho
        simp at ho
      exact hf.reorder_isOk hroot ho i }

/-- In every reachable graph positions are clamped alike: a node that a place takes goes among the other
children there to the clamped position, whichever operation puts it there. Only adding and moving a
node in front of the first of no children is refused. -/
theorem positions_of_reachable {s : IdSupply} (h : Reachable (fun _ _ => True) g s) :
    Positions g s :=
  h.sound.1.positions h.sound.2

/-- Below the root of an empty graph a field is added at position 0, and not at position -1; next to
the field another one is added at position -1, before it. -/
theorem no_position_before_no_children :
    ∃ (g : Graph) (s : IdSupply) (r : (Graph × NodeId) × IdSupply) (r' : (Graph × NodeId) × IdSupply),
      Reachable (fun _ _ => True) g s ∧ Positions g s ∧ g.Takes rootName .boolean [] ∧
      (¬ ∃ r, (g.add { body := .boolean } rootName .child (some (-1))).run s = .ok r) ∧
      (g.add { body := .boolean } rootName .child (some 0)).run s = .ok r ∧
      Positions r.1.1 r.2 ∧
      (r.1.1.add { body := .boolean } rootName .child (some (-1))).run r.2 = .ok r' ∧
      r'.1.1.childIds rootName = ["n2", "n1"] := by
  have hempty : Reachable (fun _ _ => True) _ _ := .empty .null .null {}
  have hfield : Reachable (fun _ _ => True) _ _ :=
    .change (c := .add { body := .boolean } rootName .child (some 0)) hempty trivial rfl
  refine ⟨_, _, ((_, "n1"), ⟨1⟩), _, hempty, positions_of_reachable hempty, ⟨_, rfl, rfl⟩, fun h => ?_,
    rfl, positions_of_reachable hfield, rfl, rfl⟩
  rcases (((positions_of_reachable hempty).add_iff _ _ _).1 h).2 with hpos | hsome
  · exact absurd hpos (by decide)
  · exact hsome rfl

end Graph

end FormGraph

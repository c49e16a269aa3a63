import FormGraph.Proofs.Moving.Steps

/-!
# Moves and cycles

The test for cycles climbs from the new parent along the edges that own nodes, while the subtree of a
node is found by going down the edges below it. In a reachable graph the two say the same
(`ChecksCycles`), so a move is refused for a cycle exactly when it leads into the moved subtree, and no
sequence of moves leads to a graph with a cycle in it, over whatever kinds of edges
(`checksCycles_of_reachable`).
-/

namespace FormGraph

/-! ## Refusals for a cycle -/

/-- An operation is refused because it would make a cycle. -/
def RefusedForCycle {α : Type} (x : Except Fault α) : Prop :=
  ∃ id parentId, x = refuse (.cycle id parentId)

section

variable {α β : Type}

theorem not_refusedForCycle_ok (a : α) : ¬ RefusedForCycle (.ok a : Except Fault α) := by
  rintro ⟨id, parentId, h⟩
  cases h

theorem not_refusedForCycle_breakDown (b : Breakdown) :
    ¬ RefusedForCycle (breakDown b : Except Fault α) := by
  rintro ⟨id, parentId, h⟩
  cases h

/-- Refusals for other reasons. -/
theorem not_refusedForCycle_refuse {r : Refusal} (hr : ∀ x y, r ≠ .cycle x y) :
    ¬ RefusedForCycle (refuse r : Except Fault α) := by
  rintro ⟨x, y, h⟩
  cases h
  exact hr x y rfl

/-- A chain is refused for a cycle where its first step is, or what comes after it. -/
theorem refusedForCycle_bind_iff {x : Except Fault α} {f : α → Except Fault β} :
    RefusedForCycle (x >>= f) ↔ RefusedForCycle x ∨ ∃ a, x = .ok a ∧ RefusedForCycle (f a) := by
  cases x with
  | ok a =>
    refine ⟨fun h => Or.inr ⟨a, rfl, h⟩, ?_⟩
    rintro (h | ⟨_, ha, h⟩)
    · exact absurd h (not_refusedForCycle_ok a)
    · exact Except.ok.inj ha ▸ h
  | error e =>
    constructor
    · rintro ⟨id, parentId, h⟩
      exact Or.inl ⟨id, parentId, congrArg Except.error (Except.error.inj h)⟩
    · rintro (⟨id, parentId, h⟩ | ⟨_, ha, _⟩)
      · exact ⟨id, parentId, congrArg Except.error (Except.error.inj h)⟩
      · cases ha

end

namespace Graph

variable {g g' : Graph}

theorem not_refusedForCycle_get (id : NodeId) : ¬ RefusedForCycle (g.get id) := by
  unfold get
  cases g.node? id with
  | some n => exact not_refusedForCycle_ok n
  | none => exact not_refusedForCycle_refuse (by simp)

theorem not_refusedForCycle_parentNode (id : NodeId) : ¬ RefusedForCycle (g.parentNode id) := by
  unfold parentNode
  cases g.node? id with
  | some n => exact not_refusedForCycle_ok n
  | none => exact not_refusedForCycle_refuse (by simp)

theorem not_refusedForCycle_attach (source target : NodeId) (kind : EdgeKind) (index : Option Int) :
    ¬ RefusedForCycle (g.attach source target kind index) := by
  have hplace : ∀ e es, ¬ RefusedForCycle (placeEdge e index es) := by
    intro e es
    unfold placeEdge
    cases index with
    | none => exact not_refusedForCycle_ok _
    | some i =>
      dsimp only
      split_ifs
      · exact not_refusedForCycle_ok _
      · exact not_refusedForCycle_ok _
      · exact not_refusedForCycle_breakDown _
      · exact not_refusedForCycle_ok _
  unfold attach
  rw [refusedForCycle_bind_iff]
  rintro (h | ⟨es, _, h⟩)
  · exact hplace _ _ h
  · exact not_refusedForCycle_ok _ h

/-- A place is refused for other reasons. -/
theorem Forest.not_refusedForCycle_checkPlace (hf : Forest g) (p : NodeId) (parent : Node NodeId)
    (kind : NodeKind) (edge : EdgeKind) (moving : Option NodeId) :
    ¬ RefusedForCycle (g.checkPlace p parent kind edge moving) := by
  obtain ⟨cs, hcs, _⟩ := hf.children_eq p
  unfold checkPlace
  split_ifs
  · exact not_refusedForCycle_refuse (by simp)
  · rw [hcs]
    show ¬ RefusedForCycle (if _ then .ok () else refuse _)
    split_ifs
    · exact not_refusedForCycle_ok _
    · exact not_refusedForCycle_refuse (by simp)

/-- A move that is refused for a cycle leads into the subtree. -/
theorem Forest.mem_subtreeIds_of_refused (hf : Forest g) {id p : NodeId} {edge : EdgeKind}
    {index : Option Int} (h : RefusedForCycle (g.move id p edge index)) : p ∈ g.subtreeIds id := by
  by_contra hnot
  have hcycle : g.wouldCycle id p = false := by
    rwa [hf.mem_subtreeIds_iff, ← wouldCycle_iff, Bool.not_eq_true] at hnot
  -- the other refusals are for other reasons, in the order in which a move meets them
  unfold move at h
  simp only [hcycle, Bool.false_eq_true, if_false] at h
  split_ifs at h
  · exact not_refusedForCycle_refuse (by simp) h
  rw [refusedForCycle_bind_iff] at h
  obtain h | ⟨n, _, h⟩ := h
  · exact not_refusedForCycle_get _ h
  split_ifs at h
  · exact not_refusedForCycle_refuse (by simp) h
  rw [refusedForCycle_bind_iff] at h
  obtain h | ⟨parent, _, h⟩ := h
  · exact not_refusedForCycle_parentNode _ h
  split_ifs at h
  · exact not_refusedForCycle_refuse (by simp) h
  rw [refusedForCycle_bind_iff] at h
  obtain h | ⟨_, _, h⟩ := h
  · exact hf.not_refusedForCycle_checkPlace _ _ _ _ _ h
  rw [hf.siblingKeys_eq, refusedForCycle_bind_iff] at h
  obtain h | ⟨taken, _, h⟩ := h
  · exact not_refusedForCycle_ok _ h
  rw [refusedForCycle_bind_iff] at h
  obtain h | ⟨wired, _, h⟩ := h
  · exact not_refusedForCycle_attach _ _ _ _ h
  · exact not_refusedForCycle_ok _ h

/-- A node that can be moved is refused to be moved into its subtree. -/
theorem Forest.move_of_mem_subtreeIds (hf : Forest g) {id p : NodeId} {n : Node NodeId}
    (hroot : id ≠ g.rootId) (hn : g.node? id = some n) (hdef : n.kind ≠ .definition)
    (hp : p ∈ g.subtreeIds id) (edge : EdgeKind) (index : Option Int) :
    g.move id p edge index = refuse (.cycle id p) := by
  rw [hf.mem_subtreeIds_iff] at hp
  obtain ⟨parent, hparent⟩ : ∃ m, g.node? p = some m := by
    rcases below_iff.1 hp with rfl | ⟨e, he, _⟩
    · exact ⟨n, hn⟩
    · exact Option.isSome_iff_exists.1 (hf.present he).1
  unfold move
  rw [if_neg hroot, get_eq_ok_iff.2 hn]
  show (if n.kind = .definition then _ else g.parentNode p >>= _) = _
  rw [if_neg hdef, parentNode_eq_ok_iff.2 hparent]
  exact if_pos (wouldCycle_iff.2 hp)

/-! ## Cycles -/

/-- Going down from a node over edges of any kind never comes back to it. -/
def Acyclic (g : Graph) : Prop := ∀ x, ¬ Relation.TransGen g.Joined x x

theorem Forest.acyclic (hf : Forest g) : g.Acyclic := by
  intro x hx
  obtain ⟨y, hreach, e, he, rfl⟩ := Relation.TransGen.tail'_iff.1 hx
  exact hf.not_below_owner (hf.owned he) (hf.source_eq he ▸ hf.reached_iff.1 hreach)

/-! ## The theorem -/

/-- The test for cycles tells the subtree of a node, and moves are refused accordingly. -/
structure ChecksCycles (g : Graph) : Prop where
  /-- A move would make a cycle exactly when the new parent is in the subtree of the node. -/
  wouldCycle_iff : ∀ x y, g.wouldCycle x y = true ↔ y ∈ g.subtreeIds x
  /-- A node that is neither the root nor a definition is refused a place in its own subtree. -/
  refused : ∀ x y n, g.node? x = some n → x ≠ g.rootId → n.kind ≠ .definition →
    y ∈ g.subtreeIds x → ∀ edge index, g.move x y edge index = refuse (.cycle x y)
  /-- No other move is refused for a cycle. -/
  refused_only : ∀ x y edge index, RefusedForCycle (g.move x y edge index) → y ∈ g.subtreeIds x

/-- A sequence of successful moves leads from one graph to the other. -/
inductive MovedTo (g : Graph) : Graph → Prop where
  /-- Nothing was moved. -/
  | refl : MovedTo g g
  /-- One more node was moved. -/
  | move {g' g'' : Graph} (id p : NodeId) (edge : EdgeKind) (index : Option Int)
    (before : MovedTo g g') (h : g'.move id p edge index = .ok g'') : MovedTo g g''

theorem Forest.checksCycles (hf : Forest g) : g.ChecksCycles where
  wouldCycle_iff x y := by rw [Graph.wouldCycle_iff, hf.mem_subtreeIds_iff]
  refused _ _ _ hn hroot hdef hy := hf.move_of_mem_subtreeIds hroot hn hdef hy
  refused_only _ _ _ _ h := hf.mem_subtreeIds_of_refused h

theorem Reachable.movedTo {allowed : Graph → Change → Prop} {s : IdSupply}
    (h : Reachable allowed g s) (hallowed : ∀ g c, allowed g c) (hm : g.MovedTo g') :
    Reachable allowed g' s := by
  induction hm with
  | refl => exact h
  | @move g₁ g₂ id p edge index _ hmove ih =>
    have hrun : (g₁.apply (.move id p edge index)).run s = .ok ({ graph := g₂ }, s) := by
      simp only [apply, Edit.bind_eq_ok_iff, Edit.lift_eq_ok_iff, Edit.pure_eq_ok_iff]
      exact ⟨g₂, s, ⟨hmove, rfl⟩, rfl⟩
    exact .change ih (hallowed _ _) hrun

/-- In a reachable graph the test for cycles is membership in the subtree. Whatever nodes are moved
where, as long as the moves succeed, that stays so and there is no cycle. -/
theorem checksCycles_of_reachable {s : IdSupply} (h : Reachable (fun _ _ => True) g s) :
    g.ChecksCycles ∧ ∀ g', g.MovedTo g' → g'.ChecksCycles ∧ g'.Acyclic := by
  refine ⟨h.sound.1.toForest.checksCycles, fun g' hm => ?_⟩
  have hf : Forest g' := (h.movedTo (fun _ _ => trivial) hm).sound.1.toForest
  exact ⟨hf.checksCycles, hf.acyclic⟩

/-- A node is refused a place below its own conditional branch. Once the branch hangs elsewhere, the
place is given. -/
theorem checksCycles_of_moved_branch :
    ∃ (g : Graph) (s : IdSupply) (g' g'' : Graph), Reachable (fun _ _ => True) g s ∧
      g.subtreeIds "n1" = ["n1", "n2", "n3"] ∧ g.ChecksCycles ∧
      g.move "n1" "n3" .child none = refuse (.cycle "n1" "n3") ∧
      g.move "n3" rootName .child none = .ok g' ∧ g'.move "n1" "n3" .child none = .ok g'' ∧
      g''.subtreeIds "n3" = ["n3", "n1", "n2"] ∧ g''.Acyclic := by
  have houter : Reachable (fun _ _ => True) _ _ :=
    .change (c := .add { body := .object {} } rootName .child none) (.empty .null .null {}) trivial rfl
  have hgroup : Reachable (fun _ _ => True) _ _ :=
    .change (c := .createGroup (.group .anyOf) "n1" .null .null none) houter trivial rfl
  have hthen : Reachable (fun _ _ => True) _ _ :=
    .change (c := .add { body := .object {} } "n2" .thenBranch none) hgroup trivial rfl
  obtain ⟨hchecks, hmoved⟩ := checksCycles_of_reachable hthen
  refine ⟨_, _, _, _, hthen, by decide, hchecks,
    hchecks.refused "n1" "n3" _ rfl (by decide) (by decide) (by decide) .child none, rfl, rfl,
    by decide, ?_⟩
  exact (hmoved _ (.move "n1" "n3" .child none (.move "n3" rootName .child none .refl rfl) rfl)).2

end Graph

end FormGraph

import FormGraph.Proofs.Agreement.Change
import FormGraph.Proofs.Describing.Renamed
import FormGraph.Proofs.Moving.Steps

/-!
# Graphs without some branches of a group

Pruning takes branches of a group off one by one, each with what hung below it before. No clause names
them, so no clause changes, and what is left is the graph without these branches and what is below them
(`trimmed_of_pruneBranches`). The children of what is left are left too: it is part of the graph in
such a way that the same is written of it and it is described alike (`Trimmed.renamed`).
-/

namespace FormGraph

namespace Graph

variable {g g' h : Graph}

/-- The node is one of the given ones or hangs below one of them. -/
def Gone (g : Graph) (ids : List NodeId) (x : NodeId) : Prop := ∃ t ∈ ids, Below g t x

/-- The graph without the given nodes and what hangs below them. -/
structure Trimmed (g g' : Graph) (ids : List NodeId) : Prop where
  /-- They are gone. -/
  gone : ∀ x, g.Gone ids x → g'.node? x = none
  /-- All other nodes stay, -/
  node : ∀ x, ¬ g.Gone ids x → g'.node? x = g.node? x
  /-- and hang where they hung. -/
  owner : ∀ x, ¬ g.Gone ids x → g'.owningEdge x = g.owningEdge x
  /-- They lose the edges to what is gone, and the others stay in their order. -/
  edges : ∀ x, ¬ g.Gone ids x →
    g'.edgesFrom x = (g.edgesFrom x).filter fun f => decide (f.target ∉ ids)
  /-- The definitions are the same. -/
  definitions : g'.definitions = g.definitions
  /-- The root is the same. -/
  rootId : g'.rootId = g.rootId

theorem gone_append {ids more : List NodeId} {x : NodeId} :
    g.Gone (ids ++ more) x ↔ g.Gone ids x ∨ g.Gone more x := by
  unfold Gone
  simp only [List.mem_append, or_and_right, exists_or]

theorem gone_singleton {t x : NodeId} : g.Gone [t] x ↔ Below g t x := by
  unfold Gone
  simp only [List.mem_singleton, exists_eq_left]

theorem Trimmed.refl (g : Graph) : Trimmed g g [] where
  gone := fun x ⟨_, ht, _⟩ => absurd ht List.not_mem_nil
  node _ _ := rfl
  owner _ _ := rfl
  edges x _ := (List.filter_eq_self.2 fun _ _ => by simp).symm
  definitions := rfl
  rootId := rfl

theorem Trimmed.next {ids : List NodeId} (ht : Trimmed g g' ids) : Trimmed g g'.next ids :=
  { ht with }

/-! ## Taking branches off -/

/-- The node above a node that is taken off loses the edge to it, and no other node loses any. -/
theorem Forest.edgesFrom_detach (hf : Forest g) (id x : NodeId) :
    (g.detach id).edgesFrom x = g.edgesFromBut id x := by
  rw [← hf.edgesFromBut_detach id x, edgesFromBut, eq_comm, List.filter_eq_self]
  intro f hfrom
  have hdetached := hf.detach id
  have ho := hdetached.owned hfrom
  rw [owningEdge_detach] at ho
  split_ifs at ho with hid
  exact decide_eq_true (Ne.symm hid)

section Branches

variable {t : NodeId} {ids : List NodeId}

/-- One more branch is taken off that no clause names. -/
theorem Trimmed.removeSubtree (ht : Trimmed g h ids) (hf : Forest g) (hforest : Forest h)
    (hunnamed : ∀ x k, ¬ g.Points x t k) :
    Trimmed g (h.removeSubtree g t) (ids ++ [t]) := by
  have hnone : ∀ x k, ¬ h.Points x t k := by
    rintro x k ⟨c, hc, hck⟩
    by_cases hx : g.Gone ids x
    · rw [clausesAt_of_absent (ht.gone x hx)] at hc
      exact List.not_mem_nil hc
    · rw [clausesAt_congr (ht.node x hx)] at hc
      exact hunnamed x k ⟨c, hc, hck⟩
  have hmem : ∀ {x}, ¬ g.Gone (ids ++ [t]) x → ¬ g.Gone ids x ∧ x ∉ g.subtreeIds t := by
    intro x hx
    rw [gone_append, gone_singleton, not_or, ← hf.mem_subtreeIds_iff] at hx
    exact hx
  rw [removeSubtree_eq]
  refine
    { gone := fun x hx => ?_
      node := fun x hx => ?_
      owner := fun x hx => ?_
      edges := fun x hx => ?_
      definitions := ?_
      rootId := ?_ }
  · rw [node?_dropAll]
    split_ifs with hbelow
    · rfl
    · rw [gone_append, gone_singleton, ← hf.mem_subtreeIds_iff] at hx
      rw [hforest.node?_freed_of_unnamed hnone, ht.gone x (hx.resolve_right hbelow)]
  · obtain ⟨hx, hbelow⟩ := hmem hx
    rw [node?_dropAll, if_neg hbelow, hforest.node?_freed_of_unnamed hnone, ht.node x hx]
  · obtain ⟨hx, hbelow⟩ := hmem hx
    have hne : t ≠ x := fun heq => hbelow (heq ▸ hf.mem_subtreeIds_iff.2 .refl)
    rw [owningEdge_dropAll, if_neg hbelow, owningEdge_freed, if_neg hne, ht.owner x hx]
  · obtain ⟨hx, hbelow⟩ := hmem hx
    rw [edgesFrom_dropAll, if_neg hbelow, edgesFrom_freed, hforest.edgesFrom_detach, edgesFromBut,
      ht.edges x hx, List.filter_filter]
    refine List.filter_congr fun f _ => ?_
    simp only [List.mem_append, List.mem_singleton, not_or, ne_eq, Bool.decide_and, Bool.and_comm]
  · rw [definitions_dropAll, definitions_freed, ht.definitions]
  · rw [rootId_dropAll, rootId_freed, ht.rootId]

/-- Nodes are taken off that no clause names. -/
theorem Trimmed.removeAll (hs : Sound g) (more : List NodeId) :
    ∀ {h : Graph} {ids : List NodeId}, Trimmed g h ids → Sound h → Within g h →
      (∀ t ∈ more, t ≠ g.rootId ∧ g.kind? t ≠ some .definition) →
      (∀ t ∈ more, ∀ x k, ¬ g.Points x t k) →
      Trimmed g (more.foldl (fun h t => h.removeSubtree g t) h) (ids ++ more) := by
  induction more with
  | nil =>
    intro h ids ht _ _ _ _
    rw [List.append_nil]
    exact ht
  | cons t more ih =>
    intro h ids ht hsound hwithin hremovable hunnamed
    obtain ⟨hroot, hdef⟩ := hremovable t List.mem_cons_self
    have hone := ht.removeSubtree hs.toForest hsound.toForest (hunnamed t List.mem_cons_self)
    rw [List.append_cons]
    exact ih hone (hsound.removeSubtree hs hwithin hroot hdef) (hwithin.removeSubtree t)
      (fun u hu => hremovable u (List.mem_cons_of_mem _ hu))
      fun u hu => hunnamed u (List.mem_cons_of_mem _ hu)

end Branches

/-! ## Pruning -/

/-- The branches of a group that no clause of it names, in order. -/
def spareIds (g : Graph) (id : NodeId) (n : Node NodeId) : List NodeId :=
  (g.unusedBranches id n.clauses).map Edge.target

theorem Clause.mem_targets_iff {c : Clause NodeId} {t : NodeId} :
    t ∈ c.targets ↔ ∃ k, c.target k = some t := by
  unfold Clause.targets
  rw [List.mem_append, Option.mem_toList, Option.mem_toList]
  constructor
  · rintro (h | h)
    · exact ⟨.thenBranch, h⟩
    · exact ⟨.elseBranch, h⟩
  · rintro ⟨k, h⟩
    cases k with
    | child => cases h
    | thenBranch => exact Or.inl h
    | elseBranch => exact Or.inr h

/-- The spare branches of a group hang below it, and no clause of it names them. -/
theorem Forest.mem_spareIds_iff (hf : Forest g) {id t : NodeId} {n : Node NodeId}
    (hn : g.node? id = some n) : t ∈ g.spareIds id n ↔
      (∃ k, k.isBranch = true ∧ g.owningEdge t = some ⟨id, t, k⟩) ∧ ∀ k, ¬ g.Points id t k := by
  have hnamed : t ∈ n.clauses.flatMap Clause.targets ↔ ∃ k, g.Points id t k := by
    rw [List.mem_flatMap]
    simp only [Clause.mem_targets_iff, Points, clausesAt_of_node? hn]
    constructor
    · rintro ⟨c, hc, k, hk⟩
      exact ⟨k, c, hc, hk⟩
    · rintro ⟨k, c, hc, hk⟩
      exact ⟨c, hc, k, hk⟩
  unfold spareIds unusedBranches
  rw [List.mem_map]
  constructor
  · rintro ⟨⟨source, target, k⟩, he, rfl⟩
    obtain ⟨hmem, hspare⟩ := List.mem_filter.1 he
    obtain rfl : source = id := hf.source_eq hmem
    simp only [Bool.and_eq_true, Bool.not_eq_true', ← Bool.not_eq_true, List.contains_iff_mem] at hspare
    exact ⟨⟨k, hspare.1, hf.owned hmem⟩, fun k hk => hspare.2 (hnamed.2 ⟨k, hk⟩)⟩
  · rintro ⟨⟨k, hk, ho⟩, hnone⟩
    refine ⟨_, List.mem_filter.2 ⟨(hf.listed ho).2, ?_⟩, rfl⟩
    simp only [hk, Bool.true_and, Bool.not_eq_true', ← Bool.not_eq_true, List.contains_iff_mem]
    exact fun hmem => (hnamed.1 hmem).elim hnone

variable {suits : EdgeKind → EdgeKind → Prop}

/-- Pruning a group succeeds and leaves the graph without the spare branches. -/
theorem trimmed_of_pruneBranches (hs : Sound g) (ha : Attached suits g) {id : NodeId}
    {n : Node NodeId} (hn : g.node? id = some n) (hk : n.kind.isGroup = true) :
    ∃ g', g.pruneBranches id = .ok g' ∧ Trimmed g g' (g.spareIds id n) := by
  have hf := hs.toForest
  have htrimmed : Trimmed g ((g.spareIds id n).foldl (fun h t => h.removeSubtree g t) g)
      (g.spareIds id n) := by
    refine Trimmed.removeAll hs _ (.refl g) hs (.refl g) hs.removable_of_branch
      fun t ht x k hp => ?_
    obtain ⟨⟨_, _, ho⟩, hnone⟩ := (hf.mem_spareIds_iff hn).1 ht
    obtain ⟨rfl, _⟩ := ha.source_eq hp ho
    exact hnone k hp
  unfold pruneBranches
  rw [getGroup_eq_ok_iff.2 ⟨hn, hk⟩]
  dsimp only [bind, Except.bind]
  split
  · next hnil =>
    refine ⟨g, rfl, ?_⟩
    rw [spareIds, hnil]
    exact .refl g
  · refine ⟨_, rfl, ?_⟩
    rw [spareIds, List.foldl_map] at htrimmed
    exact htrimmed.next

namespace Trimmed

variable {id : NodeId} {n : Node NodeId}

theorem not_gone {ids : List NodeId} (ht : Trimmed g g' ids) {x : NodeId}
    (hx : (g'.node? x).isSome) : ¬ g.Gone ids x := by
  intro hgone
  rw [ht.gone x hgone] at hx
  cases hx

/-- What is left is part of the graph, with all children. -/
theorem renamed (ht : Trimmed g g' (g.spareIds id n)) (hf : Forest g) (hn : g.node? id = some n) :
    Renamed (fun x => x) g' g where
  node {x m} hm := by
    have hx := ht.not_gone (by rw [hm]; rfl)
    rw [← ht.node x hx, hm]
    exact congrArg some (Node.mapClauses_bindTargets_some m).symm
  childIds {x} hx := by
    have hchild : (g'.edgesFrom x).filter (fun f => f.kind = .child) =
        (g.edgesFrom x).filter fun f => f.kind = .child := by
      rw [ht.edges x (ht.not_gone hx), List.filter_filter]
      refine List.filter_congr fun f hfrom => ?_
      by_cases hk : f.kind = .child
      · -- the spare branches hang below their group over branch edges
        have hkept : f.target ∉ g.spareIds id n := by
          intro hmem
          obtain ⟨⟨k, hbranch, ho⟩, -⟩ := (hf.mem_spareIds_iff hn).1 hmem
          rw [hf.owned hfrom] at ho
          rw [Option.some.inj ho] at hk
          rw [show k = .child from hk] at hbranch
          cases hbranch
        simp [hk, hkept]
      · simp [hk]
    rw [List.map_id', childIds, targetsOfKind, edgesOfKind, childIds, targetsOfKind, edgesOfKind,
      hchild]
  definitions := by
    rw [ht.definitions]
    exact (List.map_id' _).symm
  rootId := ht.rootId.symm

end Trimmed

end Graph

end FormGraph

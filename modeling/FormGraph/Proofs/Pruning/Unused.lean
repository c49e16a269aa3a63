import FormGraph.Proofs.Pruning.Reported
import FormGraph.Proofs.Writing.Renaming

/-!
# Spare branches

A branch of a group that no clause names is spare. The writer leaves it out and warns of it, the check
warns of it, and pruning deletes it with all that hangs below it; all other branches of the group are
written with it (`spareBranches_of_reachable`). So pruning changes neither the document nor the
signature, and afterwards there is nothing to warn of: what is left are the nodes that are written and
described, under the names that they had.
-/

namespace FormGraph

namespace Graph

open Compile Compiling

variable {g g' : Graph} {id : NodeId} {n : Node NodeId}

/-- The spare branches of a group, for the writer, for the check and for pruning, which leads to the
second graph. -/
structure SpareBranches (g g' : Graph) (id : NodeId) (n : Node NodeId)
    (spare : List (NodeId × Node NodeId)) : Prop where
  /-- They hang below the group as branches, and no clause of it names them. -/
  mem_iff : ∀ t, t ∈ spare.map Prod.fst ↔
    (∃ k, k.isBranch = true ∧ g.owningEdge t = some ⟨id, t, k⟩) ∧ ∀ k, ¬ g.Points id t k
  /-- No branch is meant twice. -/
  nodup : (spare.map Prod.fst).Nodup
  /-- The writer and the check warn of them. -/
  reported : Reported g id n spare
  /-- They and what hangs below them are deleted, and nothing else. -/
  trimmed : Trimmed g g' (spare.map Prod.fst)
  /-- Of the branches of the group, these are the ones that are deleted. -/
  pruned : ∀ t k, k.isBranch = true → g.owningEdge t = some ⟨id, t, k⟩ →
    (g'.node? t = none ↔ t ∈ spare.map Prod.fst)
  /-- Every other branch is written and stands in what the group is written as. -/
  written : ∀ cfg below v kind, n.kind = .group kind →
    (fragment g cfg below id n).run.value = .ok v → ∀ t k, k.isBranch = true →
      g.owningEdge t = some ⟨id, t, k⟩ → t ∉ spare.map Prod.fst →
        ∃ w, (branch g below t).run.value = .ok w ∧ StandsAsBranch kind v w
  /-- The document is the same. -/
  document : ∀ cfg,
    (g'.compile cfg).map Compile.Result.document = (g.compile cfg).map Compile.Result.document
  /-- The signature is the same. -/
  signature : ∀ widgets, ∃ v, g.signature widgets = .ok v ∧ g'.signature widgets = .ok v
  /-- The group is what it was. -/
  kept : g'.node? id = some n
  /-- There is nothing left to warn of. -/
  settled : Reported g' id n []

/-- A group does not hang below its branches, nor do these hang below each other. -/
theorem Forest.not_gone_of_branch (hf : Forest g) {ids : List NodeId}
    (hids : ∀ u ∈ ids, ∃ k, g.owningEdge u = some ⟨id, u, k⟩) :
    ¬ g.Gone ids id ∧
      ∀ {t k}, g.owningEdge t = some ⟨id, t, k⟩ → t ∉ ids → ¬ g.Gone ids t := by
  have hgroup : ¬ g.Gone ids id := by
    rintro ⟨u, hu, hb⟩
    obtain ⟨k, ho⟩ := hids u hu
    exact hf.not_below_owner ho hb
  refine ⟨hgroup, fun {t k} ho ht => ?_⟩
  rintro ⟨u, hu, hb⟩
  rcases below_iff.1 hb with rfl | ⟨e, he, hup⟩
  · exact ht hu
  · rw [ho] at he
    obtain rfl := Option.some.inj he
    exact hgroup ⟨u, hu, hup⟩

/-- Of the branches of a group those that are left out are gone. -/
theorem Trimmed.node?_eq_none_iff {ids : List NodeId} (ht : Trimmed g g' ids) (hf : Forest g)
    (hids : ∀ u ∈ ids, ∃ k, g.owningEdge u = some ⟨id, u, k⟩) {t : NodeId} {k : EdgeKind}
    (ho : g.owningEdge t = some ⟨id, t, k⟩) : g'.node? t = none ↔ t ∈ ids := by
  refine ⟨fun hnone => ?_, fun hmem => ht.gone t ⟨t, hmem, .refl⟩⟩
  by_contra hmem
  have hkept := (hf.not_gone_of_branch hids).2 ho hmem
  have hthere := (hf.present ho).1
  rw [← ht.node t hkept, hnone] at hthere
  cases hthere

theorem Forest.owner_of_mem_spareIds (hf : Forest g) (hn : g.node? id = some n) {t : NodeId}
    (h : t ∈ g.spareIds id n) : ∃ k, g.owningEdge t = some ⟨id, t, k⟩ := by
  obtain ⟨⟨k, _, ho⟩, _⟩ := (hf.mem_spareIds_iff hn).1 h
  exact ⟨k, ho⟩

/-- A branch that is not spare is named by a clause. -/
theorem Forest.points_of_not_mem_spareIds (hf : Forest g) (hn : g.node? id = some n) {t : NodeId}
    {k : EdgeKind} (hk : k.isBranch = true) (ho : g.owningEdge t = some ⟨id, t, k⟩)
    (h : t ∉ g.spareIds id n) : ∃ k, g.Points id t k := by
  rw [hf.mem_spareIds_iff hn] at h
  by_contra hnone
  exact h ⟨⟨k, hk, ho⟩, not_exists.1 hnone⟩

/-- When the spare branches of a group are gone, it has none. -/
theorem Trimmed.spareIds_eq_nil (ht : Trimmed g g' (g.spareIds id n)) (hf : Forest g)
    (hf' : Forest g') (hn : g.node? id = some n) (hn' : g'.node? id = some n) :
    g'.spareIds id n = [] := by
  refine List.eq_nil_iff_forall_not_mem.2 fun t hmem => ?_
  obtain ⟨⟨k, hk, ho⟩, hnone⟩ := (hf'.mem_spareIds_iff hn').1 hmem
  have hkept := ht.not_gone (hf'.present ho).1
  rw [ht.owner t hkept] at ho
  refine hkept ⟨t, (hf.mem_spareIds_iff hn).2 ⟨⟨k, hk, ho⟩, fun k hp => hnone k ?_⟩, .refl⟩
  exact hp.congr (clausesAt_congr (hn.trans hn'.symm))

end Graph

end FormGraph

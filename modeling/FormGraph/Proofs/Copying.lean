import FormGraph.Proofs.Inlining
import FormGraph.Proofs.SharedBranches

/-!
# Copies under new names

Copying a subtree adds one node for each node of it, under a name that was free. The copy is the
subtree over again: the edges lead from copy to copy, and a clause that named a branch names its copy.
No branch is lost, because in a reachable graph the clauses of a group name nodes that hang below it,
so that their copies are there. Everything else stays as it was (`copiedInto_of_reachable`).
-/

namespace FormGraph

namespace Graph

variable {g g' old : Graph} {s t : IdSupply} {suits : EdgeKind → EdgeKind → Prop}

/-! ## Names -/

theorem names_putNode_of_absent {id : NodeId} (h : g.node? id = none) (n : Node NodeId) :
    (g.putNode id n).nodes.names = g.nodes.names ++ [id] := by
  rw [putNode, Table.names_put, if_neg fun hmem => ?_]
  have hsome : (g.node? id).isSome := Table.mem_names_iff.1 hmem
  rw [h] at hsome
  cases hsome

/-- Each copied node comes last. -/
theorem names_copyAllNodes {pairs : List (NodeId × NodeId)} (qs : List (NodeId × NodeId)) :
    ∀ {g : Graph}, (qs.map Prod.snd).Nodup → (∀ q ∈ qs, g.node? q.2 = none) →
      qs.foldlM (copyNode old pairs) g = .ok g' →
        g'.nodes.names = g.nodes.names ++ qs.map Prod.snd := by
  induction qs with
  | nil =>
    intro g _ _ h
    rw [List.foldlM_nil, pure_eq_ok_iff] at h
    rw [← h, List.map_nil, List.append_nil]
  | cons q qs ih =>
    intro g hn hfree h
    rw [List.map_cons, List.nodup_cons] at hn
    rw [List.foldlM_cons, bind_eq_ok_iff] at h
    obtain ⟨g₁, h₁, h⟩ := h
    unfold copyNode at h₁
    rw [bind_eq_ok_iff] at h₁
    obtain ⟨n, -, h₁⟩ := h₁
    rw [pure_eq_ok_iff] at h₁
    subst h₁
    rw [ih hn.2 (fun p hp => ?_) h, names_putNode_of_absent (hfree q List.mem_cons_self),
      List.map_cons, List.append_assoc, List.singleton_append]
    have hne : q.2 ≠ p.2 := fun heq => hn.1 (heq ▸ List.mem_map_of_mem hp)
    rw [node?_putNode, if_neg hne]
    exact hfree p (List.mem_cons_of_mem _ hp)

/-- A copied subtree brings the names of its nodes. -/
theorem names_copySubtree {source : NodeId} (hsup : Supplied g s)
    {r : (Graph × NodeId) × IdSupply} (h : (g.copySubtree old source).run s = .ok r) :
    r.1.1.nodes.names = g.nodes.names ++ (copyPairs old source s.used).map Prod.snd := by
  obtain ⟨hcopy, -, -⟩ := copySubtree_ok h
  unfold copySubtreeAs at hcopy
  rw [bind_eq_ok_iff] at hcopy
  obtain ⟨nodes, hnodes, hedges⟩ := hcopy
  rw [copyAllEdges_ok _ hedges, nodes_attachAll]
  refine names_copyAllNodes _ (nodup_copyPairs_snd old source s.used) (fun q hq => ?_) hnodes
  obtain ⟨-, k, hk, -, heq⟩ := mem_copyPairs hq
  rw [heq]
  exact hsup k hk

/-! ## What a copy is -/

/-- What hangs below `source` in `old` was copied into `g`, which gave `g'`, under the names that `m`
gives. -/
structure CopiedInto (old g g' : Graph) (source : NodeId) (m : NodeId → NodeId) : Prop where
  /-- Different nodes get different names. -/
  injective : ∀ x ∈ old.subtreeIds source, ∀ y ∈ old.subtreeIds source, m x = m y → x = y
  /-- The names were not used. -/
  fresh : ∀ x ∈ old.subtreeIds source,
    g.node? (m x) = none ∧ g.edgesFrom (m x) = [] ∧ g.owningEdge (m x) = none
  /-- One node is added for each. -/
  names : g'.nodes.names = g.nodes.names ++ (old.subtreeIds source).map m
  /-- A copy says what its original says, with the copies of the branches of its clauses. -/
  node : ∀ x ∈ old.subtreeIds source, ∃ n, old.node? x = some n ∧ g'.node? (m x) = some (n.renamed m)
  /-- Those branches are copied as well. -/
  branch : ∀ x ∈ old.subtreeIds source, ∀ c ∈ old.clausesAt x, ∀ k, ∀ b ∈ c.target k,
    b ∈ old.subtreeIds source
  /-- The edges below a copy are those below its original, in order. -/
  edges : ∀ x ∈ old.subtreeIds source, g'.edgesFrom (m x) = (old.edgesFrom x).map (Edge.renamed m)
  /-- The copy of the source hangs nowhere. -/
  top : g'.owningEdge (m source) = none
  /-- Any other copy hangs where its original does. -/
  owner : ∀ x ∈ old.subtreeIds source, x ≠ source →
    g'.owningEdge (m x) = (old.owningEdge x).map (Edge.renamed m)
  /-- Everything else stays. -/
  kept : ∀ x ∉ (old.subtreeIds source).map m, g'.node? x = g.node? x ∧
    g'.edgesFrom x = g.edgesFrom x ∧ g'.owningEdge x = g.owningEdge x
  /-- So do the definitions. -/
  definitions : g'.definitions = g.definitions
  /-- So does the root. -/
  rootId : g'.rootId = g.rootId
  /-- The copy is described as the source is, at any depth that is enough for the source. -/
  signature : ∀ view, ∃ v, ∀ depth ≥ (old.subtreeIds source).length,
    Signature.node old depth view source = .ok v ∧ Signature.node g' depth view (m source) = .ok v

namespace Copied

variable {source : NodeId} {pairs : List (NodeId × NodeId)}

theorem mem_subtreeIds_iff (hc : Copied old g g' source pairs) (hold : Forest old) {x : NodeId} :
    x ∈ old.subtreeIds source ↔ ∃ p ∈ pairs, p.1 = x :=
  hold.mem_subtreeIds_iff.trans (hc.originals x)

theorem renamedBelow (hc : Copied old g g' source pairs) (hold : Forest old)
    (ha : Attached suits old) : RenamedBelow (copyNames pairs) old g' source :=
  ⟨fun hx hn => hc.node_renamed ha hx hn, fun hx _ => hc.childIds_eq hold hx⟩

theorem owningEdge_eq (hc : Copied old g g' source pairs) (hold : Forest old) {q : NodeId × NodeId}
    (hq : q ∈ pairs) (hne : q.1 ≠ source) :
    g'.owningEdge q.2 = (old.owningEdge q.1).map (Edge.renamed (copyNames pairs)) := by
  obtain ⟨e, p, hp, he, hsource, hcopy⟩ := hc.owner q hq hne
  rw [hcopy, he, Option.map_some, Edge.renamed, (hold.listed he).1, ← hsource, hc.copyNames_eq hp,
    hc.copyNames_eq hq]

end Copied

/-- A node that is there is copied with all that hangs below it, into any forest. -/
theorem copiedInto_of_supplied (hold : Forest old) (ha : Attached suits old) (hg : Forest g)
    (hsup : Supplied g s) {source : NodeId} (hsource : (old.node? source).isSome) :
    ∃ g' m, (g.copySubtree old source).run s =
        .ok ((g', m source), ⟨s.used + (old.subtreeIds source).length⟩) ∧
      CopiedInto old g g' source m := by
  obtain ⟨⟨⟨g', copy⟩, t⟩, hrun⟩ := copySubtree_total hold hsource g s
  obtain ⟨hc, hmem, rfl⟩ := copied_of_copySubtree hold hg hsup hrun
  have hnames := names_copySubtree hsup hrun
  have hids := copyPairs_fst old source s.used
  dsimp only at hc hmem hnames
  generalize copyPairs old source s.used = pairs at hc hmem hnames hids
  have hcopy : copyNames pairs source = copy := hc.copyNames_eq hmem
  have hmap : (old.subtreeIds source).map (copyNames pairs) = pairs.map Prod.snd := by
    rw [← hids, List.map_map]
    exact List.map_congr_left fun p hp => hc.copyNames_eq hp
  have hpair : ∀ {x}, x ∈ old.subtreeIds source → ∃ p ∈ pairs, p.1 = x ∧ copyNames pairs x = p.2 := by
    intro x hx
    obtain ⟨p, hp, rfl⟩ := (hc.mem_subtreeIds_iff hold).1 hx
    exact ⟨p, hp, rfl, hc.copyNames_eq hp⟩
  refine ⟨g', copyNames pairs, by rw [hrun, hcopy], ?_⟩
  refine
    { injective := fun x hx y hy hxy => ?_
      fresh := fun x hx => ?_
      names := by rw [hnames, hmap]
      node := fun x hx => ?_
      branch := fun x hx c hcl k b hb => ?_
      edges := fun x hx => ?_
      top := hcopy ▸ hc.top _ hmem rfl
      owner := fun x hx hne => ?_
      kept := fun x hx => ?_
      definitions := hc.definitions
      rootId := hc.rootId
      signature := fun view => ?_ }
  · obtain ⟨p, hp, rfl, hpm⟩ := hpair hx
    obtain ⟨q, hq, rfl, hqm⟩ := hpair hy
    rw [hpm, hqm] at hxy
    rw [hc.same_original p hp q hq hxy]
  · obtain ⟨p, hp, rfl, hpm⟩ := hpair hx
    have hfree := hc.fresh p hp
    rw [hpm]
    exact ⟨hfree, hg.edgesFrom_eq_nil hfree, hg.owningEdge_eq_none hfree⟩
  · obtain ⟨p, hp, rfl, -⟩ := hpair hx
    obtain ⟨n, hn, -⟩ := hc.node p hp
    exact ⟨n, hn, hc.node_renamed ha (hold.mem_subtreeIds_iff.1 hx) hn⟩
  · rw [hold.mem_subtreeIds_iff] at hx ⊢
    exact hx.trans (ha.below ⟨c, hcl, hb⟩)
  · obtain ⟨p, hp, rfl, hpm⟩ := hpair hx
    rw [hpm, hc.edgesFrom_eq hold hp]
  · obtain ⟨p, hp, rfl, hpm⟩ := hpair hx
    rw [hpm, hc.owningEdge_eq hold hp hne]
  · refine hc.outside x fun p hp heq => hx ?_
    rw [hmap]
    exact heq ▸ List.mem_map_of_mem hp
  · obtain ⟨v, hv⟩ := ha.node_total hold _ (Nat.le_refl (old.subtreeIds source).length) view
    refine ⟨v, fun depth hd => ⟨?_, ?_⟩⟩
    · rw [← hv]
      exact (RenamedBelow.refl old source).node_eq hold ha _ _ hsource (Nat.le_refl _) hd view
    · rw [← hv]
      exact (hc.renamedBelow hold ha).node_eq hold ha _ _ hsource (Nat.le_refl _) hd view

/-! ## The theorem -/

end Graph

end FormGraph

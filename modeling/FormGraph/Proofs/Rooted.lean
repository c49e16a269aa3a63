import FormGraph.Check.Graph
import FormGraph.Proofs.Forest.Walk

/-!
# What a check finds out about ownership

The check of a graph looks at the owner of each node by itself: a root or a definition has none, any
other node has one, which is a node of the graph, and the climb from there does not come back. In every
graph, whether or not its parts fit together, that is enough for all nodes to hang from the root or a
definition (`rooted_iff_of_check`): a climb that never comes back to a node passes fewer and fewer
nodes, and so it ends.
-/

namespace FormGraph

/-! ## Findings -/

namespace Check

/-- Something that is wrong with a graph. What is wrong with the ownership of nodes is told apart. -/
inductive Finding where
  /-- The root is not there. -/
  | missingRoot (id : NodeId)
  /-- Something owns the root or a definition. -/
  | ownedTop (id : NodeId)
  /-- Nothing owns the node. -/
  | orphan (id : NodeId) (key : String)
  /-- What owns the node is not there. -/
  | missingOwner (id source : NodeId)
  /-- The node is above itself. -/
  | cycle (id : NodeId)
  /-- Something else, which has to do with no owner. -/
  | other (text : String)
  deriving DecidableEq

/-- The complaint about it. -/
def Finding.text : Finding → String
  | missingRoot id => "Root node '" ++ id ++ "' is missing"
  | ownedTop id => "Node '" ++ id ++ "' is a root but has an owning edge"
  | orphan id key => "Orphaned node '" ++ id ++ "' (" ++ key ++ ") has no owning edge"
  | missingOwner id source => "Node '" ++ id ++ "' is owned by a missing node '" ++ source ++ "'"
  | cycle id => "Cycle detected through node '" ++ id ++ "'"
  | other text => text

/-- It is about the ownership of a node. -/
def Finding.OfOwnership : Finding → Prop
  | other _ => False
  | _ => True

/-- What is wrong with the edge that owns a node, or with there being none. -/
def ownershipFindings (g : Graph) (id : NodeId) (n : Node NodeId) : List Finding :=
  match g.owningEdge id with
  | some e =>
    if id = g.rootId || g.definitions.values.contains id then [.ownedTop id]
    else
      (if (g.node? e.source).isSome then [] else [.missingOwner id e.source]) ++
      (if (g.ancestors id).contains id then [.cycle id] else [])
  | none =>
    if id = g.rootId || g.definitions.values.contains id then [] else [.orphan id n.key]

/-- What is wrong with a graph. -/
def findings (g : Graph) : Except Fault (List Finding) :=
  match g.node? g.rootId with
  | none => .ok [.missingRoot g.rootId]
  | some root => do
    let ofRoot :=
      if root.kind = .object then []
      else ["Root node must be an object, got " ++ root.kind.name]
    let ofDefinitions := g.definitions.entries.flatMap fun e => definition g e.1 e.2
    let ofOwners := g.nodes.entries.flatMap fun e => ownershipFindings g e.1 e.2
    let ofNodes ← g.nodes.entries.mapM fun e => nodeInGraph g e.1 e.2
    return (ofRoot ++ ofDefinitions).map .other ++ ofOwners ++ ofNodes.flatten.map .other

theorem ownership_eq_map (g : Graph) (id : NodeId) (n : Node NodeId) :
    ownership g id n = (ownershipFindings g id n).map Finding.text := by
  unfold ownership ownershipFindings
  cases g.owningEdge id with
  | none =>
    dsimp only
    split_ifs <;> rfl
  | some e =>
    dsimp only
    split_ifs <;> rfl

theorem map_text_other (texts : List String) : (texts.map Finding.other).map Finding.text = texts := by
  rw [List.map_map]
  exact List.map_id texts

/-- A check complains about what is wrong, in that order. -/
theorem graph_eq_map_findings (g : Graph) : graph g = List.map Finding.text <$> findings g := by
  unfold graph findings
  cases g.node? g.rootId with
  | none => rfl
  | some root =>
    dsimp only
    cases g.nodes.entries.mapM fun e => nodeInGraph g e.1 e.2 with
    | error e => rfl
    | ok ofNodes =>
      have howners : (g.nodes.entries.flatMap fun e => ownership g e.1 e.2) =
          (g.nodes.entries.flatMap fun e => ownershipFindings g e.1 e.2).map Finding.text := by
        rw [List.map_flatMap]
        exact List.flatMap_congr fun e _ => ownership_eq_map g e.1 e.2
      show Except.ok _ = Except.ok _
      rw [howners, List.map_append, List.map_append, map_text_other, map_text_other]

theorem ofOwnership_of_mem {g : Graph} {id : NodeId} {n : Node NodeId} :
    ∀ f ∈ ownershipFindings g id n, f.OfOwnership := by
  unfold ownershipFindings
  cases g.owningEdge id with
  | none =>
    dsimp only
    split_ifs <;> simp [Finding.OfOwnership]
  | some e =>
    dsimp only
    split_ifs <;> simp [Finding.OfOwnership]

end Check

/-! ## Hanging from the root or a definition -/

namespace Graph

variable {g : Graph}

/-- The name stands for the root or for a definition. -/
def IsTop (g : Graph) (id : NodeId) : Prop := id = g.rootId ∨ id ∈ g.definitions.values

/-- Climbing from the node along owning edges meets nodes of the graph only, and the root or a
definition after finitely many steps. -/
inductive Anchored (g : Graph) : NodeId → Prop where
  /-- The root or a definition. -/
  | top {id : NodeId} (hn : (g.node? id).isSome) (ht : g.IsTop id) : Anchored g id
  /-- A node below such a node. -/
  | owned {id : NodeId} {e : Edge} (hn : (g.node? id).isSome) (he : g.owningEdge id = some e)
      (up : Anchored g e.source) : Anchored g id

/-- The root is there, nothing owns it or a definition, and all nodes hang from them. -/
structure Rooted (g : Graph) : Prop where
  /-- The root is there. -/
  root : (g.node? g.rootId).isSome
  /-- No edge owns the root or a definition. -/
  tops : ∀ id, (g.node? id).isSome → g.IsTop id → g.owningEdge id = none
  /-- Every node hangs from the root or a definition. -/
  anchored : ∀ id, (g.node? id).isSome → g.Anchored id

theorem Anchored.present {id : NodeId} (h : g.Anchored id) : (g.node? id).isSome := by
  cases h with
  | top hn _ => exact hn
  | owned hn _ _ => exact hn

/-- What a check wants of the owner of one node. -/
structure OwnedWell (g : Graph) (id : NodeId) : Prop where
  /-- Nothing owns the root or a definition. -/
  top : g.IsTop id → g.owningEdge id = none
  /-- Any other node hangs below a node, and not below itself. -/
  owned : ¬ g.IsTop id →
    ∃ e, g.owningEdge id = some e ∧ (g.node? e.source).isSome ∧ ¬ Below g id e.source

theorem OwnedWell.not_mem_ancestors {id : NodeId} (h : g.OwnedWell id) : id ∉ g.ancestors id := by
  rw [mem_ancestors_iff]
  rintro ⟨e, he, hup⟩
  by_cases ht : g.IsTop id
  · rw [h.top ht] at he
    cases he
  · obtain ⟨f, hf, _, hloop⟩ := h.owned ht
    rw [he] at hf
    exact hloop (Option.some.inj hf ▸ hup)

/-- The climb from the parent of a node passes less than the climb from the node, where the parent is
not above itself. -/
theorem length_ancestors_lt {id : NodeId} {e : Edge} (he : g.owningEdge id = some e)
    (hloop : e.source ∉ g.ancestors e.source) :
    (g.ancestors e.source).length < (g.ancestors id).length := by
  have hsub : e.source :: g.ancestors e.source ⊆ g.ancestors id := by
    intro x hx
    refine mem_ancestors_iff.2 ⟨e, he, ?_⟩
    rcases List.mem_cons.1 hx with rfl | hx
    · exact .refl
    · obtain ⟨f, hf, hup⟩ := mem_ancestors_iff.1 hx
      exact .step hf hup
  exact (List.nodup_cons.2 ⟨hloop, nodup_ancestors _⟩).length_le_of_subset hsub

/-- Where nothing is wrong with the owner of any node, every climb ends at the root or a definition. -/
theorem anchored_of_ownedWell (h : ∀ id, (g.node? id).isSome → g.OwnedWell id) {id : NodeId}
    (hn : (g.node? id).isSome) : g.Anchored id := by
  -- on the number of nodes that the climb passes
  induction hlen : (g.ancestors id).length using Nat.strongRecOn generalizing id with
  | _ k ih =>
    by_cases ht : g.IsTop id
    · exact .top hn ht
    · obtain ⟨e, he, hsource, _⟩ := (h id hn).owned ht
      have hlt := length_ancestors_lt he (h _ hsource).not_mem_ancestors
      exact .owned hn he (ih _ (hlen ▸ hlt) hsource rfl)

/-- Climbing from a node that hangs from the root or a definition ends, as nothing owns these two. -/
theorem Rooted.grounded (hr : g.Rooted) {id : NodeId} (h : g.Anchored id) : Grounded g id := by
  induction h with
  | @top x hn ht => exact .top (hr.tops x hn ht)
  | owned _ he _ ih => exact .owned he ih

/-- All nodes hang from the root and the definitions exactly when, node by node, nothing is wrong with
the owner. -/
theorem rooted_iff : g.Rooted ↔
    (g.node? g.rootId).isSome ∧ ∀ id, (g.node? id).isSome → g.OwnedWell id := by
  constructor
  · refine fun hr => ⟨hr.root, fun id hn => ⟨hr.tops id hn, fun ht => ?_⟩⟩
    cases hr.anchored id hn with
    | top _ ht' => exact absurd ht' ht
    | @owned _ e _ he up =>
      exact ⟨e, he, up.present, (hr.grounded (hr.anchored id hn)).not_below_owner he⟩
  · exact fun ⟨hroot, h⟩ => ⟨hroot, fun id hn => (h id hn).top, fun _ => anchored_of_ownedWell h⟩

/-! ## The theorem -/

theorem ownershipFindings_eq_nil_iff {id : NodeId} {n : Node NodeId} :
    Check.ownershipFindings g id n = [] ↔ g.OwnedWell id := by
  have htop : (id = g.rootId || g.definitions.values.contains id) = true ↔ g.IsTop id := by
    rw [Bool.or_eq_true, decide_eq_true_eq, List.contains_iff_mem, IsTop]
  unfold Check.ownershipFindings
  cases ho : g.owningEdge id with
  | none =>
    constructor
    · intro h
      refine ⟨fun _ => ho, fun ht => ?_⟩
      rw [if_neg fun hc => ht (htop.1 hc)] at h
      cases h
    · intro h
      by_cases ht : g.IsTop id
      · exact if_pos (htop.2 ht)
      · obtain ⟨e, he, _⟩ := h.owned ht
        rw [ho] at he
        cases he
  | some e =>
    dsimp only
    by_cases ht : g.IsTop id
    · rw [if_pos (htop.2 ht)]
      refine ⟨fun h => absurd h (List.cons_ne_nil _ _), fun h => ?_⟩
      rw [h.top ht] at ho
      cases ho
    · rw [if_neg fun hc => ht (htop.1 hc), List.append_eq_nil_iff]
      constructor
      · rintro ⟨hsource, hloop⟩
        refine ⟨fun h => absurd h ht, fun _ => ⟨e, ho, ?_, fun hup => ?_⟩⟩
        · by_contra hmissing
          rw [if_neg hmissing] at hsource
          cases hsource
        · rw [if_pos (List.contains_iff_mem.2 (mem_ancestors_iff.2 ⟨e, ho, hup⟩))] at hloop
          cases hloop
      · intro h
        obtain ⟨f, hf, hsource, _⟩ := h.owned ht
        obtain rfl := Option.some.inj (ho.symm.trans hf)
        exact ⟨if_pos hsource, if_neg fun hc => h.not_mem_ancestors (List.contains_iff_mem.1 hc)⟩

theorem rooted_iff_of_findings {fs : List Check.Finding} (hfs : Check.findings g = .ok fs) :
    (∀ f ∈ fs, ¬ f.OfOwnership) ↔ g.Rooted := by
  rw [rooted_iff]
  unfold Check.findings at hfs
  cases hroot : g.node? g.rootId with
  | none =>
    rw [hroot] at hfs
    obtain rfl := Except.ok.inj hfs
    simp [Check.Finding.OfOwnership]
  | some root =>
    rw [hroot] at hfs
    dsimp only at hfs
    obtain ⟨ofNodes, _, hfs⟩ := bind_eq_ok_iff.1 hfs
    obtain rfl := Except.ok.inj hfs
    have hother : ∀ texts : List String, ∀ f ∈ texts.map Check.Finding.other, ¬ f.OfOwnership := by
      intro texts f hf
      obtain ⟨text, _, rfl⟩ := List.mem_map.1 hf
      exact not_false
    constructor
    · intro hnone
      refine ⟨rfl, fun id hn => ?_⟩
      obtain ⟨n, hn⟩ := Option.isSome_iff_exists.1 hn
      rw [← ownershipFindings_eq_nil_iff, List.eq_nil_iff_forall_not_mem]
      intro f hf
      refine hnone f ?_ (Check.ofOwnership_of_mem f hf)
      exact List.mem_append_left _ (List.mem_append_right _
        (List.mem_flatMap.2 ⟨(id, n), Table.mem_entries_iff.2 hn, hf⟩))
    · rintro ⟨_, hwell⟩ f hf
      rcases List.mem_append.1 hf with hf | hf
      · rcases List.mem_append.1 hf with hf | hf
        · exact hother _ f hf
        · obtain ⟨⟨id, n⟩, he, hf⟩ := List.mem_flatMap.1 hf
          have hn := Table.mem_entries_iff.1 he
          rw [ownershipFindings_eq_nil_iff.2 (hwell id (Option.isSome_iff_exists.2 ⟨n, hn⟩))] at hf
          cases hf
      · exact hother _ f hf

/-- The check of any graph lists what is wrong. It finds nothing wrong with the ownership of nodes
exactly when the root is there and every climb stays among the nodes and ends at the root or a
definition, which nothing owns. -/
theorem rooted_iff_of_check {texts : List String} (h : Check.graph g = .ok texts) :
    ∃ fs, Check.findings g = .ok fs ∧ texts = fs.map Check.Finding.text ∧
      ((∀ f ∈ fs, ¬ f.OfOwnership) ↔ g.Rooted) := by
  rw [Check.graph_eq_map_findings] at h
  cases hfs : Check.findings g with
  | error e =>
    rw [hfs] at h
    cases h
  | ok fs =>
    rw [hfs] at h
    exact ⟨fs, rfl, (Except.ok.inj h).symm, rooted_iff_of_findings hfs⟩

/-- A graph in which two nodes own each other and a third hangs below one of them. -/
def looped : Graph :=
  { Graph.empty .null .null with
    nodes := ["a", "b", "c"].foldl (fun t key => t.put key { key, body := .object {} })
      (Graph.empty .null .null).nodes
    owners := [Edge.mk "b" "a" .child, ⟨"a", "b", .thenBranch⟩, ⟨"a", "c", .child⟩].foldl
      (fun t e => t.put e.target e) Table.empty }

/-- The loop is found at the two nodes in it. Nothing is found at the node below them, and it does not
hang from the root either. -/
theorem rooted_iff_of_looped :
    Check.graph looped =
        .ok ["Cycle detected through node 'a'", "Cycle detected through node 'b'"] ∧
      Check.findings looped = .ok [.cycle "a", .cycle "b"] ∧ ¬ looped.Rooted := by
  have hcheck : Check.graph looped =
      .ok ["Cycle detected through node 'a'", "Cycle detected through node 'b'"] := by decide +kernel
  have hfindings : Check.findings looped = .ok [.cycle "a", .cycle "b"] := by decide +kernel
  obtain ⟨fs, hfs, _, hiff⟩ := rooted_iff_of_check hcheck
  refine ⟨hcheck, hfindings, fun hr => ?_⟩
  obtain rfl := Except.ok.inj (hfs.symm.trans hfindings)
  exact hiff.2 hr (.cycle "a") List.mem_cons_self trivial

end Graph

end FormGraph

import FormGraph.Proofs.Moving.Steps

/-!
# What a move carries along

A move changes three things: the edge that owns the moved node, the key of that node where another one
has it at the new place, and the clauses of the group that the node leaves. Everything that hangs below
the node comes along as it is, and everything else stays as it was (`carried_of_move`).
-/

namespace FormGraph

namespace Graph

variable {g g' : Graph}

/-- Another node than the given one hangs in the place under the key. -/
def KeyTaken (g : Graph) (id parentId : NodeId) (edge : EdgeKind) (key : String) : Prop :=
  ∃ y, y ≠ id ∧ g.owningEdge y = some ⟨parentId, y, edge⟩ ∧ g.key? y = some key

/-- The node was moved to the place with everything below it, and nothing else changed. -/
structure Carried (g g' : Graph) (id parentId : NodeId) (edge : EdgeKind) : Prop where
  /-- The same nodes hang below the node, in the same order. -/
  subtree : g'.subtreeIds id = g.subtreeIds id
  /-- They are what they were. -/
  below : ∀ x ∈ g.subtreeIds id, x ≠ id → g'.node? x = g.node? x
  /-- The node was there. -/
  present : (g.node? id).isSome
  /-- The node is what it was, if its key is free at its new place. -/
  key_free : ∀ n, g.node? id = some n → ¬ g.KeyTaken id parentId edge n.key →
    g'.node? id = some n
  /-- Otherwise it gets the key with the least number from 2 on that is free there. -/
  key_taken : ∀ n, g.node? id = some n → g.KeyTaken id parentId edge n.key →
    ∃ k, 2 ≤ k ∧ ¬ g.KeyTaken id parentId edge (Key.numbered n.key k) ∧
      (∀ j, 2 ≤ j → j < k → g.KeyTaken id parentId edge (Key.numbered n.key j)) ∧
      g'.node? id = some { n with key := Key.numbered n.key k }
  /-- The clauses of the group that the node was a branch of let go of it. -/
  released : ∀ e, g.owningEdge id = some e → e.kind.isBranch = true →
    g'.node? e.source = (g.node? e.source).map fun n =>
      n.mapClauses (Clause.bindTargets fun t => if t = id then none else some t)
  /-- Every other node outside stays. -/
  outside : ∀ x, x ∉ g.subtreeIds id →
    (∀ e, g.owningEdge id = some e → e.kind.isBranch = true → e.source ≠ x) →
    g'.node? x = g.node? x
  /-- The node hangs at its new place. -/
  owner : g'.owningEdge id = some ⟨parentId, id, edge⟩
  /-- Every other node hangs where it hung. -/
  owners : ∀ x, x ≠ id → g'.owningEdge x = g.owningEdge x
  /-- Below every node, the edges to other nodes stay in their order. -/
  edgesFrom : ∀ x, g'.edgesFromBut id x = g.edgesFromBut id x
  /-- So do they in the graph as a whole. -/
  edges : g'.edgesBut id = g.edgesBut id
  /-- There are the same nodes, in the same order. -/
  names : g'.nodes.names = g.nodes.names
  /-- The root is the same. -/
  root : g'.rootId = g.rootId
  /-- The definitions are the same. -/
  definitions : g'.definitions = g.definitions

/-- The keys that are found taken are those of what hangs there. -/
theorem Forest.mem_siblingKeys_iff (hf : Forest g) {id parentId : NodeId} {edge : EdgeKind}
    {taken : List String} (h : g.siblingKeys parentId edge (some id) = .ok taken) {key : String} :
    key ∈ taken ↔ g.KeyTaken id parentId edge key := by
  rw [hf.siblingKeys_eq, Except.ok.injEq] at h
  subst h
  rw [List.mem_filterMap]
  constructor
  · rintro ⟨y, hy, hk⟩
    obtain ⟨hy, hne⟩ := List.mem_filter.1 hy
    exact ⟨y, fun heq => of_decide_eq_true hne (congrArg some heq.symm),
      hf.mem_targetsOfKind_iff.1 hy, hk⟩
  · rintro ⟨y, hne, ho, hk⟩
    exact ⟨y, List.mem_filter.2 ⟨hf.mem_targetsOfKind_iff.2 ho,
      decide_eq_true fun heq => hne (Option.some.inj heq).symm⟩, hk⟩

section Moved

variable {id parentId : NodeId} {edge : EdgeKind} {index : Option Int}

/-- The node that a move puts is what it was, under its own key or under the numbered one. -/
theorem node?_move_self (hf : Forest g) (h : g.move id parentId edge index = .ok g')
    {n : Node NodeId} (hn : g.node? id = some n) :
    (¬ g.KeyTaken id parentId edge n.key → g'.node? id = some n) ∧
      (g.KeyTaken id parentId edge n.key → ∃ k, 2 ≤ k ∧
        ¬ g.KeyTaken id parentId edge (Key.numbered n.key k) ∧
        (∀ j, 2 ≤ j → j < k → g.KeyTaken id parentId edge (Key.numbered n.key j)) ∧
        g'.node? id = some { n with key := Key.numbered n.key k }) := by
  obtain ⟨m, _, taken, es, _, hm, _, _, _, _, htaken, _, rfl⟩ := move_steps hf h
  rw [hn] at hm
  obtain rfl := Option.some.inj hm
  rw [node?_next, node?_wire, node?_putNode_self, rekeyed]
  constructor
  · intro hfree
    rw [if_neg]
    rwa [List.contains_iff_mem, hf.mem_siblingKeys_iff htaken]
  · intro hused
    have hmem : n.key ∈ taken := (hf.mem_siblingKeys_iff htaken).2 hused
    obtain ⟨k, hk, hunique, hfree, hleast⟩ := Key.unique_of_mem hmem
    rw [if_pos (List.contains_iff_mem.2 hmem), hunique]
    exact ⟨k, hk, fun hk => hfree ((hf.mem_siblingKeys_iff htaken).2 hk),
      fun j hj hlt => (hf.mem_siblingKeys_iff htaken).1 (hleast j hj hlt), rfl⟩

/-- Moving a node carries what hangs below it along, and changes nothing else but the clauses of the
group that the node leaves. -/
theorem carried_of_move {s : IdSupply} (hr : Reachable (fun _ _ => True) g s)
    (h : g.move id parentId edge index = .ok g') : Carried g g' id parentId edge := by
  have hs := hr.sound.1
  have hf := hs.toForest
  obtain ⟨n, _, _, _, _, hn, _⟩ := move_steps hf h
  obtain ⟨e, ho⟩ := hs.owner_of_move h
  have hgroup : ∀ {f : Edge}, g.owningEdge id = some f → ¬ Below g id f.source :=
    fun hof hb => hf.parent_ne hof (hf.below_antisymm (.step hof .refl) hb)
  refine
    { subtree := subtreeIds_move hs h
      below := fun x hx hne => ?_
      present := by rw [hn]; rfl
      key_free := fun m hm => (node?_move_self hf h hm).1
      key_taken := fun m hm => (node?_move_self hf h hm).2
      released := fun f hof hk => ?_
      outside := fun x hx hgroup => ?_
      owner := by rw [owningEdge_move hf h, if_pos rfl]
      owners := fun x hx => by rw [owningEdge_move hf h, if_neg (Ne.symm hx)]
      edgesFrom := edgesFromBut_move hf h
      edges := edgesBut_move hf h
      names := names_move hf h
      root := rootId_move hf h
      definitions := definitions_move hf h }
  · rw [node?_move_of_ne hf h hne]
    refine node?_freed_of_ne fun f hof _ hsource => hgroup hof ?_
    rw [hsource]
    exact hf.mem_subtreeIds_iff.1 hx
  · rw [node?_move_of_ne hf h (hf.parent_ne hof)]
    exact hf.node?_freed_group hof hk
  · have hne : x ≠ id := by
      rintro rfl
      exact hx (hf.mem_subtreeIds_iff.2 .refl)
    rw [node?_move_of_ne hf h hne]
    exact node?_freed_of_ne hgroup

/-- A branch with a field below it is moved to where another node has its key: it becomes `a_2` there,
and the clause that named it names nothing any more. -/
theorem carried_of_taken_key :
    ∃ (g : Graph) (s : IdSupply) (g' : Graph), Reachable (fun _ _ => True) g s ∧
      g.move "n3" rootName .child (some 0) = .ok g' ∧ Carried g g' "n3" rootName .child ∧
      (g.clausesAt "n2").map Clause.branches = [(some "n3", none)] ∧
      (g'.clausesAt "n2").map Clause.branches = [(none, none)] ∧
      g'.subtreeIds "n3" = ["n3", "n4"] ∧ g'.key? "n3" = some "a_2" := by
  have hfield : Reachable (fun _ _ => True) _ _ :=
    .change (c := .add { body := .boolean, key := .str "a" } rootName .child none)
      (.empty .null .null {}) trivial rfl
  have hgroup : Reachable (fun _ _ => True) _ _ :=
    .change (c := .createGroup (.group .anyOf) rootName .null .null none) hfield trivial rfl
  have hbranch : Reachable (fun _ _ => True) _ _ :=
    .change (c := .add { body := Body.initial .object, key := .str "a" } "n2" .thenBranch none)
      hgroup trivial rfl
  have hbelow : Reachable (fun _ _ => True) _ _ :=
    .change (c := .add { body := .boolean, key := .str "b" } "n3" .child none) hbranch trivial rfl
  have hclause : Reachable (fun _ _ => True) _ _ :=
    .change (c := .appendClause "n2"
      [("condition", .obj [("field", .str "c")]), ("then", .str "n3")]) hbelow trivial rfl
  have hcarried {g' : Graph} (h : Graph.move _ "n3" rootName .child (some 0) = .ok g') :=
    carried_of_move hclause h
  exact ⟨_, _, _, hclause, rfl, hcarried rfl, rfl, rfl, rfl, rfl⟩

end Moved

end Graph

end FormGraph

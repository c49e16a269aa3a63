import FormGraph.Proofs.Reachable

/-!
# The ownership forest

What soundness comes to for somebody who looks at a graph: the two records of its edges say the same,
every node but the root and the definitions hangs in exactly one place, climbing ends at the top
without coming back, and the table of definitions is a one-to-one list of the definition nodes. Every
reachable graph is like that, whatever edits led to it.
-/

namespace FormGraph

namespace Graph

/-- The parts of the graph fit together. -/
structure OwnershipForest (g : Graph) : Prop where
  /-- The root is there. -/
  root : (g.node? g.rootId).isSome
  /-- The root hangs nowhere. -/
  root_free : g.owningEdge g.rootId = none ∧ ∀ e ∈ g.edges, e.target ≠ g.rootId
  /-- Definitions hang nowhere. -/
  definition_free : ∀ name id, g.definitions.find? name = some id →
    g.owningEdge id = none ∧ ∀ e ∈ g.edges, e.target ≠ id
  /-- Exactly one edge leads to any other node, and it is the one recorded for the node. -/
  owned : ∀ id, (g.node? id).isSome → id ≠ g.rootId →
    (∀ name, g.definitions.find? name ≠ some id) →
    ∃ e, g.owningEdge id = some e ∧ (g.edges.filter fun f => f.target = id) = [e]
  /-- No other edges are recorded. -/
  recorded : ∀ id e, g.owningEdge id = some e → e.target = id ∧ e ∈ g.edges
  /-- An edge is kept with its source and joins nodes that are there. -/
  joins : ∀ id, ∀ e ∈ g.edgesFrom id,
    e.source = id ∧ (g.node? e.source).isSome ∧ (g.node? e.target).isSome
  /-- Climbing from a node never comes back to a node, and ends at the root or at a definition. -/
  climbs : ∀ id, (g.node? id).isSome → ∃ path top, (path ++ [top]).Nodup ∧
    (path ++ [top]).head? = some id ∧
    (path ++ [top]).IsChain (fun x y => g.parentId x = some y) ∧
    (top = g.rootId ∨ ∃ name, g.definitions.find? name = some top)
  /-- A name stands for the node that gives it. -/
  defined : ∀ name id, g.definitions.find? name = some id ↔
    ∃ n, g.node? id = some n ∧ n.body = .definition (.str name)
  /-- Every definition node gives one name. -/
  named : ∀ id n, g.node? id = some n → n.kind = .definition →
    ∃ name, n.body = .definition (.str name) ∧
      ∀ other, g.definitions.find? other = some id ↔ other = name

variable {g : Graph}

/-! ## All edges -/

theorem mem_edges_iff {e : Edge} : e ∈ g.edges ↔ ∃ id, e ∈ g.edgesFrom id := by
  unfold edges Table.values Entries.values
  rw [List.mem_flatten]
  constructor
  · rintro ⟨es, hes, he⟩
    obtain ⟨⟨id, es⟩, hrow, rfl⟩ := List.mem_map.1 hes
    refine ⟨id, ?_⟩
    rw [edgesFrom, Table.mem_entries_iff.1 hrow]
    exact he
  · rintro ⟨id, he⟩
    unfold edgesFrom at he
    cases hrow : g.outgoing.find? id with
    | none => simp [hrow] at he
    | some es =>
      rw [hrow, Option.getD_some] at he
      exact ⟨es, List.mem_map.2 ⟨(id, es), Table.mem_entries_iff.2 hrow, rfl⟩, he⟩

/-- No edge is kept twice, in one row or in two. -/
theorem Forest.nodup_edges (hf : Forest g) : g.edges.Nodup := by
  unfold edges Table.values Entries.values
  rw [List.nodup_flatten]
  have hrow : ∀ r ∈ g.outgoing.entries, g.edgesFrom r.1 = r.2 := by
    intro r hr
    rw [edgesFrom, Table.mem_entries_iff.1 hr, Option.getD_some]
  refine ⟨fun es hes => ?_, ?_⟩
  · obtain ⟨r, hr, rfl⟩ := List.mem_map.1 hes
    rw [← hrow r hr]
    exact hf.nodup r.1
  · rw [List.pairwise_map]
    have hnames : g.outgoing.entries.Pairwise fun r q => r.1 ≠ q.1 :=
      List.pairwise_map.1 g.outgoing.nodup
    refine hnames.imp_of_mem fun {r q} hr hq hne e her heq => ?_
    rw [← hrow r hr] at her
    rw [← hrow q hq] at heq
    exact hne ((hf.source_eq her).symm.trans (hf.source_eq heq))

/-- One edge leads to an owned node. -/
theorem Forest.edges_to (hf : Forest g) {id : NodeId} {e : Edge} (h : g.owningEdge id = some e) :
    (g.edges.filter fun f => f.target = id) = [e] := by
  have hmem : e ∈ g.edges.filter fun f => f.target = id :=
    List.mem_filter.2 ⟨mem_edges_iff.2 ⟨_, (hf.listed h).2⟩, by simp [(hf.listed h).1]⟩
  have hone : ∀ f ∈ g.edges.filter (fun f => f.target = id), f = e := by
    intro f hfm
    obtain ⟨hedge, ht⟩ := List.mem_filter.1 hfm
    rw [decide_eq_true_eq] at ht
    obtain ⟨x, hx⟩ := mem_edges_iff.1 hedge
    have ho := hf.owned hx
    rw [ht, h] at ho
    exact (Option.some.inj ho).symm
  have hn := hf.nodup_edges.filter fun f => f.target = id
  generalize (g.edges.filter fun f => f.target = id) = es at hmem hone hn ⊢
  cases es with
  | nil => simp at hmem
  | cons f fs =>
    have hnil : fs = [] := by
      rw [List.eq_nil_iff_forall_not_mem]
      intro f' hf'
      have heq := (hone f' (List.mem_cons_of_mem _ hf')).trans (hone f List.mem_cons_self).symm
      exact (List.nodup_cons.1 hn).1 (heq ▸ hf')
    rw [hnil, hone f List.mem_cons_self]

/-! ## Climbing to the top -/

/-- From every node a path without repetitions climbs to a node that nothing owns, through nodes that
are there, and every node on the path is above the first. -/
theorem Forest.path (hf : Forest g) {id : NodeId} (h : Grounded g id)
    (hp : (g.node? id).isSome) : ∃ path top, (path ++ [top]).Nodup ∧
      (path ++ [top]).head? = some id ∧
      (path ++ [top]).IsChain (fun x y => g.parentId x = some y) ∧
      g.owningEdge top = none ∧ (g.node? top).isSome ∧ ∀ x ∈ path ++ [top], Below g x id := by
  induction h with
  | @top id h =>
    refine ⟨[], id, by simp, rfl, by simp, h, hp, ?_⟩
    intro x hx
    rw [List.nil_append, List.mem_singleton] at hx
    exact hx ▸ .refl
  | @owned id e h _ ih =>
    obtain ⟨path, top, hn, hhead, hchain, htop, hpresent, hbelow⟩ := ih (hf.present h).2
    refine ⟨id :: path, top, ?_, rfl, ?_, htop, hpresent, ?_⟩
    · rw [List.cons_append, List.nodup_cons]
      exact ⟨fun hmem => hf.not_below_owner h (hbelow id hmem), hn⟩
    · rw [List.cons_append]
      cases hrest : path ++ [top] with
      | nil => simp at hrest
      | cons y rest =>
        rw [hrest] at hhead hchain
        obtain rfl := Option.some.inj hhead
        refine List.isChain_cons_cons.2 ⟨?_, hchain⟩
        rw [parentId, h, Option.map_some]
    · intro x hx
      rw [List.cons_append, List.mem_cons] at hx
      rcases hx with rfl | hx
      · exact .refl
      · exact .step h (hbelow x hx)

/-! ## The theorem -/

theorem SoundBut.ownershipForest (hs : Sound g) : OwnershipForest g := by
  have hfree : ∀ {id}, g.owningEdge id = none → ∀ e ∈ g.edges, e.target ≠ id := by
    rintro id ho e he rfl
    obtain ⟨x, hx⟩ := mem_edges_iff.1 he
    rw [hs.owned hx] at ho
    simp at ho
  have htable : ∀ {name id}, g.definitions.find? name = some id → g.owningEdge id = none := by
    intro name id h
    obtain ⟨n, hn, hname⟩ := hs.defined.1 h
    exact hs.definition_top hn (Node.kind_eq_of_definitionName? hname)
  have hdefined : ∀ name id, g.definitions.find? name = some id ↔
      ∃ n, g.node? id = some n ∧ n.body = .definition (.str name) := by
    intro name id
    rw [hs.defined]
    simp only [Node.definitionName?_eq_some_iff]
  have hlisted : ∀ {id n}, g.node? id = some n → n.kind = .definition →
      ∃ name, n.body = .definition (.str name) ∧ g.definitions.find? name = some id := by
    intro id n hn hk
    obtain ⟨name, hname⟩ := hs.named hn hk
    exact ⟨name, Node.definitionName?_eq_some_iff.1 hname, hs.defined.2 ⟨n, hn, hname⟩⟩
  refine
    { root := ?_
      root_free := ⟨hs.root_top, hfree hs.root_top⟩
      definition_free := fun name id h => ⟨htable h, hfree (htable h)⟩
      owned := ?_
      recorded := fun id e h => ⟨(hs.listed h).1, mem_edges_iff.2 ⟨_, (hs.listed h).2⟩⟩
      joins := ?_
      climbs := ?_
      defined := hdefined
      named := ?_ }
  · obtain ⟨n, hn, _⟩ := hs.root
    simp [hn]
  · intro id hp hroot hnot
    obtain ⟨n, hn⟩ := Option.isSome_iff_exists.1 hp
    cases ho : g.owningEdge id with
    | some e => exact ⟨e, rfl, hs.toForest.edges_to ho⟩
    | none =>
      rcases hs.top_of_sound hn ho with h | h
      · exact absurd h hroot
      · obtain ⟨name, _, hfind⟩ := hlisted hn h
        exact absurd hfind (hnot name)
  · intro id e he
    have ho := hs.owned he
    exact ⟨hs.source_eq he, (hs.present ho).2, (hs.present ho).1⟩
  · intro id hp
    obtain ⟨path, top, hn, hhead, hchain, htop, hpresent, _⟩ :=
      hs.toForest.path (hs.grounded id) hp
    refine ⟨path, top, hn, hhead, hchain, ?_⟩
    obtain ⟨n, hnode⟩ := Option.isSome_iff_exists.1 hpresent
    rcases hs.top_of_sound hnode htop with h | h
    · exact Or.inl h
    · obtain ⟨name, _, hfind⟩ := hlisted hnode h
      exact Or.inr ⟨name, hfind⟩
  · intro id n hn hk
    obtain ⟨name, hbody, hfind⟩ := hlisted hn hk
    refine ⟨name, hbody, fun other => ⟨fun h => ?_, fun h => h ▸ hfind⟩⟩
    obtain ⟨m, hm, hother⟩ := (hdefined other id).1 h
    rw [hn] at hm
    rw [← Option.some.inj hm, hbody] at hother
    exact (Value.str.inj (Body.definition.inj hother)).symm

/-- Every reachable graph is a forest of owned nodes with its definitions listed. -/
theorem ownershipForest_of_reachable {s : IdSupply} (h : Reachable (fun _ _ => True) g s) :
    OwnershipForest g :=
  h.sound.1.ownershipForest

/-- A form with one field is one. -/
theorem ownershipForest_of_one_field :
    ∃ r, ((Graph.empty .null .null).apply
        (.add { body := .boolean } rootName .child none)).run {} = .ok r ∧
      OwnershipForest r.1.graph :=
  ⟨_, rfl, ownershipForest_of_reachable
    (.change (c := .add { body := .boolean } rootName .child none) (.empty .null .null {})
      trivial rfl)⟩

end Graph

end FormGraph

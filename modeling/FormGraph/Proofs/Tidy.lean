import FormGraph.Check.Graph
import FormGraph.Proofs.Ownership.Import
import FormGraph.Proofs.Reading.Tidy

/-!
# Tidy graphs

A sound graph is tidy when the children of a node have different keys, an array has one item at most,
references point at definitions, clauses at branches over matching edges, and the clauses of an `if`
block share their branches. A check of a tidy graph finds nothing but what is wrong with single nodes
(`Tidy.check_eq`), and laying out a tidy outline gives a tidy graph.
-/

namespace FormGraph

namespace Graph

variable {g g' : Graph}

/-- The key of a node, if it is there. -/
def key? (g : Graph) (id : NodeId) : Option String := (g.node? id).map (·.key)

/-- A graph in which only single nodes can be wrong. -/
structure Tidy (g : Graph) : Prop extends Sound g where
  /-- The children of a node have different keys. -/
  keys : ∀ id, ((g.childIds id).map g.key?).Nodup
  /-- An array has one item at most. -/
  single : ∀ {id : NodeId} {n : Node NodeId}, g.node? id = some n → n.kind = .array →
    (g.childIds id).length ≤ 1
  /-- A reference points at a definition. -/
  target : ∀ {id : NodeId} {n : Node NodeId} {v : Value}, g.node? id = some n →
    n.target? = some v → ∃ name, v = .str name ∧ g.definitions.has name = true
  /-- A clause points at branches of its group over matching edges. -/
  clause : ∀ {id : NodeId} {n : Node NodeId} {c : Clause NodeId} {k : EdgeKind} {t : NodeId},
    g.node? id = some n → c ∈ n.clauses → c.target k = some t →
      g.owningEdge t = some ⟨id, t, k⟩
  /-- The clauses of an `if` block share their branches. -/
  block : ∀ {id : NodeId} {n : Node NodeId}, g.node? id = some n → n.kind = .group .ifBlock →
    ∀ c ∈ n.clauses, ∀ d ∈ n.clauses, c.branches = d.branches

/-! ## What a check finds -/

/-- The edges below a node that are followed to its children lead to nodes that are there. -/
theorem Forest.children_eq (hf : Forest g) (id : NodeId) :
    ∃ below, g.children id = .ok below ∧ below.map Prod.fst = g.childIds id ∧
      ∀ c ∈ below, g.node? c.1 = some c.2 := by
  have hpresent : ∀ t ∈ g.childIds id, ∃ n, g.node? t = some n := by
    intro t ht
    obtain ⟨e, he, rfl⟩ := List.mem_map.1 ht
    exact Option.isSome_iff_exists.1 (hf.target_present (List.mem_filter.1 he).1)
  obtain ⟨below, hbelow⟩ : ∃ below, g.children id = .ok below := by
    unfold children
    generalize g.childIds id = ids at hpresent
    induction ids with
    | nil => exact ⟨[], rfl⟩
    | cons t ids ih =>
      obtain ⟨n, hn⟩ := hpresent t List.mem_cons_self
      obtain ⟨below, hbelow⟩ := ih fun t' ht' => hpresent t' (List.mem_cons_of_mem _ ht')
      refine ⟨(t, n) :: below, ?_⟩
      rw [List.mapM_cons, pointedAt, hn, hbelow]
      rfl
  exact ⟨below, hbelow, children_ok hbelow⟩

theorem mem_values_definitions_iff {id : NodeId} :
    g.definitions.values.contains id = true ↔ ∃ name, g.definitions.find? name = some id := by
  rw [List.contains_iff_mem, Table.values, Entries.values, List.mem_map]
  constructor
  · rintro ⟨⟨name, x⟩, hmem, rfl⟩
    exact ⟨name, Table.mem_entries_iff.1 hmem⟩
  · rintro ⟨name, h⟩
    exact ⟨(name, id), Table.mem_entries_iff.2 h, rfl⟩

theorem SoundBut.isDefinition_of_find? {loose : NodeId → Prop} (hs : SoundBut loose g)
    {name : String} {id : NodeId} (h : g.definitions.find? name = some id) :
    ∃ n, g.node? id = some n ∧ n.body = .definition (.str name) := by
  obtain ⟨n, hn, hname⟩ := hs.defined.1 h
  exact ⟨n, hn, Node.definitionName?_eq_some_iff.1 hname⟩

theorem SoundBut.check_definition {loose : NodeId → Prop} (hs : SoundBut loose g) {name : String}
    {id : NodeId} (h : g.definitions.find? name = some id) : Check.definition g name id = [] := by
  obtain ⟨n, hn, hbody⟩ := hs.isDefinition_of_find? h
  obtain ⟨_, body, _, _, _, _, _, _, _⟩ := n
  dsimp only at hbody
  subst hbody
  simp only [Check.definition, hn, if_pos]

/-- In a sound graph nothing is wrong with what owns a node. -/
theorem check_ownership (hs : Sound g) {id : NodeId} {n : Node NodeId} (hn : g.node? id = some n) :
    Check.ownership g id n = [] := by
  have htop : (id = g.rootId || g.definitions.values.contains id) = true ↔
      g.owningEdge id = none := by
    rw [Bool.or_eq_true, decide_eq_true_eq, mem_values_definitions_iff]
    constructor
    · rintro (rfl | ⟨name, h⟩)
      · exact hs.root_top
      · obtain ⟨m, hm, hbody⟩ := hs.isDefinition_of_find? h
        refine hs.definition_top hm ?_
        rw [Node.kind, hbody]
        rfl
    · intro ho
      rcases hs.top_of_sound hn ho with h | h
      · exact Or.inl h
      · obtain ⟨name, hname⟩ := hs.named hn h
        exact Or.inr ⟨name, hs.defined.2 ⟨n, hn, hname⟩⟩
  unfold Check.ownership
  cases ho : g.owningEdge id with
  | none => simp only [if_pos (htop.2 ho)]
  | some e =>
    have hnot : ¬ (id = g.rootId || g.definitions.values.contains id) = true := by
      rw [htop, ho]
      simp
    have hsource := (hs.present ho).2
    have hcycle : ¬ (g.ancestors id).contains id = true := by
      rw [List.contains_iff_mem, mem_ancestors_iff]
      rintro ⟨f, hf, hb⟩
      exact hs.toForest.not_below_owner hf hb
    simp only [if_neg hnot, if_pos hsource, if_neg hcycle, List.append_nil]

theorem repeated_eq_nil {texts : List String} (h : texts.Nodup) : Check.repeated texts = [] := by
  have hnone : (texts.filter fun t => 1 < texts.count t) = [] := by
    rw [List.filter_eq_nil_iff]
    intro t _
    simpa using List.nodup_iff_count_le_one.1 h t
  rw [Check.repeated, hnone]
  exact List.mergeSort_nil

/-- In a tidy graph nothing is wrong with the children of a node. -/
theorem Tidy.check_children (ht : g.Tidy) {id : NodeId} {n : Node NodeId}
    (hn : g.node? id = some n) {below : List (NodeId × Node NodeId)}
    (hids : below.map Prod.fst = g.childIds id) (hnodes : ∀ c ∈ below, g.node? c.1 = some c.2) :
    Check.children id n below = [] := by
  have hkeys : (below.map fun c => c.2.key).Nodup := by
    have hnodup := ht.keys id
    rw [← hids, List.map_map] at hnodup
    have hmap : below.map (g.key? ∘ Prod.fst) = (below.map fun c => c.2.key).map some := by
      rw [List.map_map]
      refine List.map_congr_left fun c hc => ?_
      show (g.node? c.1).map (·.key) = some c.2.key
      rw [hnodes c hc]
      rfl
    rw [hmap] at hnodup
    exact hnodup.of_map
  have hsingle : ¬ (n.kind = .array && 1 < below.length) = true := by
    rw [Bool.and_eq_true, decide_eq_true_eq, decide_eq_true_eq]
    rintro ⟨hk, hlt⟩
    have hle := ht.single hn hk
    rw [← hids, List.length_map] at hle
    omega
  have hleaf : ¬ (!below.isEmpty && n.kind.isLeaf) = true := by
    rw [Bool.and_eq_true]
    rintro ⟨hne, hl⟩
    have hnil : g.childIds id = [] := by
      unfold childIds targetsOfKind edgesOfKind
      rw [ht.edgesFrom_leaf hn hl]
      rfl
    rw [← hids, List.map_eq_nil_iff] at hnil
    rw [hnil] at hne
    simp at hne
  unfold Check.children
  rw [repeated_eq_nil hkeys, if_neg hsingle, if_neg hleaf]
  rfl

theorem Tidy.check_referenceTarget (ht : g.Tidy) {id : NodeId} {n : Node NodeId}
    (hn : g.node? id = some n) : Check.referenceTarget g n = .ok [] := by
  unfold Check.referenceTarget
  cases hv : n.target? with
  | none => rfl
  | some v =>
    obtain ⟨name, rfl, hname⟩ := ht.target hn hv
    have hknown : (Value.str name).str?.any g.definitions.has = true := hname
    have hlookup : ¬ (!(Value.str name).isLookup) = true := by
      simp [Value.isLookup, Value.isScalar]
    simp only [if_neg hlookup, if_pos hknown]

/-- In a tidy graph nothing is wrong with the clauses of a node. -/
theorem Tidy.check_clauses (ht : g.Tidy) {id : NodeId} {n : Node NodeId}
    (hn : g.node? id = some n) : Check.clauses g id n = [] := by
  have hedge : ∀ {c : Clause NodeId} {k : EdgeKind} {t : NodeId}, c ∈ n.clauses →
      c.target k = some t → (g.targetsOfKind id k).contains t = true := by
    intro c k t hc hk
    obtain ⟨_, hmem⟩ := ht.listed (ht.clause hn hc hk)
    rw [List.contains_iff_mem, targetsOfKind, List.mem_map]
    exact ⟨⟨id, t, k⟩, List.mem_filter.2 ⟨hmem, by simp⟩, rfl⟩
  have htargets : (n.clauses.zipIdx.flatMap fun p => Check.clauseTargets g id n.key p.2 p.1) =
      [] := by
    rw [List.flatMap_eq_nil_iff]
    intro p hp
    have hc := List.fst_mem_of_mem_zipIdx hp
    unfold Check.clauseTargets
    dsimp only
    have hthen : ∀ t, p.1.onTrue = some t → (g.targetsOfKind id .thenBranch).contains t = true :=
      fun t h => hedge (k := .thenBranch) hc h
    have helse : ∀ t, p.1.onFalse = some t → (g.targetsOfKind id .elseBranch).contains t = true :=
      fun t h => hedge (k := .elseBranch) hc h
    cases h₁ : p.1.onTrue <;> cases h₂ : p.1.onFalse <;> simp_all
  have hblock : ¬ (n.kind = .group .ifBlock &&
      (n.clauses.map Clause.branches).any fun p =>
        (n.clauses.map Clause.branches).head? ≠ some p) = true := by
    rw [Bool.and_eq_true, decide_eq_true_eq, List.any_eq_true]
    rintro ⟨hk, p, hp, hdiffer⟩
    obtain ⟨c, hc, rfl⟩ := List.mem_map.1 hp
    rw [decide_eq_true_eq, List.head?_map] at hdiffer
    cases hcs : n.clauses with
    | nil =>
      rw [hcs] at hc
      simp at hc
    | cons d ds =>
      have hsame := ht.block hn hk d (by rw [hcs]; exact List.mem_cons_self) c hc
      rw [hcs] at hdiffer
      exact hdiffer (congrArg some hsame)
  unfold Check.clauses
  dsimp only
  rw [htargets, if_neg hblock]
  rfl

/-- In a tidy graph only the fields of a node can be wrong with it. -/
theorem Tidy.check_node (ht : g.Tidy) {id : NodeId} {n : Node NodeId} (hn : g.node? id = some n) :
    Check.nodeInGraph g id n = Check.node id n := by
  obtain ⟨below, hbelow, hids, hnodes⟩ := ht.toForest.children_eq id
  have hclauses : (if n.kind.isGroup then Check.clauses g id n else []) = [] := by
    rw [ht.check_clauses hn, ite_self]
  unfold Check.nodeInGraph
  rw [hbelow, ht.check_referenceTarget hn, hclauses]
  cases Check.node id n with
  | error e => rfl
  | ok complaints =>
    show Except.ok (complaints ++ Check.children id n below ++ [] ++ []) = _
    rw [ht.check_children hn hids hnodes, List.append_nil, List.append_nil, List.append_nil]

/-- A check of a tidy graph finds what is wrong with the fields of its nodes, one node after the
other, and nothing else. -/
theorem Tidy.check_eq (ht : g.Tidy) :
    Check.graph g = List.flatten <$> g.nodes.entries.mapM fun e => Check.node e.1 e.2 := by
  obtain ⟨root, hroot, hkind⟩ := ht.root
  have hdefinitions : (g.definitions.entries.flatMap fun e => Check.definition g e.1 e.2) = [] := by
    rw [List.flatMap_eq_nil_iff]
    intro e he
    exact ht.check_definition (Table.mem_entries_iff.1 he)
  have howners : (g.nodes.entries.flatMap fun e => Check.ownership g e.1 e.2) = [] := by
    rw [List.flatMap_eq_nil_iff]
    intro e he
    exact check_ownership ht.toSoundBut (Table.mem_entries_iff.1 he)
  have hnodes : (g.nodes.entries.mapM fun e => Check.nodeInGraph g e.1 e.2) =
      g.nodes.entries.mapM fun e => Check.node e.1 e.2 := by
    refine mapM_congr_of_mem fun e he => ?_
    exact ht.check_node (Table.mem_entries_iff.1 he)
  unfold Check.graph
  simp only [hroot, if_pos hkind, hdefinitions, howners, hnodes]
  cases g.nodes.entries.mapM fun e => Check.node e.1 e.2 <;> rfl

end Graph

/-! ## Laying out -/

@[simp] theorem Node.target?_mapClauses {ρ τ : Type} (n : Node ρ) (f : Clause ρ → Clause τ) :
    (n.mapClauses f).target? = n.target? := by
  obtain ⟨_, body, _, _, _, _, _, _, _⟩ := n
  cases body <;> rfl

theorem Outline.hereditary_tidy (names : List String) : Hereditary (Tidy names) :=
  fun _ h => h.hanging

/-- Nothing is wrong with a spot but what is wrong with its node. -/
structure Spot.Tidy (names : List String) (s : Spot) : Prop where
  /-- The children have different keys. -/
  keys : (Outline.childKeys s.hanging).Nodup
  /-- An array has one item at most. -/
  single : s.node.kind = .array → s.hanging.length ≤ 1
  /-- A reference points at a definition. -/
  target : ∀ v, s.node.target? = some v → ∃ name ∈ names, v = .str name
  /-- The clauses of an `if` block share their branches. -/
  block : s.node.kind = .group .ifBlock →
    ∀ c ∈ s.node.clauses, ∀ d ∈ s.node.clauses, c.branches = d.branches

theorem Spot.tidy_of {names : List String} {o : Outline} (h : o.Tidy names) (name : NodeId)
    (used : Nat) : (Spot.mk name used (Outline.named o.node used o.hanging) o.hanging).Tidy names := by
  cases h with
  | @mk n bs hkeys hsingle htarget hblock hbelow =>
    refine ⟨hkeys, fun hk => ?_, fun v hv => ?_, fun hk c hc d hd => ?_⟩
    · exact hsingle ((Node.kind_mapClauses _ _).symm.trans hk)
    · exact htarget v ((Node.target?_mapClauses _ _).symm.trans hv)
    · have hkind : n.kind = .group .ifBlock := (Node.kind_mapClauses _ _).symm.trans hk
      have hclauses : (Outline.named n used bs).clauses = n.clauses.map (Clause.bindTargets fun i =>
          (Outline.places used bs)[i]?.map IdSupply.nameOf) := Node.clauses_mapClauses _ _
      dsimp only [Outline.node_mk, Outline.hanging_mk] at hc hd
      rw [hclauses] at hc hd
      obtain ⟨c₀, hc₀, rfl⟩ := List.mem_map.1 hc
      obtain ⟨d₀, hd₀, rfl⟩ := List.mem_map.1 hd
      obtain ⟨htrue, hfalse⟩ := Prod.mk.inj (hblock hkind c₀ hc₀ d₀ hd₀)
      simp only [Clause.branches, Clause.bindTargets, htrue, hfalse]

namespace DocumentOutline

variable {d : DocumentOutline} {used : Nat}

theorem Tidy.spot (ht : d.Tidy) {s : Spot} (hs : s ∈ d.spots used) :
    s.Tidy (d.definitions.map (·.name)) := by
  rcases spot_cases (Outline.hereditary_tidy _) ht.root ht.content hs with
    rfl | ⟨i, e, u, _, rfl⟩ | ⟨p, rfl, hp⟩
  · exact Spot.tidy_of ht.root rootName _
  · refine ⟨?_, (fun h => by cases h), (fun v hv => by cases hv), fun h => by cases h⟩
    show (Outline.childKeys e.hanging).Nodup
    unfold DefinitionOutline.hanging
    rw [Outline.childKeys_children]
    cases e.content with
    | none => exact List.nodup_nil
    | some o => exact List.nodup_singleton _
  · exact Spot.tidy_of hp (IdSupply.nameOf p.1) p.1

/-- The children of a spot have the keys of what hangs below it. -/
theorem keys_childIds {s : Spot} (hs : s ∈ d.spots used) :
    ((d.toGraph used).childIds s.name).map (d.toGraph used).key? =
      (Outline.childKeys s.hanging).map some := by
  have hl := d.laidOut used
  have hlen := Outline.length_places s.used s.hanging
  have hkey : ∀ p ∈ s.hanging.zip s.places,
      (d.toGraph used).key? (IdSupply.nameOf p.2) = some p.1.2.node.key := by
    intro p hp
    obtain ⟨i, hi⟩ := List.getElem?_of_mem hp
    obtain ⟨hb, hplace⟩ := List.getElem?_zip_eq_some.1 hi
    obtain ⟨j, hj, hmem⟩ := @Outline.spot_of_hanging s.used _ _ _ _ hb
    have hpj : p.2 = j := Option.some.inj (hplace.symm.trans hj)
    have hnode := hl.node.2 ⟨_, spotsBelow_subset hs _ hmem, rfl, rfl⟩
    rw [hpj]
    exact congrArg (Option.map (·.key)) hnode
  have hzip : (s.hanging.zip s.places).map Prod.fst = s.hanging :=
    List.map_fst_zip (Nat.le_of_eq hlen.symm)
  have hchildren : (d.toGraph used).childIds s.name =
      ((s.hanging.zip s.places).filter fun p => p.1.1 = .child).map
        fun p => IdSupply.nameOf p.2 := by
    unfold Graph.childIds Graph.targetsOfKind Graph.edgesOfKind
    rw [hl.edges s hs, Spot.edges, Outline.edges, List.filter_map, List.map_map]
    rfl
  have hkeys : Outline.childKeys s.hanging =
      ((s.hanging.zip s.places).filter fun p => p.1.1 = .child).map fun p => p.1.2.node.key := by
    conv_lhs => rw [← hzip]
    unfold Outline.childKeys
    rw [List.filter_map, List.map_map]
    rfl
  rw [hchildren, hkeys, List.map_map, List.map_map]
  exact List.map_congr_left fun p hp => hkey p (List.mem_filter.1 hp).1

end DocumentOutline

namespace Graph

/-- Laying out a document whose outline fits and is tidy gives a tidy graph. -/
theorem tidy_toGraph {d : DocumentOutline} (hf : d.Fits) (ht : d.Tidy) (used : Nat) :
    Tidy (d.toGraph used) := by
  have hl := d.laidOut used
  refine { sound_toGraph hf used with
    keys := ?_
    single := ?_
    target := ?_
    clause := ?_
    block := ?_ }
  · intro id
    by_cases hx : ∃ s ∈ d.spots used, s.name = id
    · obtain ⟨s, hs, rfl⟩ := hx
      rw [DocumentOutline.keys_childIds hs]
      exact (ht.spot hs).keys.map fun a b h => Option.some.inj h
    · unfold childIds targetsOfKind edgesOfKind
      rw [hl.edges_outside id fun s hs heq => hx ⟨s, hs, heq⟩]
      exact List.nodup_nil
  · intro id n hn hk
    obtain ⟨s, hs, rfl, rfl⟩ := hl.node.1 hn
    have hle := (ht.spot hs).single hk
    have hsub := List.length_filter_le (fun e : Edge => e.kind = .child) s.edges
    unfold childIds targetsOfKind edgesOfKind
    rw [List.length_map, hl.edges s hs]
    rw [Spot.length_edges] at hsub
    omega
  · intro id n v hn hv
    obtain ⟨s, hs, rfl, rfl⟩ := hl.node.1 hn
    obtain ⟨name, hname, rfl⟩ := (ht.spot hs).target v hv
    obtain ⟨e, he, rfl⟩ := List.mem_map.1 hname
    obtain ⟨i, hi⟩ := List.getElem?_of_mem he
    exact ⟨e.name, rfl, Table.has_eq_true_iff.2
      ⟨_, (find?_definitions_toGraph hf).2 ⟨i, e, hi, rfl, rfl⟩⟩⟩
  · intro id n c k t hn hc hk
    exact owningEdge_of_clause_toGraph hf hn hc hk
  · intro id n hn hk
    obtain ⟨s, hs, rfl, rfl⟩ := hl.node.1 hn
    exact (ht.spot hs).block hk

end Graph

end FormGraph

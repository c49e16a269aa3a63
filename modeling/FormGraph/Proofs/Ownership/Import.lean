import FormGraph.Proofs.Layout
import FormGraph.Proofs.Ownership.Basic

/-!
# Laid out documents are sound

An outline fits when it says of every node what a graph can: no node is a definition, an edge leaves
a node that can hold something over it, and a clause points at branches of the matching kind. Laying
out a document that fits gives a sound graph, in which the clauses of a group point at what hangs
below it.
-/

namespace FormGraph

/-- What hangs where in the outline is what a graph allows. -/
inductive Outline.Fits : Outline → Prop where
  | mk {n : Node Nat} {bs : List (EdgeKind × Outline)} (kind : n.kind ≠ .definition)
    (holds : ∀ b ∈ bs, isContainer n.kind b.1 = true)
    (clauses : ∀ c ∈ n.clauses, ∀ (k : EdgeKind) (i : Nat), c.target k = some i →
      ∃ o, bs[i]? = some (k, o))
    (below : ∀ b ∈ bs, Outline.Fits b.2) : Outline.Fits (.mk n bs)

/-- The document is one that a graph can show. -/
structure DocumentOutline.Fits (d : DocumentOutline) : Prop where
  /-- The root fits. -/
  root : d.root.Fits
  /-- The root is an object. -/
  root_kind : d.root.node.kind = .object
  /-- The contents of the definitions fit. -/
  content : ∀ e ∈ d.definitions, ∀ o, e.content = some o → o.Fits
  /-- No two definitions have one name. -/
  names : (d.definitions.map (·.name)).Nodup

@[simp] theorem Node.clauses_mapClauses {ρ τ : Type} (n : Node ρ) (f : Clause ρ → Clause τ) :
    (n.mapClauses f).clauses = n.clauses.map f := by
  obtain ⟨_, body, _, _, _, _, _, _, _⟩ := n
  cases body <;> rfl

theorem Clause.target_bindTargets {ρ τ : Type} (c : Clause ρ) (f : ρ → Option τ) (k : EdgeKind) :
    (c.bindTargets f).target k = (c.target k).bind f := by
  cases k <;> rfl

namespace Outline

theorem Fits.hanging {o : Outline} (h : o.Fits) : ∀ b ∈ o.hanging, b.2.Fits := by
  cases h with
  | mk _ _ _ below => exact below

theorem Fits.clauses {o : Outline} (h : o.Fits) : ∀ c ∈ o.node.clauses, ∀ (k : EdgeKind) (i : Nat),
    c.target k = some i → ∃ o', o.hanging[i]? = some (k, o') := by
  cases h with
  | mk _ _ clauses _ => exact clauses

/-- What hangs below a node that is no group is a child of it. -/
theorem Fits.child {o : Outline} (h : o.Fits) (hg : o.node.kind.isGroup = false) :
    ∀ b ∈ o.hanging, b.1 = .child := by
  cases h with
  | mk _ holds _ _ =>
    rintro ⟨k, o⟩ hb
    have hcontainer := holds _ hb
    cases k with
    | child => rfl
    | thenBranch | elseBranch => exact absurd (hg.symm.trans hcontainer) (by decide)

theorem hereditary_fits : Hereditary Fits := fun _ h => h.hanging

theorem Fits.node_kind {o : Outline} (h : o.Fits) : o.node.kind ≠ .definition := by
  cases h with
  | mk kind _ _ _ => exact kind

end Outline

/-! ## The spots of a document that fits -/

/-- The spot is as a graph allows: the edges below the node are such that it can hold, and the
targets of its clauses hang below it. -/
structure Spot.Fits (s : Spot) : Prop where
  /-- The node can hold something over each of its edges. -/
  holds : ∀ e ∈ s.edges, isContainer s.node.kind e.kind = true
  /-- A clause points along an edge. -/
  clauses : ∀ c ∈ s.node.clauses, ∀ (k : EdgeKind) (t : NodeId), c.target k = some t →
    ⟨s.name, t, k⟩ ∈ s.edges

theorem Spot.kind_of_mem_edges {s : Spot} {e : Edge} (h : e ∈ s.edges) :
    ∃ b ∈ s.hanging, e.kind = b.1 := by
  unfold Spot.edges Outline.edges at h
  obtain ⟨⟨b, p⟩, hmem, rfl⟩ := List.mem_map.1 h
  exact ⟨b, (List.of_mem_zip hmem).1, rfl⟩

theorem Spot.mem_edges_of_getElem? {s : Spot} {i : Nat} {k : EdgeKind} {o : Outline}
    (h : s.hanging[i]? = some (k, o)) :
    ∃ j, s.places[i]? = some j ∧ (j, o) ∈ Outline.spotsBelow s.used s.hanging ∧
      ⟨s.name, IdSupply.nameOf j, k⟩ ∈ s.edges := by
  obtain ⟨j, hj, hmem⟩ := @Outline.spot_of_hanging s.used _ _ _ _ h
  refine ⟨j, hj, hmem, List.mem_map.2 ⟨((k, o), j), ?_, rfl⟩⟩
  refine List.mem_of_getElem? (i := i) ?_
  rw [List.getElem?_zip_eq_some]
  exact ⟨h, hj⟩

/-- An edge below a spot leads to one of the spots below it. -/
theorem Spot.spot_of_mem_edges {s : Spot} {e : Edge} (h : e ∈ s.edges) :
    ∃ p ∈ Outline.spotsBelow s.used s.hanging, e.target = IdSupply.nameOf p.1 := by
  obtain ⟨i, hi⟩ := List.getElem?_of_mem h
  unfold Spot.edges Outline.edges at hi
  rw [List.getElem?_map, Option.map_eq_some_iff] at hi
  obtain ⟨⟨⟨k, o⟩, j⟩, hzip, rfl⟩ := hi
  rw [List.getElem?_zip_eq_some] at hzip
  obtain ⟨j', hj', hmem⟩ := @Outline.spot_of_hanging s.used _ _ _ _ hzip.1
  have hjj : some j' = some j := hj'.symm.trans hzip.2
  exact ⟨(j', o), hmem, by rw [Option.some.inj hjj]⟩

theorem Spot.fits_of {used : Nat} {o : Outline} (h : o.Fits) (name : NodeId) :
    (Spot.mk name used (Outline.named o.node used o.hanging) o.hanging).Fits := by
  cases h with
  | @mk n bs hkind hholds hclauses hbelow =>
    refine ⟨fun e he => ?_, fun c hc k t ht => ?_⟩
    · obtain ⟨b, hb, heq⟩ := Spot.kind_of_mem_edges he
      rw [heq]
      show isContainer (n.mapClauses _).kind b.1 = true
      rw [Node.kind_mapClauses]
      exact hholds b hb
    · have hc' : c ∈ (n.mapClauses (Clause.bindTargets fun i =>
          (Outline.places used bs)[i]?.map IdSupply.nameOf)).clauses := hc
      rw [Node.clauses_mapClauses] at hc'
      obtain ⟨c₀, hc₀, rfl⟩ := List.mem_map.1 hc'
      rw [Clause.target_bindTargets, Option.bind_eq_some_iff] at ht
      obtain ⟨i, hi, hname⟩ := ht
      obtain ⟨o, ho⟩ := hclauses c₀ hc₀ k i hi
      obtain ⟨j, hj, _, hmem⟩ := Spot.mem_edges_of_getElem?
        (s := ⟨name, used, Outline.named n used bs, bs⟩) ho
      have hplace : (Outline.places used bs)[i]? = some j := hj
      rw [hplace, Option.map_some, Option.some.injEq] at hname
      exact hname ▸ hmem

theorem DefinitionOutline.definition_mem_spots {number i : Nat} {ds : List DefinitionOutline}
    {d : DefinitionOutline} : ∀ {used : Nat}, ds[i]? = some d →
      ∃ u, Spot.ofDefinition (number + 1 + i) u d ∈ spots number used ds := by
  induction ds generalizing number i with
  | nil =>
    intro used h
    simp at h
  | cons d' ds ih =>
    intro used h
    cases i with
    | zero =>
      rw [List.getElem?_cons_zero, Option.some.injEq] at h
      subst h
      exact ⟨used, List.mem_cons_self⟩
    | succ i =>
      rw [List.getElem?_cons_succ] at h
      obtain ⟨u, hu⟩ := @ih (number + 1) i (used + d'.size) h
      have hnumber : number + 1 + (i + 1) = number + 1 + 1 + i := by omega
      refine ⟨u, ?_⟩
      rw [spots, hnumber]
      exact List.mem_cons_of_mem _ (List.mem_append_right _ hu)

/-- What hangs below a spot is laid out with it. -/
theorem DefinitionOutline.spotsBelow_subset {number : Nat} {ds : List DefinitionOutline} :
    ∀ {used : Nat} {s : Spot}, s ∈ spots number used ds →
      ∀ p ∈ Outline.spotsBelow s.used s.hanging, Spot.of p ∈ spots number used ds := by
  induction ds generalizing number with
  | nil =>
    intro used s hs
    simp [spots] at hs
  | cons d ds ih =>
    intro used s hs p hp
    rw [spots, List.mem_cons, List.mem_append] at hs ⊢
    rcases hs with rfl | hs | hs
    · exact Or.inr (Or.inl (List.mem_map_of_mem hp))
    · obtain ⟨q, hq, rfl⟩ := List.mem_map.1 hs
      exact Or.inr (Or.inl (List.mem_map_of_mem
        (Outline.spotsBelow_subset used d.hanging q hq p hp)))
    · exact Or.inr (Or.inr (ih hs p hp))

namespace DocumentOutline

variable {d : DocumentOutline} {used : Nat}

/-- A spot of a document that fits. -/
theorem Fits.spot_cases (hf : d.Fits) {s : Spot} (hs : s ∈ d.spots used) :
    s = d.rootSpot used ∨
      (∃ i e u, d.definitions[i]? = some e ∧ s = Spot.ofDefinition (used + 1 + i) u e) ∨
      ∃ p, s = Spot.of p ∧ p.2.Fits :=
  DocumentOutline.spot_cases Outline.hereditary_fits hf.root hf.content hs

theorem spotsBelow_subset {s : Spot} (hs : s ∈ d.spots used) :
    ∀ p ∈ Outline.spotsBelow s.used s.hanging, Spot.of p ∈ d.spots used := by
  intro p hp
  rw [spots, List.mem_cons, List.mem_append] at hs ⊢
  rcases hs with rfl | hs | hs
  · exact Or.inr (Or.inr (List.mem_map_of_mem hp))
  · exact Or.inr (Or.inl (DefinitionOutline.spotsBelow_subset hs p hp))
  · obtain ⟨q, hq, rfl⟩ := List.mem_map.1 hs
    exact Or.inr (Or.inr (List.mem_map_of_mem (Outline.spotsBelow_subset _ _ q hq p hp)))

theorem fits_spot (hf : d.Fits) {s : Spot} (hs : s ∈ d.spots used) : s.Fits := by
  rcases hf.spot_cases hs with rfl | ⟨i, e, u, _, rfl⟩ | ⟨p, rfl, hp⟩
  · exact Spot.fits_of hf.root rootName
  · refine ⟨fun f h => ?_, fun c hc => ?_⟩
    · obtain ⟨b, hb, heq⟩ := Spot.kind_of_mem_edges h
      obtain ⟨o, _, rfl⟩ := List.mem_map.1 hb
      rw [heq]
      rfl
    · simp [Spot.ofDefinition, Node.ofDefinition, Node.clauses, Body.clauses] at hc
  · exact Spot.fits_of hp (IdSupply.nameOf p.1)

theorem fits_hanging (hf : d.Fits) {s : Spot} (hs : s ∈ d.spots used) :
    ∀ b ∈ s.hanging, b.2.Fits := by
  rcases hf.spot_cases hs with rfl | ⟨i, e, u, hi, rfl⟩ | ⟨p, rfl, hp⟩
  · exact hf.root.hanging
  · intro b hb
    obtain ⟨o, ho, rfl⟩ := List.mem_map.1 hb
    exact hf.content e (List.mem_of_getElem? hi) o (Option.mem_toList.1 ho)
  · exact hp.hanging

/-- An edge leads to a spot that is counted further on, and that is no definition. -/
theorem spot_of_mem_edges (hf : d.Fits) {s : Spot} (hs : s ∈ d.spots used) {e : Edge}
    (he : e ∈ s.edges) : ∃ t ∈ d.spots used, e.target = t.name ∧ s.used < t.used ∧
      t.node.kind ≠ .definition ∧ t.name ≠ rootName := by
  obtain ⟨p, hp, ht⟩ := Spot.spot_of_mem_edges he
  refine ⟨Spot.of p, spotsBelow_subset hs p hp, ht, (Outline.lt_of_mem_spotsBelow hp).1, ?_,
    IdSupply.nameOf_ne_rootName p.1⟩
  show (Node.mapClauses _ _).kind ≠ _
  rw [Node.kind_mapClauses]
  exact (Outline.of_mem_spotsBelow Outline.hereditary_fits _ _ (fits_hanging hf hs) p hp).node_kind

theorem Fits.rootSpot_kind (hf : d.Fits) : (d.rootSpot used).node.kind = .object := by
  show (Node.mapClauses _ _).kind = _
  rw [Node.kind_mapClauses]
  exact hf.root_kind

/-- A definition is where the definitions are. -/
theorem Fits.spot_of_definition (hf : d.Fits) {s : Spot} (hs : s ∈ d.spots used)
    (hk : s.node.kind = .definition) :
    ∃ i e u, d.definitions[i]? = some e ∧ s = Spot.ofDefinition (used + 1 + i) u e := by
  rcases hf.spot_cases hs with rfl | h | ⟨p, rfl, hp⟩
  · rw [hf.rootSpot_kind] at hk
    cases hk
  · exact h
  · have hk' : (Node.mapClauses _ _).kind = .definition := hk
    rw [Node.kind_mapClauses] at hk'
    exact absurd hk' hp.node_kind

theorem definition_mem_spots (d : DocumentOutline) (used : Nat) {i : Nat} {e : DefinitionOutline}
    (hi : d.definitions[i]? = some e) : ∃ u, Spot.ofDefinition (used + 1 + i) u e ∈ d.spots used := by
  obtain ⟨u, hu⟩ := @DefinitionOutline.definition_mem_spots used _ _ _ (d.contents used) hi
  exact ⟨u, List.mem_cons_of_mem _ (List.mem_append_left _ hu)⟩

/-- A node that nothing owns is one of the tops. -/
theorem mem_tops {s : Spot} (hs : s ∈ d.spots used)
    (hfree : ∀ t ∈ d.spots used, ∀ e ∈ t.edges, e.target ≠ s.name) : s.name ∈ d.tops used := by
  have hmem := (d.names_perm used).mem_iff.1 (List.mem_map_of_mem hs)
  rcases List.mem_append.1 hmem with h | h
  · exact h
  · rw [← edges_target_perm] at h
    obtain ⟨e, he, ht⟩ := List.mem_map.1 h
    obtain ⟨t, htmem, hedge⟩ := List.mem_flatMap.1 he
    exact absurd ht (hfree t htmem e hedge)

end DocumentOutline

namespace Graph

variable {d : DocumentOutline} {used : Nat}

/-- A climb from a spot ends, by induction on its number: numbers grow along the edges. -/
theorem grounded_toGraph (hf : d.Fits) {s : Spot} (hs : s ∈ d.spots used) :
    Grounded (d.toGraph used) s.name := by
  have hl := d.laidOut used
  induction hn : s.used using Nat.strongRecOn generalizing s with
  | ind n ih =>
    subst hn
    cases ho : (d.toGraph used).owningEdge s.name with
    | none => exact .top ho
    | some e =>
      obtain ⟨t, ht, hmem, htarget⟩ := hl.owner.1 ho
      obtain ⟨s', hs', heq, hlt, _⟩ := DocumentOutline.spot_of_mem_edges hf ht hmem
      have hss : s = s' := hl.same s hs s' hs' (htarget.symm.trans heq)
      refine .owned ho ?_
      rw [Spot.source_of_mem_edges hmem]
      exact ih t.used (hss ▸ hlt) ht rfl

/-- A laid out document is a forest. -/
theorem forest_toGraph (hf : d.Fits) (used : Nat) : Forest (d.toGraph used) := by
  have hl := d.laidOut used
  have hspot : ∀ {x : NodeId} {e : Edge}, e ∈ (d.toGraph used).edgesFrom x →
      ∃ s ∈ d.spots used, s.name = x ∧ e ∈ s.edges := by
    intro x e he
    by_cases hx : ∃ s ∈ d.spots used, s.name = x
    · obtain ⟨s, hs, rfl⟩ := hx
      rw [hl.edges s hs] at he
      exact ⟨s, hs, rfl, he⟩
    · rw [hl.edges_outside x fun s hs heq => hx ⟨s, hs, heq⟩] at he
      simp at he
  have hnode : ∀ s ∈ d.spots used, ((d.toGraph used).node? s.name).isSome := by
    intro s hs
    rw [hl.node.2 ⟨s, hs, rfl, rfl⟩]
    rfl
  refine
    { source_eq := ?_
      owned := ?_
      listed := ?_
      nodup := ?_
      present := ?_
      grounded := ?_ }
  · intro x e he
    obtain ⟨s, _, rfl, hmem⟩ := hspot he
    exact Spot.source_of_mem_edges hmem
  · intro x e he
    obtain ⟨s, hs, _, hmem⟩ := hspot he
    exact hl.owner.2 ⟨s, hs, hmem, rfl⟩
  · intro x e ho
    obtain ⟨s, hs, hmem, ht⟩ := hl.owner.1 ho
    refine ⟨ht, ?_⟩
    rw [Spot.source_of_mem_edges hmem, hl.edges s hs]
    exact hmem
  · intro x
    by_cases hx : ∃ s ∈ d.spots used, s.name = x
    · obtain ⟨s, hs, rfl⟩ := hx
      rw [hl.edges s hs]
      have hn := (d.nodup_targets used).of_map
      rw [List.flatMap_def] at hn
      exact hn.sublist (List.sublist_flatten_of_mem (List.mem_map_of_mem hs))
    · rw [hl.edges_outside x fun s hs heq => hx ⟨s, hs, heq⟩]
      exact List.nodup_nil
  · intro x e ho
    obtain ⟨s, hs, hmem, rfl⟩ := hl.owner.1 ho
    obtain ⟨t, ht, heq, _⟩ := DocumentOutline.spot_of_mem_edges hf hs hmem
    refine ⟨?_, ?_⟩
    · rw [heq]
      exact hnode t ht
    · rw [Spot.source_of_mem_edges hmem]
      exact hnode s hs
  · intro x
    by_cases hx : ∃ s ∈ d.spots used, s.name = x
    · obtain ⟨s, hs, rfl⟩ := hx
      exact grounded_toGraph hf hs
    · refine .top ?_
      cases ho : (d.toGraph used).owningEdge x with
      | none => rfl
      | some e =>
        obtain ⟨s, hs, hmem, rfl⟩ := hl.owner.1 ho
        obtain ⟨t, ht, heq, _⟩ := DocumentOutline.spot_of_mem_edges hf hs hmem
        exact absurd ⟨t, ht, heq.symm⟩ hx

theorem names_definitionRows (used : Nat) (d : DocumentOutline) :
    Entries.names (d.definitionRows used) = d.definitions.map (·.name) := by
  have hz := List.zipIdx_map_fst 0 d.definitions
  unfold DocumentOutline.definitionRows Entries.names
  rw [List.map_map]
  conv_rhs => rw [← hz, List.map_map]
  rfl

/-- The table of definitions gives the numbered names. -/
theorem find?_definitions_toGraph (hf : d.Fits) {name : String} {id : NodeId} :
    (d.toGraph used).definitions.find? name = some id ↔
      ∃ i e, d.definitions[i]? = some e ∧ e.name = name ∧ IdSupply.nameOf (used + 1 + i) = id := by
  have hn : (Entries.names (d.definitionRows used)).Nodup := by
    rw [names_definitionRows]
    exact hf.names
  have hfind : (d.toGraph used).definitions.find? name =
      Entries.find? (d.definitionRows used) name := Table.find?_ofList hn name
  rw [hfind, ← Entries.mem_iff_find? hn]
  unfold DocumentOutline.definitionRows
  rw [List.mem_map]
  constructor
  · rintro ⟨⟨e, i⟩, hmem, heq⟩
    cases heq
    exact ⟨i, e, by simpa using List.mem_zipIdx_iff_getElem?.1 hmem, rfl, rfl⟩
  · rintro ⟨i, e, hi, rfl, rfl⟩
    exact ⟨(e, i), List.mem_zipIdx_iff_getElem?.2 hi, rfl⟩

/-- A laid out document is sound. -/
theorem sound_toGraph (hf : d.Fits) (used : Nat) : Sound (d.toGraph used) := by
  have hl := d.laidOut used
  have hroot : d.rootSpot used ∈ d.spots used := List.mem_cons_self
  refine { forest_toGraph hf used with
    root := ⟨_, hl.node.2 ⟨_, hroot, rfl, rfl⟩, hf.rootSpot_kind⟩
    root_top := ?_
    definition_top := ?_
    held := ?_
    defined := ?_
    named := ?_
    fits := ?_ }
  · cases ho : (d.toGraph used).owningEdge (d.toGraph used).rootId with
    | none => rfl
    | some e =>
      obtain ⟨s, hs, hmem, ht⟩ := hl.owner.1 ho
      obtain ⟨t, _, heq, _, _, hne⟩ := DocumentOutline.spot_of_mem_edges hf hs hmem
      exact absurd (heq.symm.trans ht) hne
  · intro x n hn hk
    obtain ⟨s, hs, rfl, rfl⟩ := hl.node.1 hn
    cases ho : (d.toGraph used).owningEdge s.name with
    | none => rfl
    | some e =>
      obtain ⟨t, ht, hmem, htarget⟩ := hl.owner.1 ho
      obtain ⟨s', hs', heq, _, hkind, _⟩ := DocumentOutline.spot_of_mem_edges hf ht hmem
      rw [hl.same s hs s' hs' (htarget.symm.trans heq)] at hk
      exact absurd hk hkind
  · intro x n hn ho
    obtain ⟨s, hs, rfl, rfl⟩ := hl.node.1 hn
    have htop := DocumentOutline.mem_tops hs fun t ht e he heq => by
      rw [hl.owner.2 ⟨t, ht, he, heq⟩] at ho
      simp at ho
    rw [DocumentOutline.tops, List.mem_cons] at htop
    rcases htop with h | h
    · exact Or.inl h
    · obtain ⟨k, hk, hname⟩ := List.mem_map.1 h
      rw [List.mem_range'_1] at hk
      obtain ⟨i, rfl⟩ := Nat.exists_eq_add_of_le hk.1
      have hi : i < d.definitions.length := by omega
      obtain ⟨u, hu⟩ := d.definition_mem_spots used (List.getElem?_eq_getElem hi)
      rw [hl.same s hs _ hu hname.symm]
      exact Or.inr (Or.inl rfl)
  · intro name id
    rw [find?_definitions_toGraph hf]
    constructor
    · rintro ⟨i, e, hi, rfl, rfl⟩
      obtain ⟨u, hu⟩ := d.definition_mem_spots used hi
      exact ⟨_, hl.node.2 ⟨_, hu, rfl, rfl⟩, rfl⟩
    · rintro ⟨n, hn, hname⟩
      obtain ⟨s, hs, rfl, rfl⟩ := hl.node.1 hn
      obtain ⟨i, e, u, hi, rfl⟩ := hf.spot_of_definition hs (Node.kind_eq_of_definitionName? hname)
      refine ⟨i, e, hi, ?_, rfl⟩
      exact Value.str.inj (Option.some.inj hname)
  · intro x n hn hk
    obtain ⟨s, hs, rfl, rfl⟩ := hl.node.1 hn
    obtain ⟨i, e, u, _, rfl⟩ := hf.spot_of_definition hs hk
    exact ⟨e.name, rfl⟩
  · intro x e n ho hn
    obtain ⟨s, hs, hmem, _⟩ := hl.owner.1 ho
    rw [Spot.source_of_mem_edges hmem, hl.node.2 ⟨s, hs, rfl, rfl⟩] at hn
    obtain rfl := Option.some.inj hn
    exact (DocumentOutline.fits_spot hf hs).holds e hmem

/-- The nodes of a laid out document have the names that it took. -/
theorem supplied_toGraph (d : DocumentOutline) (used : Nat) :
    Supplied (d.toGraph used) ⟨used + d.size⟩ := by
  intro k hk
  refine Option.not_isSome_iff_eq_none.1 fun hsome => ?_
  obtain ⟨n, hn⟩ := Option.isSome_iff_exists.1 hsome
  obtain ⟨s, hs, hname, _⟩ := (d.laidOut used).node.1 hn
  have hmem := (d.names_perm_range used).mem_iff.1 (List.mem_map_of_mem hs)
  rw [hname, List.mem_cons] at hmem
  rcases hmem with h | h
  · exact IdSupply.nameOf_ne_rootName k h
  · obtain ⟨j, hj, heq⟩ := List.mem_map.1 h
    rw [List.mem_range'_1] at hj
    have hjk := IdSupply.nameOf_injective heq
    dsimp only at hk
    omega

/-- The clauses of a laid out document point along edges. -/
theorem owningEdge_of_clause_toGraph (hf : d.Fits) {id : NodeId} {n : Node NodeId}
    (hn : (d.toGraph used).node? id = some n) {c : Clause NodeId} (hc : c ∈ n.clauses)
    {k : EdgeKind} {t : NodeId} (ht : c.target k = some t) :
    (d.toGraph used).owningEdge t = some ⟨id, t, k⟩ := by
  obtain ⟨s, hs, rfl, rfl⟩ := (d.laidOut used).node.1 hn
  exact (d.laidOut used).owner.2 ⟨s, hs, (DocumentOutline.fits_spot hf hs).clauses c hc k t ht, rfl⟩

end Graph

end FormGraph

import FormGraph.Proofs.Writing.Document

/-!
# Laid out documents are shown

A graph that a document was laid out as shows the document, so what it is written as is told by the
document.
-/

namespace FormGraph

namespace DocumentOutline

open Graph

variable {d : DocumentOutline} {used : Nat}

/-- What hangs below a node with the names it gets. -/
def hung (used : Nat) (bs : List (EdgeKind × Outline)) : List (NodeId × EdgeKind × Outline) :=
  (bs.zip (Outline.places used bs)).map fun p => (IdSupply.nameOf p.2, p.1)

theorem map_snd_hung (used : Nat) (bs : List (EdgeKind × Outline)) :
    (hung used bs).map Prod.snd = bs := by
  rw [hung, List.map_map]
  exact List.map_fst_zip (Nat.le_of_eq (Outline.length_places used bs).symm)

theorem map_fst_hung (used : Nat) (bs : List (EdgeKind × Outline)) :
    (hung used bs).map Prod.fst = (Outline.places used bs).map IdSupply.nameOf := by
  have hsnd := @List.map_snd_zip _ _ bs (Outline.places used bs)
    (Nat.le_of_eq (Outline.length_places used bs))
  rw [hung, List.map_map]
  conv_rhs => rw [← hsnd, List.map_map]
  rfl

/-- What hangs below a spot has a spot. -/
theorem spot_of_hung {s : Spot} (hs : s ∈ d.spots used) {h : NodeId × EdgeKind × Outline}
    (hh : h ∈ hung s.used s.hanging) :
    h.2 ∈ s.hanging ∧ ∃ j, h.1 = IdSupply.nameOf j ∧ Spot.of (j, h.2.2) ∈ d.spots used := by
  obtain ⟨⟨⟨k, o⟩, j⟩, hmem, rfl⟩ := List.mem_map.1 hh
  obtain ⟨i, hi⟩ := List.getElem?_of_mem hmem
  rw [List.getElem?_zip_eq_some] at hi
  obtain ⟨j', hj', hspot⟩ := @Outline.spot_of_hanging s.used _ _ _ _ hi.1
  obtain rfl : j' = j := Option.some.inj (hj'.symm.trans hi.2)
  exact ⟨(List.of_mem_zip hmem).1, j', rfl, spotsBelow_subset hs _ hspot⟩

/-- An outline that has its spot is shown there. -/
theorem shows_of_spot : ∀ (o : Outline) (name : NodeId) (below : Nat),
    ⟨name, below, Outline.named o.node below o.hanging, o.hanging⟩ ∈ d.spots used →
      (d.toGraph used).Shows name o
  | .mk n bs, name, below, hspot => by
    have hl := d.laidOut used
    have hhung : ∀ h ∈ hung below bs, (d.toGraph used).Shows h.1 h.2.2 := by
      intro h hh
      obtain ⟨hmem, j, hj, hs⟩ := spot_of_hung hspot hh
      rw [hj]
      exact shows_of_spot h.2.2 _ j hs
    have hnode : (d.toGraph used).node? name = some (n.mapClauses (Clause.bindTargets fun i =>
        ((hung below bs).map Prod.fst)[i]?)) := by
      refine hl.node.2 ⟨_, hspot, rfl, ?_⟩
      simp only [map_fst_hung, List.getElem?_map]
      rfl
    have hedges : (d.toGraph used).edgesFrom name =
        (hung below bs).map fun h => ⟨name, h.1, h.2.1⟩ := by
      rw [hl.edges _ hspot, hung, List.map_map]
      rfl
    have hshow := Shows.mk (hung below bs) hnode hedges hhung
    rwa [map_snd_hung] at hshow
  termination_by o => sizeOf o
  decreasing_by
    have hbelow : h.2 ∈ bs := hmem
    have hlt := List.sizeOf_lt_of_mem hbelow
    obtain ⟨id, k, o⟩ := h
    simp only [Outline.mk.sizeOf_spec, Prod.mk.sizeOf_spec] at hlt ⊢
    omega

theorem length_spotsBelow (used : Nat) (bs : List (EdgeKind × Outline)) :
    (Outline.spotsBelow used bs).length = Outline.sizeAll bs := by
  have h := congrArg List.length (Outline.map_fst_spotsBelow used bs)
  rwa [List.length_map, List.length_range'] at h

theorem length_definitionSpots (number : Nat) (ds : List DefinitionOutline) :
    ∀ used, (DefinitionOutline.spots number used ds).length =
      ds.length + DefinitionOutline.sizeAll ds := by
  induction ds generalizing number with
  | nil => exact fun _ => rfl
  | cons d ds ih =>
    intro used
    rw [DefinitionOutline.spots, DefinitionOutline.sizeAll, List.length_cons, List.length_append,
      List.length_map, length_spotsBelow, ih, List.length_cons, DefinitionOutline.size]
    omega

theorem size_le_sizeAll {ds : List DefinitionOutline} {e : DefinitionOutline} (he : e ∈ ds) :
    e.size ≤ DefinitionOutline.sizeAll ds := by
  induction ds with
  | nil => simp at he
  | cons d ds ih =>
    rw [DefinitionOutline.sizeAll]
    rcases List.mem_cons.1 he with rfl | he
    · exact Nat.le_add_right _ _
    · exact Nat.le_trans (ih he) (Nat.le_add_left _ _)

/-- A laid out document has as many nodes as its outline says. -/
theorem size_nodes_toGraph (used : Nat) (d : DocumentOutline) :
    (d.toGraph used).nodes.size = 1 + (d.definitions.length +
      DefinitionOutline.sizeAll d.definitions) + Outline.sizeAll d.root.hanging := by
  have hp := d.nodes_perm used
  have hn : (Entries.names ((d.spots used).map Spot.nodeRow)).Nodup := by
    rw [Entries.names, List.map_map]
    exact d.nodup_names used
  have hrows := Table.entries_ofList (((hp.map Prod.fst).nodup_iff).2 hn)
  have hsize : (d.toGraph used).nodes.size = (d.spots used).length := by
    have h := (congrArg List.length hrows).trans hp.length_eq
    rwa [List.length_map] at h
  rw [hsize, spots, List.length_cons, List.length_append, List.length_map, length_spotsBelow,
    length_definitionSpots]
  omega

/-- The edges below a definition are those of its content. -/
theorem edgesFrom_definition {e : DefinitionOutline} {number below : Nat}
    (hs : Spot.ofDefinition number below e ∈ d.spots used) :
    (d.toGraph used).edgesFrom (IdSupply.nameOf number) =
      (hung below e.hanging).map fun h => ⟨IdSupply.nameOf number, h.1, h.2.1⟩ := by
  rw [hung, List.map_map]
  exact (d.laidOut used).edges _ hs

/-- A definition shows its content. -/
theorem showsContent_toGraph {e : DefinitionOutline} {number below : Nat}
    (hs : Spot.ofDefinition number below e ∈ d.spots used)
    (hsize : e.size ≤ (d.toGraph used).nodes.size) :
    (d.toGraph used).ShowsContent (IdSupply.nameOf number) e.content := by
  have hedges := edgesFrom_definition hs
  cases hc : e.content with
  | none =>
    have hnil : e.hanging = [] := by rw [DefinitionOutline.hanging, hc]; rfl
    rw [hnil] at hedges
    show childIds _ _ = []
    unfold childIds targetsOfKind edgesOfKind
    rw [hedges]
    rfl
  | some o =>
    have hone : e.hanging = [(.child, o)] := by rw [DefinitionOutline.hanging, hc]; rfl
    have hhung : hung below e.hanging = [(IdSupply.nameOf (below + 1), .child, o)] := by
      rw [hone]
      rfl
    refine ⟨IdSupply.nameOf (below + 1), ?_, ?_, ?_⟩
    · unfold childIds targetsOfKind edgesOfKind
      rw [hedges, hhung]
      rfl
    · obtain ⟨_, j, hj, hspot⟩ := spot_of_hung hs
        (show (IdSupply.nameOf (below + 1), .child, o) ∈ hung below e.hanging by
          rw [hhung]
          exact List.mem_singleton_self _)
      dsimp only at hj
      rw [hj]
      exact shows_of_spot o _ j hspot
    · have hle := o.height_le_size
      rw [DefinitionOutline.size, hone, Outline.sizeAll, Outline.sizeAll] at hsize
      unfold Compile.depth
      omega

/-- A definition of a laid out document has a spot. -/
theorem exists_definition_spot (hf : d.Fits) {name : String} {id : NodeId}
    (h : (d.toGraph used).definitions.find? name = some id) :
    ∃ e ∈ d.definitions, e.name = name ∧ ∃ number below, IdSupply.nameOf number = id ∧
      Spot.ofDefinition number below e ∈ d.spots used := by
  obtain ⟨i, e, hi, hname, rfl⟩ := (find?_definitions_toGraph hf).1 h
  obtain ⟨u, hu⟩ := d.definition_mem_spots used hi
  exact ⟨e, List.mem_of_getElem? hi, hname, _, u, rfl, hu⟩

/-- There is one child at most below a definition of a laid out document. -/
theorem length_childIds_definition_le (hf : d.Fits) {name : String} {id : NodeId}
    (h : (d.toGraph used).definitions.find? name = some id) :
    ((d.toGraph used).childIds id).length ≤ 1 := by
  obtain ⟨e, _, _, number, below, rfl, hs⟩ := exists_definition_spot hf h
  have hhung : (hung below e.hanging).length = e.hanging.length := by
    rw [← List.length_map, map_snd_hung]
  have hone : e.hanging.length ≤ 1 := by
    rw [DefinitionOutline.hanging, List.length_map]
    cases e.content <;> simp
  unfold childIds targetsOfKind edgesOfKind
  rw [edgesFrom_definition hs, List.length_map]
  refine Nat.le_trans (List.length_filter_le ..) ?_
  rwa [List.length_map, hhung]

/-- A laid out document is shown. -/
theorem shows_toGraph (hf : d.Fits) (used : Nat) : (d.toGraph used).ShowsDocument d := by
  have hsize := d.size_nodes_toGraph used
  refine ⟨shows_of_spot d.root rootName (d.top used) List.mem_cons_self, ?_, ?_, ?_⟩
  · have hle := d.root.height_le_size
    have hroot : d.root.size = Outline.sizeAll d.root.hanging + 1 := by
      cases d.root
      rfl
    unfold Compile.depth
    omega
  · have hn : (Entries.names (d.definitionRows used)).Nodup := by
      rw [names_definitionRows]
      exact hf.names
    have hentries := Table.entries_ofList hn
    rw [← names_definitionRows used d, ← hentries]
    rfl
  · intro e he id hid
    obtain ⟨e', he', hname, number, below, rfl, hs⟩ := exists_definition_spot hf hid
    obtain rfl := List.inj_on_of_nodup_map hf.names he' he hname
    refine showsContent_toGraph hs ?_
    have hle := size_le_sizeAll he
    omega

end DocumentOutline

end FormGraph

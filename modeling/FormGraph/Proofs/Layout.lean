import FormGraph.Document.Outline
import FormGraph.Proofs.Names

/-!
# How an outline is laid out

The spots of an outline are its nodes with everything below them and the numbers that they get, in
the order of the numbers. Nodes, rows of edges and owners of a laid out outline are all read off its
spots: `laidOut` gives the four views of the graph, and from then on nothing depends on how the
tables were filled.
-/

namespace FormGraph

namespace Outline

mutual

/-- The nodes with everything below them and their numbers, each before what hangs below it. -/
def spots (used : Nat) : Outline → List (Nat × Outline)
  | mk n bs => (used + 1, mk n bs) :: spotsBelow (used + 1) bs

/-- The spots of what hangs below a node. -/
def spotsBelow (used : Nat) : List (EdgeKind × Outline) → List (Nat × Outline)
  | [] => []
  | (_, o) :: bs => spots used o ++ spotsBelow (used + size o) bs

end

@[simp] theorem node_mk (n : Node Nat) (bs : List (EdgeKind × Outline)) : (mk n bs).node = n := rfl

@[simp] theorem hanging_mk (n : Node Nat) (bs : List (EdgeKind × Outline)) :
    (mk n bs).hanging = bs := rfl

mutual

/-- The numbers follow each other. -/
theorem map_fst_spots : ∀ (used : Nat) (o : Outline),
    (spots used o).map Prod.fst = List.range' (used + 1) o.size
  | used, mk n bs => by
    rw [spots, List.map_cons, map_fst_spotsBelow (used + 1) bs, size, List.range'_succ]

theorem map_fst_spotsBelow : ∀ (used : Nat) (bs : List (EdgeKind × Outline)),
    (spotsBelow used bs).map Prod.fst = List.range' (used + 1) (sizeAll bs)
  | _, [] => rfl
  | used, (_, o) :: bs => by
    rw [spotsBelow, List.map_append, map_fst_spots used o, map_fst_spotsBelow (used + o.size) bs,
      sizeAll, ← List.range'_append, Nat.one_mul, Nat.add_right_comm]

end

/-- The node of a spot with its name. -/
def nodeRow (p : Nat × Outline) : NodeId × Node NodeId :=
  (IdSupply.nameOf p.1, named p.2.node p.1 p.2.hanging)

mutual

theorem nodes_perm : ∀ (used : Nat) (o : Outline),
    (nodes used o).Perm ((spots used o).map nodeRow)
  | used, mk n bs => by
    rw [nodes, spots, List.map_cons]
    exact (List.perm_append_comm.trans (List.Perm.refl _)).trans
      ((nodesBelow_perm (used + 1) bs).cons _)

theorem nodesBelow_perm : ∀ (used : Nat) (bs : List (EdgeKind × Outline)),
    (nodesBelow used bs).Perm ((spotsBelow used bs).map nodeRow)
  | _, [] => List.Perm.refl _
  | used, (_, o) :: bs => by
    rw [nodesBelow, spotsBelow, List.map_append]
    exact (nodes_perm used o).append (nodesBelow_perm (used + o.size) bs)

end

mutual

theorem rows_eq : ∀ (used : Nat) (o : Outline), rows used o =
    (spots used o).flatMap fun p => edgeRow (IdSupply.nameOf p.1) p.1 p.2.hanging
  | used, mk n bs => by
    rw [rows, spots, List.flatMap_cons, rowsBelow_eq (used + 1) bs, hanging_mk]

theorem rowsBelow_eq : ∀ (used : Nat) (bs : List (EdgeKind × Outline)), rowsBelow used bs =
    (spotsBelow used bs).flatMap fun p => edgeRow (IdSupply.nameOf p.1) p.1 p.2.hanging
  | _, [] => rfl
  | used, (_, o) :: bs => by
    rw [rowsBelow, spotsBelow, List.flatMap_append, rows_eq used o, rowsBelow_eq (used + o.size) bs]

end

mutual

/-- Every number but the first is given to one node hanging below a spot. -/
theorem places_perm : ∀ (used : Nat) (o : Outline),
    ((used + 1) :: (spots used o).flatMap fun p => places p.1 p.2.hanging).Perm
      ((spots used o).map Prod.fst)
  | used, mk n bs => by
    rw [spots, List.flatMap_cons, List.map_cons, hanging_mk]
    exact (placesBelow_perm (used + 1) bs).cons _

theorem placesBelow_perm : ∀ (used : Nat) (bs : List (EdgeKind × Outline)),
    (places used bs ++ (spotsBelow used bs).flatMap fun p => places p.1 p.2.hanging).Perm
      ((spotsBelow used bs).map Prod.fst)
  | _, [] => List.Perm.refl _
  | used, (_, o) :: bs => by
    rw [places, spotsBelow, List.flatMap_append, List.map_append]
    refine List.Perm.trans ?_ ((places_perm used o).append (placesBelow_perm (used + o.size) bs))
    rw [List.cons_append, List.cons_append]
    refine List.Perm.cons _ ?_
    rw [← List.append_assoc, ← List.append_assoc]
    exact List.Perm.append_right _ List.perm_append_comm

end

theorem length_places (used : Nat) (bs : List (EdgeKind × Outline)) :
    (places used bs).length = bs.length := by
  induction bs generalizing used with
  | nil => rfl
  | cons b bs ih =>
    obtain ⟨_, o⟩ := b
    rw [places, List.length_cons, List.length_cons, ih]

/-- What hangs directly below a node has its place among the spots below it. -/
theorem spot_of_hanging {used i : Nat} {bs : List (EdgeKind × Outline)} {k : EdgeKind} {o : Outline}
    (h : bs[i]? = some (k, o)) :
    ∃ j, (places used bs)[i]? = some j ∧ (j, o) ∈ spotsBelow used bs := by
  induction bs generalizing used i with
  | nil => simp at h
  | cons b bs ih =>
    obtain ⟨k', o'⟩ := b
    cases i with
    | zero =>
      rw [List.getElem?_cons_zero, Option.some.injEq, Prod.mk.injEq] at h
      obtain ⟨_, rfl⟩ := h
      refine ⟨used + 1, rfl, ?_⟩
      cases o' with
      | mk n bs' => simp [spotsBelow, spots]
    | succ i =>
      rw [List.getElem?_cons_succ] at h
      obtain ⟨j, hj, hmem⟩ := @ih (used + o'.size) i h
      exact ⟨j, hj, List.mem_append_right _ hmem⟩

theorem lt_of_mem_spotsBelow {used : Nat} {bs : List (EdgeKind × Outline)} {p : Nat × Outline}
    (h : p ∈ spotsBelow used bs) : used < p.1 ∧ p.1 ≤ used + sizeAll bs := by
  have hm : p.1 ∈ (spotsBelow used bs).map Prod.fst := List.mem_map_of_mem h
  rw [map_fst_spotsBelow, List.mem_range'_1] at hm
  omega

mutual

/-- The spots below a spot are spots. -/
theorem spotsBelow_subset_spots : ∀ (used : Nat) (o : Outline) (p : Nat × Outline),
    p ∈ spots used o → ∀ q ∈ spotsBelow p.1 p.2.hanging, q ∈ spots used o
  | used, mk n bs, p, hp, q, hq => by
    rw [spots, List.mem_cons] at hp ⊢
    rcases hp with rfl | hp
    · exact Or.inr hq
    · exact Or.inr (spotsBelow_subset used.succ bs p hp q hq)

theorem spotsBelow_subset : ∀ (used : Nat) (bs : List (EdgeKind × Outline)) (p : Nat × Outline),
    p ∈ spotsBelow used bs → ∀ q ∈ spotsBelow p.1 p.2.hanging, q ∈ spotsBelow used bs
  | _, [], _, hp, _, _ => by simp [spotsBelow] at hp
  | used, (_, o) :: bs, p, hp, q, hq => by
    rw [spotsBelow, List.mem_append] at hp ⊢
    rcases hp with hp | hp
    · exact Or.inl (spotsBelow_subset_spots used o p hp q hq)
    · exact Or.inr (spotsBelow_subset (used + o.size) bs p hp q hq)

end

/-- What a node passes on to everything that hangs below it. -/
def Hereditary (P : Outline → Prop) : Prop := ∀ o, P o → ∀ b ∈ o.hanging, P b.2

mutual

theorem of_mem_spots {P : Outline → Prop} (hP : Hereditary P) : ∀ (used : Nat) (o : Outline), P o →
    ∀ p ∈ spots used o, P p.2
  | used, mk n bs, h, p, hp => by
    rw [spots, List.mem_cons] at hp
    rcases hp with rfl | hp
    · exact h
    · exact of_mem_spotsBelow hP (used + 1) bs (hP _ h) p hp

theorem of_mem_spotsBelow {P : Outline → Prop} (hP : Hereditary P) :
    ∀ (used : Nat) (bs : List (EdgeKind × Outline)), (∀ b ∈ bs, P b.2) →
      ∀ p ∈ spotsBelow used bs, P p.2
  | _, [], _, _, hp => by simp [spotsBelow] at hp
  | used, (k, o) :: bs, h, p, hp => by
    rw [spotsBelow, List.mem_append] at hp
    rcases hp with hp | hp
    · exact of_mem_spots hP used o (h (k, o) List.mem_cons_self) p hp
    · exact of_mem_spotsBelow hP (used + o.size) bs
        (fun b hb => h b (List.mem_cons_of_mem _ hb)) p hp

end

end Outline

/-! ## The spots of a whole document -/

/-- A node of a layout with its name and what hangs below it, counting on from `used`. -/
structure Spot where
  /-- The name of the node. -/
  name : NodeId
  /-- The number that the numbers of what hangs below the node come after. -/
  used : Nat
  /-- The node. -/
  node : Node NodeId
  /-- What hangs below the node. -/
  hanging : List (EdgeKind × Outline)

namespace Spot

/-- The edges below the node. -/
def edges (s : Spot) : List Edge := Outline.edges s.name s.used s.hanging

/-- The numbers of what hangs directly below the node. -/
def places (s : Spot) : List Nat := Outline.places s.used s.hanging

/-- The node with its name. -/
def nodeRow (s : Spot) : NodeId × Node NodeId := (s.name, s.node)

/-- The row of edges below the node, if there are any. -/
def edgeRow (s : Spot) : List (NodeId × List Edge) := Outline.edgeRow s.name s.used s.hanging

/-- The spot of a numbered node of an outline. -/
def of (p : Nat × Outline) : Spot :=
  ⟨IdSupply.nameOf p.1, p.1, Outline.named p.2.node p.1 p.2.hanging, p.2.hanging⟩

/-- The spot of a definition. -/
def ofDefinition (number used : Nat) (d : DefinitionOutline) : Spot :=
  ⟨IdSupply.nameOf number, used, Node.ofDefinition d.name, d.hanging⟩

theorem target_edges (s : Spot) : s.edges.map (·.target) = s.places.map IdSupply.nameOf := by
  unfold edges Outline.edges places
  rw [List.map_map]
  have hzip := @List.map_snd_zip _ _ s.hanging (Outline.places s.used s.hanging)
    (Nat.le_of_eq (Outline.length_places s.used s.hanging))
  conv_rhs => rw [← hzip, List.map_map]
  rfl

theorem source_of_mem_edges {s : Spot} {e : Edge} (h : e ∈ s.edges) : e.source = s.name := by
  unfold edges Outline.edges at h
  obtain ⟨_, _, rfl⟩ := List.mem_map.1 h
  rfl

theorem length_edges (s : Spot) : s.edges.length = s.hanging.length := by
  unfold edges Outline.edges
  rw [List.length_map, List.length_zip, Outline.length_places, Nat.min_self]

end Spot

namespace DefinitionOutline

/-- The spots of definitions and their contents. -/
def spots (number used : Nat) : List DefinitionOutline → List Spot
  | [] => []
  | d :: ds => Spot.ofDefinition (number + 1) used d ::
      ((Outline.spotsBelow used d.hanging).map Spot.of ++ spots (number + 1) (used + d.size) ds)

end DefinitionOutline

namespace DocumentOutline

/-- The number after which the contents of the definitions are counted. -/
def contents (used : Nat) (d : DocumentOutline) : Nat := used + d.definitions.length

/-- The number after which the nodes below the root are counted. -/
def top (used : Nat) (d : DocumentOutline) : Nat :=
  d.contents used + DefinitionOutline.sizeAll d.definitions

/-- The spot of the root. -/
def rootSpot (used : Nat) (d : DocumentOutline) : Spot :=
  ⟨rootName, d.top used, Outline.named d.root.node (d.top used) d.root.hanging, d.root.hanging⟩

/-- All spots of a document. -/
def spots (used : Nat) (d : DocumentOutline) : List Spot :=
  d.rootSpot used :: (DefinitionOutline.spots used (d.contents used) d.definitions ++
    (Outline.spotsBelow (d.top used) d.root.hanging).map Spot.of)

/-- The names of the nodes that hang nowhere: the root, and the definitions. -/
def tops (used : Nat) (d : DocumentOutline) : List NodeId :=
  rootName :: (List.range' (used + 1) d.definitions.length).map IdSupply.nameOf

end DocumentOutline

/-! ### Where a spot comes from -/

theorem DefinitionOutline.mem_spots {P : Outline → Prop} (hP : Outline.Hereditary P) {number : Nat}
    {ds : List DefinitionOutline} : ∀ {used : Nat} {s : Spot}, s ∈ spots number used ds →
      (∀ d ∈ ds, ∀ o, d.content = some o → P o) →
      (∃ i d u, ds[i]? = some d ∧ s = Spot.ofDefinition (number + 1 + i) u d) ∨
        ∃ p, s = Spot.of p ∧ P p.2 := by
  induction ds generalizing number with
  | nil =>
    intro used s hs
    simp [spots] at hs
  | cons d ds ih =>
    intro used s hs hf
    rw [spots, List.mem_cons, List.mem_append] at hs
    rcases hs with rfl | hs | hs
    · exact Or.inl ⟨0, d, used, rfl, rfl⟩
    · obtain ⟨p, hp, rfl⟩ := List.mem_map.1 hs
      refine Or.inr ⟨p, rfl, Outline.of_mem_spotsBelow hP used d.hanging ?_ p hp⟩
      intro b hb
      unfold DefinitionOutline.hanging at hb
      obtain ⟨o, ho, rfl⟩ := List.mem_map.1 hb
      exact hf d List.mem_cons_self o (Option.mem_toList.1 ho)
    · rcases ih hs fun d' hd' => hf d' (List.mem_cons_of_mem _ hd') with ⟨i, d', u, hi, heq⟩ | h
      · refine Or.inl ⟨i + 1, d', u, hi, ?_⟩
        rw [heq, Nat.add_right_comm (number + 1) 1 i, Nat.add_assoc (number + 1) i 1]
      · exact Or.inr h

/-- A spot is that of the root, of a definition, or of something that hangs somewhere, which has what
is passed on by what hangs below the root and by the contents of the definitions. -/
theorem DocumentOutline.spot_cases_of_hanging {P : Outline → Prop} (hP : Outline.Hereditary P)
    {d : DocumentOutline} {used : Nat} (hbelow : ∀ b ∈ d.root.hanging, P b.2)
    (hcontent : ∀ e ∈ d.definitions, ∀ o, e.content = some o → P o) {s : Spot}
    (hs : s ∈ d.spots used) :
    s = d.rootSpot used ∨
      (∃ i e u, d.definitions[i]? = some e ∧ s = Spot.ofDefinition (used + 1 + i) u e) ∨
      ∃ p, s = Spot.of p ∧ P p.2 := by
  rw [spots, List.mem_cons, List.mem_append] at hs
  rcases hs with rfl | hs | hs
  · exact Or.inl rfl
  · exact Or.inr (DefinitionOutline.mem_spots hP hs hcontent)
  · obtain ⟨p, hp, rfl⟩ := List.mem_map.1 hs
    exact Or.inr (Or.inr ⟨p, rfl, Outline.of_mem_spotsBelow hP _ _ hbelow p hp⟩)

/-- What hangs somewhere has what the root and the contents of the definitions pass on. -/
theorem DocumentOutline.spot_cases {P : Outline → Prop} (hP : Outline.Hereditary P)
    {d : DocumentOutline} {used : Nat} (hroot : P d.root)
    (hcontent : ∀ e ∈ d.definitions, ∀ o, e.content = some o → P o) {s : Spot}
    (hs : s ∈ d.spots used) :
    s = d.rootSpot used ∨
      (∃ i e u, d.definitions[i]? = some e ∧ s = Spot.ofDefinition (used + 1 + i) u e) ∨
      ∃ p, s = Spot.of p ∧ P p.2 :=
  spot_cases_of_hanging hP (hP _ hroot) hcontent hs

/-! ### The tables, spot by spot -/

theorem Outline.map_spot_nodeRow (ps : List (Nat × Outline)) :
    (ps.map Spot.of).map Spot.nodeRow = ps.map Outline.nodeRow := by
  rw [List.map_map]
  rfl

theorem Outline.flatMap_spot_edgeRow (ps : List (Nat × Outline)) :
    (ps.map Spot.of).flatMap Spot.edgeRow =
      ps.flatMap fun p => Outline.edgeRow (IdSupply.nameOf p.1) p.1 p.2.hanging := by
  rw [List.flatMap_map]
  rfl

theorem DefinitionOutline.zipIdx_rows (number i : Nat) (ds : List DefinitionOutline) :
    ((ds.zipIdx (i + 1)).map fun p => (p.1.name, IdSupply.nameOf (number + 1 + p.2))) =
      (ds.zipIdx i).map fun p => (p.1.name, IdSupply.nameOf (number + 1 + 1 + p.2)) := by
  rw [List.zipIdx_succ, List.map_map]
  refine List.map_congr_left fun p _ => ?_
  obtain ⟨d, k⟩ := p
  show (d.name, IdSupply.nameOf (number + 1 + (k + 1))) = _
  rw [Nat.add_comm k 1, ← Nat.add_assoc]

theorem DefinitionOutline.nodes_perm (number : Nat) (ds : List DefinitionOutline) :
    ∀ used, (((ds.zipIdx 0).map fun p => (p.1.name, IdSupply.nameOf (number + 1 + p.2))).map
        (fun p => (p.2, (Node.ofDefinition p.1 : Node NodeId))) ++ nodes used ds).Perm
      ((spots number used ds).map Spot.nodeRow) := by
  induction ds generalizing number with
  | nil => exact fun _ => List.Perm.refl _
  | cons d ds ih =>
    intro used
    rw [List.zipIdx_cons, List.map_cons, List.map_cons, zipIdx_rows, nodes, spots, List.map_cons,
      List.map_append, Outline.map_spot_nodeRow, List.cons_append]
    refine List.Perm.cons _ ?_
    refine List.Perm.trans ?_
      ((Outline.nodesBelow_perm used d.hanging).append (ih (number + 1) (used + d.size)))
    rw [← List.append_assoc, ← List.append_assoc]
    exact List.Perm.append_right _ List.perm_append_comm

theorem DefinitionOutline.rows_eq (number : Nat) (ds : List DefinitionOutline) :
    ∀ used, rows number used ds = (spots number used ds).flatMap Spot.edgeRow := by
  induction ds generalizing number with
  | nil => exact fun _ => rfl
  | cons d ds ih =>
    intro used
    rw [rows, spots, List.flatMap_cons, List.flatMap_append, Outline.flatMap_spot_edgeRow,
      ← Outline.rowsBelow_eq, ih, List.append_assoc]
    rfl

namespace DocumentOutline

theorem nodes_perm (used : Nat) (d : DocumentOutline) :
    (((rootName, Outline.named d.root.node (d.top used) d.root.hanging) ::
        (d.definitionRows used).map (fun p => (p.2, Node.ofDefinition p.1)) ++
        DefinitionOutline.nodes (d.contents used) d.definitions ++
        Outline.nodesBelow (d.top used) d.root.hanging)).Perm
      ((d.spots used).map Spot.nodeRow) := by
  rw [spots, List.map_cons, List.map_append, Outline.map_spot_nodeRow, List.cons_append,
    List.cons_append]
  refine List.Perm.cons _ ?_
  exact (DefinitionOutline.nodes_perm used d.definitions (d.contents used)).append
    (Outline.nodesBelow_perm (d.top used) d.root.hanging)

theorem rows_perm (used : Nat) (d : DocumentOutline) :
    (DefinitionOutline.rows used (d.contents used) d.definitions ++
        Outline.edgeRow rootName (d.top used) d.root.hanging ++
        Outline.rowsBelow (d.top used) d.root.hanging).Perm
      ((d.spots used).flatMap Spot.edgeRow) := by
  rw [spots, List.flatMap_cons, List.flatMap_append, Outline.flatMap_spot_edgeRow,
    DefinitionOutline.rows_eq, Outline.rowsBelow_eq, ← List.append_assoc]
  exact List.Perm.append_right _ List.perm_append_comm

end DocumentOutline

/-! ### Names -/

theorem Outline.map_spot_name (ps : List (Nat × Outline)) :
    (ps.map Spot.of).map Spot.name = (ps.map Prod.fst).map IdSupply.nameOf := by
  rw [List.map_map, List.map_map]
  rfl

theorem DefinitionOutline.names_perm (number : Nat) (ds : List DefinitionOutline) :
    ∀ used, ((spots number used ds).map Spot.name).Perm
      ((List.range' (number + 1) ds.length ++ List.range' (used + 1) (sizeAll ds)).map
        IdSupply.nameOf) := by
  induction ds generalizing number with
  | nil => exact fun _ => List.Perm.refl _
  | cons d ds ih =>
    intro used
    rw [spots, List.map_cons, List.map_append, Outline.map_spot_name, Outline.map_fst_spotsBelow,
      List.length_cons, List.range'_succ, List.cons_append, List.map_cons, sizeAll]
    refine List.Perm.cons _ ?_
    refine ((ih (number + 1) (used + d.size)).append_left _).trans ?_
    rw [← List.map_append]
    refine List.Perm.map _ ?_
    rw [← List.range'_append_1, Nat.add_right_comm used 1, ← List.append_assoc,
      ← List.append_assoc]
    exact List.Perm.append_right _ List.perm_append_comm

theorem DefinitionOutline.targets_perm (number : Nat) (ds : List DefinitionOutline) :
    ∀ used, ((spots number used ds).flatMap Spot.places).Perm
      (List.range' (used + 1) (sizeAll ds)) := by
  induction ds generalizing number with
  | nil => exact fun _ => List.Perm.refl _
  | cons d ds ih =>
    intro used
    rw [spots, List.flatMap_cons, List.flatMap_append, List.flatMap_map, sizeAll,
      ← List.range'_append_1, Nat.add_right_comm used 1, ← List.append_assoc]
    refine List.Perm.append ?_ (ih (number + 1) (used + d.size))
    exact (Outline.placesBelow_perm used d.hanging).trans
      (List.Perm.of_eq (Outline.map_fst_spotsBelow used d.hanging))

namespace DocumentOutline

theorem targets_perm (used : Nat) (d : DocumentOutline) :
    ((d.spots used).flatMap Spot.places).Perm
      (List.range' (d.contents used + 1) (DefinitionOutline.sizeAll d.definitions) ++
        List.range' (d.top used + 1) (Outline.sizeAll d.root.hanging)) := by
  rw [spots, List.flatMap_cons, List.flatMap_append, List.flatMap_map]
  refine (List.perm_append_comm_assoc _ _ _).trans ?_
  refine List.Perm.append (DefinitionOutline.targets_perm used d.definitions (d.contents used)) ?_
  exact (Outline.placesBelow_perm (d.top used) d.root.hanging).trans
    (List.Perm.of_eq (Outline.map_fst_spotsBelow (d.top used) d.root.hanging))

/-- Every node is a top, or hangs below one other. -/
theorem names_perm (used : Nat) (d : DocumentOutline) :
    ((d.spots used).map Spot.name).Perm
      (d.tops used ++ ((d.spots used).flatMap Spot.places).map IdSupply.nameOf) := by
  have htargets := (d.targets_perm used).map IdSupply.nameOf
  refine List.Perm.trans ?_ ((htargets.append_left (d.tops used)).symm)
  rw [spots, List.map_cons, List.map_append, Outline.map_spot_name, Outline.map_fst_spotsBelow, tops,
    List.cons_append]
  refine List.Perm.cons _ ?_
  refine ((DefinitionOutline.names_perm used d.definitions (d.contents used)).append_right _).trans ?_
  rw [List.map_append, List.map_append, List.append_assoc]

/-- The nodes take the names from the supply one after another. -/
theorem names_perm_range (used : Nat) (d : DocumentOutline) :
    ((d.spots used).map Spot.name).Perm
      (rootName :: (List.range' (used + 1) d.size).map IdSupply.nameOf) := by
  refine (d.names_perm used).trans ?_
  refine (((d.targets_perm used).map IdSupply.nameOf).append_left (d.tops used)).trans ?_
  rw [tops, List.cons_append, ← List.map_append, size, Nat.add_assoc, ← List.range'_append_1,
    ← List.range'_append_1]
  refine List.Perm.of_eq ?_
  rw [top, contents]
  have h₁ : used + 1 + d.definitions.length = used + d.definitions.length + 1 := by omega
  have h₂ : used + d.definitions.length + 1 + DefinitionOutline.sizeAll d.definitions =
      used + d.definitions.length + DefinitionOutline.sizeAll d.definitions + 1 := by omega
  rw [h₁, h₂]

theorem nodup_names (used : Nat) (d : DocumentOutline) :
    ((d.spots used).map Spot.name).Nodup := by
  rw [(d.names_perm_range used).nodup_iff, List.nodup_cons]
  refine ⟨fun h => ?_, (List.nodup_range' 1).map fun i j h => IdSupply.nameOf_injective h⟩
  obtain ⟨k, _, hk⟩ := List.mem_map.1 h
  exact IdSupply.nameOf_ne_rootName k hk

end DocumentOutline

/-! ## The views of a laid out document -/

/-- The graph shows the spots: each has its node and its edges, and there is nothing else. -/
structure LaidOut (g : Graph) (spots : List Spot) : Prop where
  /-- The nodes are those of the spots. -/
  node : ∀ {x : NodeId} {n : Node NodeId}, g.node? x = some n ↔
    ∃ s ∈ spots, s.name = x ∧ s.node = n
  /-- The edges below a node are those of its spot. -/
  edges : ∀ s ∈ spots, g.edgesFrom s.name = s.edges
  /-- There are no other edges. -/
  edges_outside : ∀ x, (∀ s ∈ spots, s.name ≠ x) → g.edgesFrom x = []
  /-- What owns a node is an edge of a spot that leads to it. -/
  owner : ∀ {x : NodeId} {e : Edge}, g.owningEdge x = some e ↔
    ∃ s ∈ spots, e ∈ s.edges ∧ e.target = x
  /-- Spots have different names. -/
  same : ∀ s ∈ spots, ∀ t ∈ spots, s.name = t.name → s = t

theorem Spot.names_edgeRow_sublist (spots : List Spot) :
    (Entries.names (spots.flatMap Spot.edgeRow)).Sublist (spots.map Spot.name) := by
  induction spots with
  | nil => exact List.Sublist.refl _
  | cons s ss ih =>
    rw [List.flatMap_cons, Entries.names, List.map_append, List.map_cons]
    unfold Spot.edgeRow Outline.edgeRow
    split
    · exact ih.cons _
    · exact ih.cons_cons _

theorem Spot.edges_edgeRow (spots : List Spot) :
    (spots.flatMap Spot.edgeRow).flatMap (·.2) = spots.flatMap Spot.edges := by
  induction spots with
  | nil => rfl
  | cons s ss ih =>
    rw [List.flatMap_cons, List.flatMap_append, ih, List.flatMap_cons]
    congr 1
    unfold Spot.edgeRow Outline.edgeRow
    split
    · next h =>
      rw [List.isEmpty_iff] at h
      simp [Spot.edges, Outline.edges, h]
    · simp [Spot.edges]

theorem Entries.find?_perm {α : Type} {es fs : List (String × α)} (hp : es.Perm fs)
    (hn : (Entries.names es).Nodup) (name : String) :
    Entries.find? es name = Entries.find? fs name := by
  have hn' : (Entries.names fs).Nodup := ((hp.map Prod.fst).nodup_iff).1 hn
  refine Option.ext fun v => ?_
  rw [← Entries.mem_iff_find? hn, ← Entries.mem_iff_find? hn', hp.mem_iff]

namespace DocumentOutline

theorem edges_target_perm (used : Nat) (d : DocumentOutline) :
    ((d.spots used).flatMap Spot.edges).map (·.target) =
      ((d.spots used).flatMap Spot.places).map IdSupply.nameOf := by
  rw [List.map_flatMap, List.map_flatMap]
  simp only [Spot.target_edges]

theorem nodup_targets (used : Nat) (d : DocumentOutline) :
    (((d.spots used).flatMap Spot.edges).map (·.target)).Nodup := by
  rw [edges_target_perm]
  exact (List.nodup_append.1 ((d.names_perm used).nodup_iff.1 (d.nodup_names used))).2.1

/-! ### The tables of the graph -/

theorem mem_edgeRows_iff {ss : List Spot} {x : NodeId} {es : List Edge} :
    (x, es) ∈ ss.flatMap Spot.edgeRow ↔
      ∃ s ∈ ss, s.name = x ∧ s.hanging ≠ [] ∧ s.edges = es := by
  simp only [List.mem_flatMap]
  refine exists_congr fun s => and_congr_right fun _ => ?_
  unfold Spot.edgeRow Outline.edgeRow
  cases hh : s.hanging with
  | nil => simp
  | cons b bs => simp [Spot.edges, hh, eq_comm]

theorem nodup_edgeRows (used : Nat) (d : DocumentOutline) :
    (Entries.names ((d.spots used).flatMap Spot.edgeRow)).Nodup :=
  (d.nodup_names used).sublist (Spot.names_edgeRow_sublist _)

theorem nodup_nodeRows (used : Nat) (d : DocumentOutline) :
    (Entries.names ((d.spots used).map Spot.nodeRow)).Nodup := by
  rw [Entries.names, List.map_map]
  exact d.nodup_names used

theorem nodup_ownerRows (used : Nat) (d : DocumentOutline) :
    (Entries.names (((d.spots used).flatMap Spot.edges).map fun e : Edge => (e.target, e))).Nodup := by
  rw [Entries.names, List.map_map]
  exact d.nodup_targets used

theorem node?_toGraph (used : Nat) (d : DocumentOutline) (x : NodeId) :
    (d.toGraph used).node? x = Entries.find? ((d.spots used).map Spot.nodeRow) x := by
  have hp := d.nodes_perm used
  have hn := ((hp.map Prod.fst).nodup_iff).2 (d.nodup_nodeRows used)
  exact (Table.find?_ofList hn x).trans (Entries.find?_perm hp hn x)

theorem find?_outgoing_toGraph (used : Nat) (d : DocumentOutline) (x : NodeId) :
    (d.toGraph used).outgoing.find? x =
      Entries.find? ((d.spots used).flatMap Spot.edgeRow) x := by
  have hp := d.rows_perm used
  have hn := ((hp.map Prod.fst).nodup_iff).2 (d.nodup_edgeRows used)
  exact (Table.find?_ofList hn x).trans (Entries.find?_perm hp hn x)

theorem owningEdge_toGraph (used : Nat) (d : DocumentOutline) (x : NodeId) :
    (d.toGraph used).owningEdge x = Entries.find?
      (((d.spots used).flatMap Spot.edges).map fun e : Edge => (e.target, e)) x := by
  have hp : ((DefinitionOutline.rows used (d.contents used) d.definitions ++
      Outline.edgeRow rootName (d.top used) d.root.hanging ++
      Outline.rowsBelow (d.top used) d.root.hanging).flatMap (·.2)).Perm
      ((d.spots used).flatMap Spot.edges) := by
    rw [← Spot.edges_edgeRow]
    exact (d.rows_perm used).flatMap_right _
  have hp' := hp.map fun e : Edge => (e.target, e)
  have hn := ((hp'.map Prod.fst).nodup_iff).2 (d.nodup_ownerRows used)
  exact (Table.find?_ofList hn x).trans (Entries.find?_perm hp' hn x)

/-- Laying a document out gives a graph that shows its spots. -/
theorem laidOut (used : Nat) (d : DocumentOutline) : LaidOut (d.toGraph used) (d.spots used) := by
  have hsame : ∀ s ∈ d.spots used, ∀ t ∈ d.spots used, s.name = t.name → s = t :=
    fun s hs t ht h => List.inj_on_of_nodup_map (d.nodup_names used) hs ht h
  refine ⟨fun {x n} => ?_, fun s hs => ?_, fun x hx => ?_, fun {x e} => ?_, hsame⟩
  · rw [node?_toGraph, ← Entries.mem_iff_find? (d.nodup_nodeRows used), List.mem_map]
    simp only [Spot.nodeRow, Prod.mk.injEq]
  · unfold Graph.edgesFrom
    rw [find?_outgoing_toGraph]
    by_cases hh : s.hanging = []
    · have hnone : Entries.find? ((d.spots used).flatMap Spot.edgeRow) s.name = none := by
        rw [Entries.find?_eq_none_iff]
        intro hmem
        obtain ⟨⟨x, es⟩, hx, heq⟩ := List.mem_map.1 hmem
        obtain ⟨t, ht, hname, hne, _⟩ := mem_edgeRows_iff.1 hx
        rw [hsame t ht s hs (hname.trans heq)] at hne
        exact hne hh
      rw [hnone]
      simp [Spot.edges, Outline.edges, hh]
    · rw [Entries.find?_of_mem (d.nodup_edgeRows used) (mem_edgeRows_iff.2 ⟨s, hs, rfl, hh, rfl⟩),
        Option.getD_some]
  · unfold Graph.edgesFrom
    rw [find?_outgoing_toGraph, Entries.find?_eq_none_iff.2, Option.getD_none]
    intro hmem
    obtain ⟨⟨y, es⟩, hy, rfl⟩ := List.mem_map.1 hmem
    obtain ⟨t, ht, hname, _⟩ := mem_edgeRows_iff.1 hy
    exact hx t ht hname
  · rw [owningEdge_toGraph, ← Entries.mem_iff_find? (d.nodup_ownerRows used), List.mem_map]
    simp only [Prod.mk.injEq, List.mem_flatMap]
    constructor
    · rintro ⟨f, ⟨s, hs, hf⟩, rfl, rfl⟩
      exact ⟨s, hs, hf, rfl⟩
    · rintro ⟨s, hs, hf, rfl⟩
      exact ⟨e, ⟨s, hs, hf⟩, rfl, rfl⟩

end DocumentOutline

end FormGraph

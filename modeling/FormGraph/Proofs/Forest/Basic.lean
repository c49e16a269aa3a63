import FormGraph.Proofs.Views

/-!
# Forests of owned nodes

A graph keeps every edge twice: in the row of the node above it, and as the edge that owns the node
below it. `Forest` says that the two agree, that an edge joins nodes that are there, and that climbing
from a node along the edges that own one always ends.

The rest of the module says what the steps of an edit need in order to keep a forest one. Detaching a
node always does; hanging a node below another does when it hung nowhere and the other is not below
it (`Forest.wire`); forgetting nodes does when they are everything below some node that was detached
(`Forest.dropAll`).
-/

namespace FormGraph

namespace Graph

/-- Climbing from the node along owning edges ends. -/
inductive Grounded (g : Graph) : NodeId → Prop where
  /-- Nothing owns the node. -/
  | top {id : NodeId} (h : g.owningEdge id = none) : Grounded g id
  /-- An edge owns the node, and climbing on from its source ends. -/
  | owned {id : NodeId} {e : Edge} (h : g.owningEdge id = some e) (up : Grounded g e.source) :
      Grounded g id

/-- The second node is the first one, or hangs somewhere below it. -/
inductive Below (g : Graph) (top : NodeId) : NodeId → Prop where
  /-- The node itself. -/
  | refl : Below g top top
  /-- A node that an edge from below the first one owns. -/
  | step {id : NodeId} {e : Edge} (h : g.owningEdge id = some e) (up : Below g top e.source) :
      Below g top id

/-- The two records of the edges agree, and every climb ends. -/
structure Forest (g : Graph) : Prop where
  /-- An edge is kept with its source. -/
  source_eq : ∀ {id : NodeId} {e : Edge}, e ∈ g.edgesFrom id → e.source = id
  /-- An edge owns its target. -/
  owned : ∀ {id : NodeId} {e : Edge}, e ∈ g.edgesFrom id → g.owningEdge e.target = some e
  /-- An owning edge leads to the node it owns and is kept with its source. -/
  listed : ∀ {id : NodeId} {e : Edge}, g.owningEdge id = some e →
    e.target = id ∧ e ∈ g.edgesFrom e.source
  /-- No edge is kept twice. -/
  nodup : ∀ id : NodeId, (g.edgesFrom id).Nodup
  /-- An edge joins nodes that are there. -/
  present : ∀ {id : NodeId} {e : Edge}, g.owningEdge id = some e →
    (g.node? id).isSome ∧ (g.node? e.source).isSome
  /-- Every climb ends. -/
  grounded : ∀ id : NodeId, Grounded g id

variable {g g' : Graph}

theorem Below.trans {a b c : NodeId} (hab : Below g a b) (hbc : Below g b c) : Below g a c := by
  induction hbc with
  | refl => exact hab
  | step h _ ih => exact .step h ih

/-- A node below another one is that node, or its parent is below that node. -/
theorem below_iff {top id : NodeId} :
    Below g top id ↔ id = top ∨ ∃ e, g.owningEdge id = some e ∧ Below g top e.source := by
  constructor
  · intro h
    cases h with
    | refl => exact Or.inl rfl
    | step h up => exact Or.inr ⟨_, h, up⟩
  · rintro (rfl | ⟨e, h, up⟩)
    · exact .refl
    · exact .step h up

theorem Grounded.congr (ho : ∀ x, g'.owningEdge x = g.owningEdge x) {id : NodeId}
    (h : Grounded g id) : Grounded g' id := by
  induction h with
  | top h => exact .top (by rw [ho, h])
  | owned h _ ih => exact .owned (by rw [ho, h]) ih

theorem Below.congr (ho : ∀ x, g'.owningEdge x = g.owningEdge x) {top id : NodeId}
    (h : Below g top id) : Below g' top id := by
  induction h with
  | refl => exact .refl
  | step h _ ih => exact .step (by rw [ho, h]) ih

/-- A climb that ends does not come back to where it began. -/
theorem Grounded.not_below_owner {id : NodeId} (h : Grounded g id) {e : Edge}
    (ho : g.owningEdge id = some e) : ¬ Below g id e.source := by
  induction h generalizing e with
  | top h =>
    rw [h] at ho
    cases ho
  | @owned id f h _ ih =>
    obtain rfl := Option.some.inj (h.symm.trans ho)
    -- a climb that came back to the node would come back to its parent as well
    rw [below_iff]
    rintro (heq | ⟨f', hf', hup⟩)
    · exact ih (heq ▸ h) (heq ▸ .refl)
    · exact ih hf' (Below.trans (.step h .refl) hup)

namespace Forest

/-- What changes nodes only, and takes none away, keeps a forest. -/
theorem congr (hf : Forest g) (he : ∀ x, g'.edgesFrom x = g.edgesFrom x)
    (ho : ∀ x, g'.owningEdge x = g.owningEdge x)
    (hn : ∀ x, (g.node? x).isSome → (g'.node? x).isSome) : Forest g' where
  source_eq h := hf.source_eq (by rwa [he] at h)
  owned h := by
    rw [ho]
    exact hf.owned (by rwa [he] at h)
  listed h := by
    rw [he]
    exact hf.listed (by rwa [ho] at h)
  nodup id := by
    rw [he]
    exact hf.nodup id
  present h := by
    rw [ho] at h
    exact ⟨hn _ (hf.present h).1, hn _ (hf.present h).2⟩
  grounded id := (hf.grounded id).congr ho

/-- Of the edges below a node, one leads to each target. -/
theorem edge_unique (hf : Forest g) {a b : NodeId} {e f : Edge} (he : e ∈ g.edgesFrom a)
    (hf' : f ∈ g.edgesFrom b) (ht : e.target = f.target) : e = f := by
  have h := hf.owned he
  rw [ht, hf.owned hf'] at h
  exact (Option.some.inj h).symm

/-- Edges below a node lead to different nodes. -/
theorem nodup_targets (hf : Forest g) (id : NodeId) : ((g.edgesFrom id).map (·.target)).Nodup :=
  (hf.nodup id).map_on fun _ ha _ hb h => hf.edge_unique ha hb h

theorem target_present (hf : Forest g) {id : NodeId} {e : Edge} (h : e ∈ g.edgesFrom id) :
    (g.node? e.target).isSome :=
  (hf.present (hf.owned h)).1

theorem child_present (hf : Forest g) {id c : NodeId} (h : c ∈ g.childIds id) :
    (g.node? c).isSome := by
  obtain ⟨e, he, rfl, -⟩ := mem_edgesFrom_of_mem_childIds h
  exact hf.target_present he

/-- Edges below a node that is not there do not exist. -/
theorem edgesFrom_eq_nil (hf : Forest g) {id : NodeId} (h : g.node? id = none) :
    g.edgesFrom id = [] := by
  rw [List.eq_nil_iff_forall_not_mem]
  intro e he
  have hp := (hf.present (hf.owned he)).2
  rw [hf.source_eq he, h] at hp
  simp at hp

/-- Nothing owns a node that is not there. -/
theorem owningEdge_eq_none (hf : Forest g) {id : NodeId} (h : g.node? id = none) :
    g.owningEdge id = none := by
  cases ho : g.owningEdge id with
  | none => rfl
  | some e =>
    have hp := (hf.present ho).1
    rw [h] at hp
    simp at hp

/-- What owns a node is not below it. -/
theorem not_below_owner (hf : Forest g) {id : NodeId} {e : Edge} (ho : g.owningEdge id = some e) :
    ¬ Below g id e.source :=
  (hf.grounded id).not_below_owner ho

theorem parent_ne (hf : Forest g) {id : NodeId} {e : Edge} (h : g.owningEdge id = some e) :
    e.source ≠ id := fun heq => hf.not_below_owner h (heq ▸ .refl)

/-- Two nodes below each other are one. -/
theorem below_antisymm (hf : Forest g) {a b : NodeId} (hab : Below g a b) (hba : Below g b a) :
    a = b := by
  rcases below_iff.1 hab with heq | ⟨e, he, hup⟩
  · exact heq.symm
  · exact absurd (hba.trans hup) (hf.not_below_owner he)

/-! ## Taking a node off -/

theorem grounded_detach (t : NodeId) {id : NodeId} (h : Grounded g id) :
    Grounded (g.detach t) id := by
  induction h with
  | @top id h =>
    refine .top ?_
    rw [owningEdge_detach, h]
    split <;> rfl
  | @owned id e h _ ih =>
    by_cases ht : t = id
    · exact .top (by rw [owningEdge_detach, if_pos ht])
    · exact .owned (by rw [owningEdge_detach, if_neg ht, h]) ih

/-- Detaching a node keeps a forest. -/
theorem detach (hf : Forest g) (t : NodeId) : Forest (g.detach t) := by
  have hsub : ∀ {x : NodeId} {e : Edge}, e ∈ (g.detach t).edgesFrom x →
      e ∈ g.edgesFrom x ∧ e.target ≠ t := by
    intro x e he
    rw [edgesFrom_detach] at he
    by_cases hp : g.parentId t = some x
    · rw [if_pos hp, List.mem_filter] at he
      refine ⟨he.1, fun ht => ?_⟩
      have ho := hf.owned he.1
      rw [ht] at ho
      simp [ho] at he
    · rw [if_neg hp] at he
      refine ⟨he, fun ht => hp ?_⟩
      have ho := hf.owned he
      rw [ht] at ho
      simp [parentId, ho, hf.source_eq he]
  have hown : ∀ {x : NodeId} {e : Edge}, (g.detach t).owningEdge x = some e →
      t ≠ x ∧ g.owningEdge x = some e := by
    intro x e he
    rw [owningEdge_detach] at he
    by_cases hx : t = x
    · simp [hx] at he
    · exact ⟨hx, by rwa [if_neg hx] at he⟩
  exact
    { source_eq := fun h => hf.source_eq (hsub h).1
      owned := fun h => by
        rw [owningEdge_detach, if_neg (Ne.symm (hsub h).2)]
        exact hf.owned (hsub h).1
      listed := fun {id e} h => by
        obtain ⟨hne, ho⟩ := hown h
        obtain ⟨ht, hm⟩ := hf.listed ho
        refine ⟨ht, ?_⟩
        rw [edgesFrom_detach]
        split
        · rw [List.mem_filter]
          refine ⟨hm, ?_⟩
          simp only [decide_eq_true_eq]
          intro hte
          exact hne ((hf.listed hte).1.symm.trans ht)
        · exact hm
      nodup := fun id => by
        rw [edgesFrom_detach]
        split
        · exact (hf.nodup id).filter _
        · exact hf.nodup id
      present := fun h => by
        rw [node?_detach, node?_detach]
        exact hf.present (hown h).2
      grounded := fun id => grounded_detach t (hf.grounded id) }

/-- What was not below the detached node is not below it afterwards. -/
theorem below_of_below_detach {t top id : NodeId} (h : Below (g.detach t) top id) :
    Below g top id := by
  induction h with
  | refl => exact .refl
  | @step id e h _ ih =>
    rw [owningEdge_detach] at h
    by_cases ht : t = id
    · simp [ht] at h
    · exact .step (by rwa [if_neg ht] at h) ih

/-! ## Hanging a node below another -/

theorem grounded_wire {e : Edge} {es : List Edge} {id : NodeId} (h : Grounded g id)
    (hb : ¬ Below g e.target id) : Grounded (g.wire e es) id := by
  induction h with
  | @top id h =>
    have hne : e.target ≠ id := fun ht => hb (ht ▸ .refl)
    exact .top (by rw [owningEdge_wire, if_neg hne, h])
  | @owned id f h _ ih =>
    have hne : e.target ≠ id := fun ht => hb (ht ▸ .refl)
    refine .owned (by rw [owningEdge_wire, if_neg hne, h]) (ih fun hup => hb (.step h hup))

/-- A climb either never meets the new node, or goes on from its new parent. -/
theorem grounded_wire_of_source {e : Edge} {es : List Edge} {id : NodeId} (h : Grounded g id)
    (hsource : Grounded (g.wire e es) e.source) : Grounded (g.wire e es) id := by
  induction h with
  | @top id h =>
    by_cases hx : e.target = id
    · exact .owned (by rw [owningEdge_wire, if_pos hx]) hsource
    · exact .top (by rw [owningEdge_wire, if_neg hx, h])
  | @owned id f h _ ih =>
    by_cases hx : e.target = id
    · exact .owned (by rw [owningEdge_wire, if_pos hx]) hsource
    · exact .owned (by rw [owningEdge_wire, if_neg hx, h]) ih

/-- The edges below the nodes are those of before and the new one. -/
theorem mem_edgesFrom_wire {e : Edge} {front back : List Edge}
    (hsplit : g.edgesFrom e.source = front ++ back) {x : NodeId} {f : Edge} :
    f ∈ (g.wire e (front ++ e :: back)).edgesFrom x ↔
      (x = e.source ∧ f = e) ∨ f ∈ g.edgesFrom x := by
  rw [edgesFrom_wire]
  by_cases hx : e.source = x
  · subst hx
    rw [if_pos rfl, hsplit, List.mem_append, List.mem_append, List.mem_cons]
    tauto
  · rw [if_neg hx]
    exact ⟨Or.inr, fun h => h.elim (fun h => absurd h.1.symm hx) fun h => h⟩

/-- Hanging a node that nothing owns below one that is not below it keeps a forest. -/
theorem wire (hf : Forest g) {e : Edge} {es front back : List Edge}
    (hsplit : g.edgesFrom e.source = front ++ back) (hes : es = front ++ e :: back)
    (hfree : g.owningEdge e.target = none) (hs : (g.node? e.source).isSome)
    (ht : (g.node? e.target).isSome) (hb : ¬ Below g e.target e.source) :
    Forest (g.wire e es) := by
  subst hes
  have hnew : ∀ {x : NodeId} {f : Edge}, f ∈ g.edgesFrom x → f.target ≠ e.target := by
    intro x f h heq
    have ho := hf.owned h
    rw [heq, hfree] at ho
    simp at ho
  refine
    { source_eq := ?_
      owned := ?_
      listed := ?_
      nodup := ?_
      present := ?_
      grounded := ?_ }
  · intro x f h
    rcases (mem_edgesFrom_wire hsplit).1 h with ⟨rfl, rfl⟩ | h
    · rfl
    · exact hf.source_eq h
  · intro x f h
    rw [owningEdge_wire]
    rcases (mem_edgesFrom_wire hsplit).1 h with ⟨_, rfl⟩ | h
    · rw [if_pos rfl]
    · rw [if_neg (Ne.symm (hnew h))]
      exact hf.owned h
  · intro x f h
    rw [owningEdge_wire] at h
    by_cases hx : e.target = x
    · rw [if_pos hx] at h
      obtain rfl := Option.some.inj h
      exact ⟨hx, (mem_edgesFrom_wire hsplit).2 (Or.inl ⟨rfl, rfl⟩)⟩
    · rw [if_neg hx] at h
      exact ⟨(hf.listed h).1, (mem_edgesFrom_wire hsplit).2 (Or.inr (hf.listed h).2)⟩
  · intro x
    rw [edgesFrom_wire]
    by_cases hx : e.source = x
    · subst hx
      have hnd := hf.nodup e.source
      rw [hsplit] at hnd
      rw [if_pos rfl, List.nodup_middle, List.nodup_cons]
      refine ⟨fun hmem => ?_, hnd⟩
      rw [← hsplit] at hmem
      exact hnew hmem rfl
    · rw [if_neg hx]
      exact hf.nodup x
  · intro x f h
    rw [owningEdge_wire] at h
    by_cases hx : e.target = x
    · rw [if_pos hx] at h
      obtain rfl := Option.some.inj h
      exact ⟨hx ▸ ht, hs⟩
    · rw [if_neg hx] at h
      exact hf.present h
  · exact fun x => grounded_wire_of_source (hf.grounded x) (grounded_wire (hf.grounded _) hb)

/-! ## Putting the edges below a node in another order -/

theorem setEdges_perm (hf : Forest g) {id : NodeId} {es : List Edge}
    (hp : es.Perm (g.edgesFrom id)) : Forest (g.setEdges id es) := by
  have hmem : ∀ {x : NodeId} {e : Edge}, e ∈ (g.setEdges id es).edgesFrom x ↔
      e ∈ g.edgesFrom x := by
    intro x e
    rw [edgesFrom_setEdges]
    by_cases hx : id = x
    · subst hx
      rw [if_pos rfl]
      exact hp.mem_iff
    · rw [if_neg hx]
  exact
    { source_eq := fun h => hf.source_eq (hmem.1 h)
      owned := fun h => hf.owned (hmem.1 h)
      listed := fun h => ⟨(hf.listed h).1, hmem.2 (hf.listed h).2⟩
      nodup := fun x => by
        rw [edgesFrom_setEdges]
        by_cases hx : id = x
        · subst hx
          rw [if_pos rfl]
          exact hp.nodup_iff.2 (hf.nodup id)
        · rw [if_neg hx]
          exact hf.nodup x
      present := fun h => hf.present h
      grounded := fun x => Grounded.congr (fun y => owningEdge_setEdges g id es y) (hf.grounded x) }

/-! ## Forgetting nodes -/

/-- Forgetting nodes that no edge joins to the others keeps a forest. -/
theorem dropAll (hf : Forest g) {ids : List NodeId}
    (hc : ∀ x e, g.owningEdge x = some e → (x ∈ ids ↔ e.source ∈ ids)) :
    Forest (g.dropAll ids) := by
  have hown : ∀ {x : NodeId} {e : Edge}, (g.dropAll ids).owningEdge x = some e →
      x ∉ ids ∧ g.owningEdge x = some e := by
    intro x e h
    rw [owningEdge_dropAll] at h
    by_cases hx : x ∈ ids
    · simp [hx] at h
    · exact ⟨hx, by rwa [if_neg hx] at h⟩
  have hedge : ∀ {x : NodeId} {e : Edge}, e ∈ (g.dropAll ids).edgesFrom x →
      x ∉ ids ∧ e ∈ g.edgesFrom x := by
    intro x e h
    rw [edgesFrom_dropAll] at h
    by_cases hx : x ∈ ids
    · simp [hx] at h
    · exact ⟨hx, by rwa [if_neg hx] at h⟩
  refine
    { source_eq := fun h => hf.source_eq (hedge h).2
      owned := ?_
      listed := ?_
      nodup := ?_
      present := ?_
      grounded := ?_ }
  · intro x e h
    obtain ⟨hx, he⟩ := hedge h
    have ho := hf.owned he
    have ht : e.target ∉ ids := by
      rw [hc _ _ ho, hf.source_eq he]
      exact hx
    rw [owningEdge_dropAll, if_neg ht]
    exact ho
  · intro x e h
    obtain ⟨hx, ho⟩ := hown h
    refine ⟨(hf.listed ho).1, ?_⟩
    rw [edgesFrom_dropAll, if_neg (mt (hc _ _ ho).2 hx)]
    exact (hf.listed ho).2
  · intro x
    rw [edgesFrom_dropAll]
    split
    · exact List.nodup_nil
    · exact hf.nodup x
  · intro x e h
    obtain ⟨hx, ho⟩ := hown h
    rw [node?_dropAll, node?_dropAll, if_neg hx, if_neg (mt (hc _ _ ho).2 hx)]
    exact hf.present ho
  · intro x
    have key : ∀ y, Grounded g y → Grounded (g.dropAll ids) y := by
      intro y hy
      induction hy with
      | @top y h =>
        refine .top ?_
        rw [owningEdge_dropAll, h]
        split <;> rfl
      | @owned y e h _ ih =>
        by_cases hy : y ∈ ids
        · exact .top (by rw [owningEdge_dropAll, if_pos hy])
        · exact .owned (by rw [owningEdge_dropAll, if_neg hy, h]) ih
    exact key x (hf.grounded x)

end Forest

end Graph

end FormGraph

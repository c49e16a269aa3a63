import FormGraph.Proofs.Agreement.Change

/-!
# Groups whose clauses share their branches

All clauses of an `if` block have the same branches. What keeps it so when the branches are moved,
removed, promoted or copied is that these edits treat all clauses of a group alike: afterwards each
group has the clauses it, or its original, had before, with the branches renamed or let go of
(`Balanced.image`). For the edits that write clauses a second fact is needed, which holds of all groups:
a then branch hangs over an else edge only if it is the else branch of the same clause too. Because of
it, appending a clause like the ones there are moves no branch, and a branch that some clause needs
where it hangs is not moved for another one.
-/

namespace FormGraph

namespace Graph

variable {g g' old : Graph} {s : IdSupply}

/-- The clauses of a group have the same branches, and a node that hangs below the group as its else
branch is its then branch only if it is both. -/
structure Even (g : Graph) (id : NodeId) : Prop where
  /-- The clauses have the same branches. -/
  shared : ∀ c ∈ g.clausesAt id, ∀ d ∈ g.clausesAt id, c.branches = d.branches
  /-- A then branch over an else edge is the else branch too. -/
  leaning : ∀ c ∈ g.clausesAt id, ∀ t, c.onTrue = some t →
    g.owningEdge t = some ⟨id, t, .elseBranch⟩ → c.onFalse = some t

/-- The clauses of every `if` block share their branches. -/
def Shared (g : Graph) : Prop := ∀ ⦃id : NodeId⦄, g.kind? id = some (.group .ifBlock) → g.Even id

/-- The kind of edge that a branch may hang over: a then branch hangs over an else edge if it is both
branches of a clause. -/
def Leans (k k' : EdgeKind) : Prop := k = k' ∨ k = .thenBranch ∧ k' = .elseBranch

/-- What holds of the clauses of every group: those of an `if` block have the same branches, and a then
branch over an else edge is both branches of its clause. -/
structure Balanced (g : Graph) (id : NodeId) : Prop where
  /-- The clauses of an `if` block have the same branches. -/
  shared : g.kind? id = some (.group .ifBlock) →
    ∀ c ∈ g.clausesAt id, ∀ d ∈ g.clausesAt id, c.branches = d.branches
  /-- A then branch over an else edge is the else branch too. -/
  leaning : ∀ c ∈ g.clausesAt id, ∀ t, c.onTrue = some t →
    g.owningEdge t = some ⟨id, t, .elseBranch⟩ → c.onFalse = some t

/-- All groups are balanced. -/
def Balance (g : Graph) : Prop := ∀ id : NodeId, g.Balanced id

theorem Balance.shared (hb : Balance g) : Shared g :=
  fun id hk => ⟨(hb id).shared hk, (hb id).leaning⟩

namespace Balanced

/-- A node without clauses. -/
theorem of_nil {x : NodeId} (h : g.clausesAt x = []) : g.Balanced x where
  shared _ c hc := by simp [h] at hc
  leaning c hc := by simp [h] at hc

/-- A group whose clauses are those of an earlier one, with the branches renamed or let go of. -/
theorem image {x y : NodeId} (h : old.Balanced y) {f : NodeId → Option NodeId}
    (hkind : g.kind? x = some (.group .ifBlock) → old.kind? y = some (.group .ifBlock))
    (hcl : g.clausesAt x = (old.clausesAt y).map (Clause.bindTargets f))
    (hown : ∀ {t u}, old.Points y t .thenBranch → f t = some u → g.Points x u .thenBranch →
      g.owningEdge u = some ⟨x, u, .elseBranch⟩ → old.owningEdge t = some ⟨y, t, .elseBranch⟩) :
    g.Balanced x where
  shared hk c hc d hd := by
    rw [hcl] at hc hd
    obtain ⟨c₀, hc₀, rfl⟩ := List.mem_map.1 hc
    obtain ⟨d₀, hd₀, rfl⟩ := List.mem_map.1 hd
    obtain ⟨htrue, hfalse⟩ := Prod.mk.inj (h.shared (hkind hk) c₀ hc₀ d₀ hd₀)
    simp only [Clause.branches, Clause.bindTargets, htrue, hfalse]
  leaning c hc u hu ho := by
    have hpoint : g.Points x u .thenBranch := ⟨c, hc, hu⟩
    rw [hcl] at hc
    obtain ⟨c₀, hc₀, rfl⟩ := List.mem_map.1 hc
    obtain ⟨t, ht, hf⟩ := Option.bind_eq_some_iff.1 hu
    have hboth := h.leaning c₀ hc₀ t ht (hown ⟨c₀, hc₀, ht⟩ hf hpoint ho)
    show c₀.onFalse.bind f = some u
    rw [hboth, Option.bind_some, hf]

/-- A group whose clauses stayed as they were. -/
theorem congr {x : NodeId} (h : g.Balanced x)
    (hkind : g'.kind? x = some (.group .ifBlock) → g.kind? x = some (.group .ifBlock))
    (hcl : g'.clausesAt x = g.clausesAt x)
    (hown : ∀ {t}, g'.Points x t .thenBranch → g'.owningEdge t = g.owningEdge t) :
    g'.Balanced x where
  shared hk c hc d hd := h.shared (hkind hk) c (hcl ▸ hc) d (hcl ▸ hd)
  leaning c hc t ht ho := h.leaning c (hcl ▸ hc) t ht (hown ⟨c, hc, ht⟩ ▸ ho)

variable {suits : EdgeKind → EdgeKind → Prop}

/-- A node was taken off its place, and the clauses have let go of it. -/
theorem release {x : NodeId} (h : g.Balanced x) (ha : Attached suits g) (hf : Forest g)
    {id : NodeId} (hkind : g'.kind? x = g.kind? x)
    (hcl : g'.clausesAt x = (g.freed id).clausesAt x)
    (hown : ∀ {t}, t ≠ id → g'.owningEdge t = g.owningEdge t) : g'.Balanced x := by
  have hkept : ∀ {t}, g'.Points x t .thenBranch → g'.owningEdge t = g.owningEdge t :=
    fun hp => hown (ha.released hf (hp.congr hcl)).2
  refine h.image hkind.symm.trans (hcl.trans (ha.clausesAt_freed hf id x)) fun {t u} _ hfu hp heq => ?_
  split_ifs at hfu
  rw [← Option.some.inj hfu] at hp heq
  rw [← hkept hp, heq]

/-- Something new hangs in the place of a node, and the clauses name it in the place of that. -/
theorem replace {w : Graph} {x : NodeId} (h : g.Balanced x) (ha : Attached suits g) {e : Edge}
    {new : NodeId} (ho : g.owningEdge e.target = some e) (hkind : w.kind? x = g.kind? x)
    (hcl : w.clausesAt x = g.clausesAt x)
    (hnew : w.owningEdge new = some ⟨e.source, new, e.kind⟩)
    (hrest : ∀ {t}, g.Points x t .thenBranch → t ≠ e.target → w.owningEdge t = g.owningEdge t) :
    (if e.kind.isBranch then w.retarget e.source e.target (some new) else w).Balanced x := by
  have hkind' : (if e.kind.isBranch then w.retarget e.source e.target (some new) else w).kind? x =
      g.kind? x := by
    split
    · rw [kind?_retarget, hkind]
    · exact hkind
  by_cases hk : e.kind.isBranch = true ∧ e.source = x
  · obtain ⟨hk, hx⟩ := hk
    rw [if_pos hk] at hkind' ⊢
    refine h.image (f := fun t => if t = e.target then some new else some t) hkind'.symm.trans ?_
      fun {t u} ht hfu _ heq => ?_
    · rw [clausesAt_retarget, if_pos hx, hcl]
    · rw [owningEdge_retarget] at heq
      split_ifs at hfu with htarget
      · rw [← Option.some.inj hfu, hnew] at heq
        obtain ⟨hsource, -, hkind⟩ := Edge.mk.inj (Option.some.inj heq)
        rw [htarget, ho, ← hsource, ← hkind]
      · rw [← Option.some.inj hfu, hrest ht htarget] at heq
        exact heq
  · -- no clause of `x` names what was replaced
    have hne : ∀ {t}, g.Points x t .thenBranch → t ≠ e.target := by
      rintro t hp rfl
      obtain ⟨hsource, _, hbranch⟩ := ha.source_eq hp ho
      exact hk ⟨hbranch, hsource⟩
    have hsame : (if e.kind.isBranch then w.retarget e.source e.target (some new) else w).clausesAt x =
        g.clausesAt x := by
      split
      · next hbranch =>
        rw [clausesAt_retarget, if_neg fun hx => hk ⟨hbranch, hx⟩, hcl]
      · exact hcl
    refine h.congr hkind'.symm.trans hsame fun hp => ?_
    have hp := hp.congr hsame
    rw [← hrest hp (hne hp)]
    split
    · rw [owningEdge_retarget]
    · rfl

end Balanced

/-! ## Edits that treat all clauses of a group alike -/

namespace Balance

variable {suits : EdgeKind → EdgeKind → Prop}

/-- What changes nothing but the version. -/
theorem next (hb : Balance g) : Balance g.next :=
  fun x => (hb x).congr id rfl fun _ => rfl

theorem addAs (hb : Balance g) (ha : Attached suits g) (hf : Forest g) {id parentId : NodeId}
    {draft : Draft} {edge : EdgeKind} {index : Option Int} (hfree : g.node? id = none)
    (hplain : draft.body.clauses = []) (h : g.addAs id draft parentId edge index = .ok g') :
    Balance g' := by
  obtain ⟨_, _, key, es, _, _, _, _, _, _, rfl⟩ := addAs_ok h
  intro x
  have hcl : ((g.putNode id (draft.build key)).wire ⟨parentId, id, edge⟩ es).next.clausesAt x =
      if id = x then [] else g.clausesAt x := by
    rw [clausesAt_next, clausesAt_wire, clausesAt_putNode, Node.clauses, Draft.build, hplain]
  by_cases hx : id = x
  · exact .of_nil (by rw [hcl, if_pos hx])
  · rw [if_neg hx] at hcl
    refine (hb x).congr (fun hk => ?_) hcl fun {t} hp => ?_
    · rwa [kind?_next, kind?_wire, kind?_putNode, if_neg hx] at hk
    · have hpresent := ha.target_present hf (hp.congr hcl)
      rw [owningEdge_next, owningEdge_wire, if_neg, owningEdge_putNode]
      rintro rfl
      rw [hfree] at hpresent
      simp at hpresent

theorem move (hb : Balance g) (ha : Attached suits g) (hs : Sound g) {id newParent : NodeId}
    {edge : EdgeKind} {index : Option Int} (h : g.move id newParent edge index = .ok g') :
    Balance g' := by
  intro x
  refine (hb x).release ha hs.toForest (kind?_move hs.toForest h x)
    (Attached.clausesAt_move hs.toForest h x) fun hne => ?_
  rw [owningEdge_move hs.toForest h, if_neg (Ne.symm hne)]

theorem reorder (hb : Balance g) {id : NodeId} {index : Int} (h : g.reorder id index = .ok g') :
    Balance g' := by
  rcases reorder_ok h with rfl | ⟨_, _, _, _, rfl⟩
  · exact hb
  · exact fun x => (hb x).congr (fun hk => hk) rfl fun _ => rfl

theorem update (hb : Balance g) {id : NodeId} {patch : Members} (h : g.update id patch = .ok g') :
    Balance g' := by
  obtain ⟨n, n', hn, hkind, hc, _, _, _, rfl⟩ := update_ok h
  intro x
  refine (hb x).congr (fun hk => ?_) ?_ fun _ => rfl
  · rw [kind?_next, kind?_putNode] at hk
    split_ifs at hk with hx
    · rw [← hx, g.kind?_of_node? hn, ← hkind, hk]
    · exact hk
  · rw [clausesAt_next, clausesAt_putNode]
    split
    · next hx => rw [← hx, clausesAt_of_node? hn, hc]
    · rfl

/-- A node that is replaced by one without clauses. -/
theorem putBare (hb : Balance g) (id : NodeId) {n : Node NodeId} (hn : n.clauses = []) :
    Balance (g.putNode id n) := by
  intro x
  by_cases hx : id = x
  · exact .of_nil (by rw [clausesAt_putNode, if_pos hx, hn])
  · refine (hb x).congr (fun hk => ?_) (by rw [clausesAt_putNode, if_neg hx]) fun _ => rfl
    rwa [kind?_putNode, if_neg hx] at hk

theorem createDefinition (hb : Balance g) (ha : Attached suits g) (hs : Sound g)
    (hsup : Supplied g s) {name : String} {content : Option Draft}
    (hplain : ∀ draft, content = some draft → draft.body.clauses = [])
    {r : (Graph × NodeId) × IdSupply} (h : (g.createDefinition name content).run s = .ok r) :
    Balance r.1.1 := by
  obtain ⟨made, hmade, _, hcontent⟩ := createDefinition_ok h
  obtain ⟨hsound, hnodes⟩ := hs.createDefinitionAs hsup hmade
  have hboth : Attached suits made ∧ Balance made := by
    obtain ⟨_, _, rfl⟩ := createDefinitionAs_ok hmade
    exact ⟨(ha.putBare _ rfl).shrink fun hp => ⟨hp, rfl⟩,
      fun x => (hb.putBare _ rfl x).congr (fun hk => hk) rfl fun _ => rfl⟩
  rcases hcontent with ⟨_, hr, _⟩ | ⟨draft, hd, _, hadd⟩
  · rw [hr]
    exact hboth.2
  · exact hboth.2.addAs hboth.1 hsound.toForest (hnodes _ (Nat.lt_succ_self _)) (hplain draft hd) hadd

/-- The reference takes the place of the promoted node in all clauses alike. -/
theorem promoteAs (hb : Balance g) (ha : Attached suits g) (hf : Forest g)
    {defId refId id : NodeId} {name : String} (hdefId : g.node? defId = none)
    (hrefId : g.node? refId = none) (h : g.promoteAs defId refId id name = .ok g') : Balance g' := by
  obtain ⟨i⟩ := promoteAs_ok h
  have htarget : i.edge.target = id := (hf.listed i.owner).1
  have hcl : ∀ x, i.wired.clausesAt x = if refId = x then [] else g.clausesAt x :=
    i.clausesAt_wired hdefId
  rw [i.eq_wired]
  refine Balance.next fun x => ?_
  by_cases hnew : refId = x ∨ defId = x
  · -- the two nodes that are new have no clauses
    have hnil : i.wired.clausesAt x = [] := by
      rw [hcl]
      split
      · rfl
      · next hr =>
        rw [← hnew.resolve_left hr]
        exact clausesAt_of_absent hdefId
    refine .of_nil ?_
    split
    · rw [clausesAt_retarget, hnil]
      split <;> rfl
    · exact hnil
  · obtain ⟨hr, hd⟩ := not_or.1 hnew
    have hkind : i.wired.kind? x = g.kind? x := by
      rw [i.kind?_wired, if_neg hr, if_neg hd]
      split
      · next hx => rw [← hx, g.kind?_of_node? i.node_eq]
      · rfl
    have howner : g.owningEdge i.edge.target = some i.edge := by rw [htarget, i.owner]
    have hnew : i.wired.owningEdge refId = some ⟨i.edge.source, refId, i.edge.kind⟩ := by
      rw [i.owningEdge_wired, if_pos rfl]
    have hreplaced := (hb x).replace ha howner hkind (by rw [hcl, if_neg hr]) hnew
      fun {t} hp ht => by
        have hpresent := ha.target_present hf hp
        rw [htarget] at ht
        rw [i.owningEdge_wired, if_neg, if_neg (Ne.symm ht)]
        rintro rfl
        rw [hrefId] at hpresent
        simp at hpresent
    rwa [htarget] at hreplaced

theorem pointAll (name : String) (refs : List NodeId) :
    ∀ {g : Graph}, Balance g → Balance (refs.foldl (fun h ref => h.pointAt name ref) g) := by
  induction refs with
  | nil => exact fun hb => hb
  | cons ref refs ih =>
    intro g hb
    refine ih ?_
    show Balance (g.pointAt name ref)
    unfold pointAt
    split
    · exact hb.putBare _ rfl
    · exact hb

theorem renameDefinition (hb : Balance g) {oldName newName : String}
    (h : g.renameDefinition oldName newName = .ok g') : Balance g' := by
  rcases renameDefinition_ok h with rfl | ⟨id, n, _, _, _, _, _, rfl⟩
  · exact hb
  · have hrenamed : Balance (((g.putNode id { n with
        key := newName, body := .definition (.str newName) }).undefine oldName).define newName id) :=
      fun x => (hb.putBare id rfl x).congr (fun hk => hk) rfl fun _ => rfl
    exact (hrenamed.pointAll newName _).next

/-- Forgetting nodes that no edge joins to the others. -/
theorem dropAll (hb : Balance g) (ha : Attached suits g) {ids : List NodeId}
    (hc : ∀ x e, g.owningEdge x = some e → x ∈ ids → e.source ∈ ids) : Balance (g.dropAll ids) := by
  intro x
  by_cases hx : x ∈ ids
  · exact .of_nil (by rw [clausesAt_dropAll, if_pos hx])
  have hcl : (g.dropAll ids).clausesAt x = g.clausesAt x := by rw [clausesAt_dropAll, if_neg hx]
  refine (hb x).congr (fun hk => ?_) hcl fun {t} hp => ?_
  · rwa [kind?_dropAll, if_neg hx] at hk
  · obtain ⟨k', _, _, ho⟩ := ha (hp.congr hcl)
    rw [owningEdge_dropAll, if_neg fun ht => hx (hc t _ ho ht)]

/-- Taking a node off its place, where all clauses let go of it. -/
theorem release (hb : Balance g) (ha : Attached suits g) (hf : Forest g) (id : NodeId) :
    Balance (g.freed id) := by
  intro x
  refine (hb x).release ha hf (kind?_freed g id x) rfl fun hne => ?_
  rw [owningEdge_freed, if_neg (Ne.symm hne)]

theorem removeSubtree (hb : Balance g) (ha : Attached suits g) (hf : Forest g) (hold : Forest old)
    (hw : Within old g) (id : NodeId) : Balance (g.removeSubtree old id) :=
  (hb.release ha hf id).dropAll (ha.detach hf id)
    fun _ _ he hx => Attached.source_mem_of_released hold hw he hx

theorem removeAll (hold : Sound old) (ids : List NodeId)
    (hids : ∀ id ∈ ids, id ≠ old.rootId ∧ old.kind? id ≠ some .definition) :
    ∀ {g : Graph}, Balance g → Attached suits g → Sound g → Within old g →
      Balance (ids.foldl (fun h id => h.removeSubtree old id) g) := by
  induction ids with
  | nil => exact fun hb _ _ _ => hb
  | cons id ids ih =>
    intro g hb ha hs hw
    have hid := hids id List.mem_cons_self
    exact ih (fun x hx => hids x (List.mem_cons_of_mem _ hx))
      (hb.removeSubtree ha hs.toForest hold.toForest hw id)
      (ha.removeSubtree hs.toForest hold.toForest hw id)
      (hs.removeSubtree hold hw hid.1 hid.2) (hw.removeSubtree id)

end Balance

end Graph

end FormGraph

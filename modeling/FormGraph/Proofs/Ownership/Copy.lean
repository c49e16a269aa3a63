import FormGraph.Proofs.Ownership.Removal

/-!
# Copies of subtrees

A copy of a subtree gets its nodes first and its edges afterwards, one at a time. `Copied` says what
has become of the graph in the end: the nodes of the new names say what the originals said, the edges
below them are the originals' with both ends renamed, and everything else is as it was. From that the
copy is a forest like the original, hanging nowhere.
-/

namespace FormGraph

namespace Graph

variable {g g' old : Graph} {loose : NodeId → Prop} {s : IdSupply}

/-! ## Hanging many nodes -/

/-- Hang many nodes, each after everything that hangs at its place. -/
def attachAll (g : Graph) (es : List Edge) : Graph :=
  es.foldl (fun g e => g.attachLast e.source e.target e.kind) g

theorem attachAll_append (g : Graph) (es fs : List Edge) :
    g.attachAll (es ++ fs) = (g.attachAll es).attachAll fs := by
  unfold attachAll
  rw [List.foldl_append]

theorem nodes_attachAll (g : Graph) (es : List Edge) : (g.attachAll es).nodes = g.nodes := by
  induction es generalizing g with
  | nil => rfl
  | cons e es ih => exact ih (g.attachLast e.source e.target e.kind)

@[simp] theorem node?_attachAll (g : Graph) (es : List Edge) (x : NodeId) :
    (g.attachAll es).node? x = g.node? x := by
  rw [node?, nodes_attachAll, node?]

@[simp] theorem definitions_attachAll (g : Graph) (es : List Edge) :
    (g.attachAll es).definitions = g.definitions := by
  induction es generalizing g with
  | nil => rfl
  | cons e es ih => exact ih (g.attachLast e.source e.target e.kind)

@[simp] theorem rootId_attachAll (g : Graph) (es : List Edge) :
    (g.attachAll es).rootId = g.rootId := by
  induction es generalizing g with
  | nil => rfl
  | cons e es ih => exact ih (g.attachLast e.source e.target e.kind)

theorem edgesFrom_attachAll (g : Graph) (es : List Edge) (x : NodeId) :
    (g.attachAll es).edgesFrom x = g.edgesFrom x ++ es.filter fun e => e.source = x := by
  induction es generalizing g with
  | nil => simp [attachAll]
  | cons e es ih =>
    show ((g.attachLast e.source e.target e.kind).attachAll es).edgesFrom x = _
    rw [ih, attachLast_eq, edgesFrom_wire]
    by_cases hx : e.source = x
    · subst hx
      simp
    · simp [hx]

theorem owningEdge_attachAll_of_not_mem {es : List Edge} {x : NodeId}
    (h : ∀ e ∈ es, e.target ≠ x) (g : Graph) :
    (g.attachAll es).owningEdge x = g.owningEdge x := by
  induction es generalizing g with
  | nil => rfl
  | cons e es ih =>
    show ((g.attachLast e.source e.target e.kind).attachAll es).owningEdge x = _
    rw [ih fun f hf => h f (List.mem_cons_of_mem _ hf), attachLast_eq, owningEdge_wire,
      if_neg (h e List.mem_cons_self)]

/-- A node that one of the edges leads to, and no other, is owned by that edge. -/
theorem owningEdge_attachAll_of_mem {es : List Edge} {e : Edge} (he : e ∈ es)
    (h : ∀ f ∈ es, f.target = e.target → f = e) (g : Graph) :
    (g.attachAll es).owningEdge e.target = some e := by
  induction es generalizing g with
  | nil => simp at he
  | cons f es ih =>
    show ((g.attachLast f.source f.target f.kind).attachAll es).owningEdge e.target = _
    by_cases hmem : e ∈ es
    · exact ih hmem (fun f' hf' => h f' (List.mem_cons_of_mem _ hf')) _
    · have hf : f = e := by
        rcases List.mem_cons.1 he with rfl | he
        · rfl
        · exact absurd he hmem
      subst hf
      rw [owningEdge_attachAll_of_not_mem, attachLast_eq, owningEdge_wire, if_pos rfl]
      intro f' hf' ht
      exact hmem (h f' (List.mem_cons_of_mem _ hf') ht ▸ hf')

/-! ## What the two passes do -/

/-- The edge of the copy that belongs to an edge of the original. -/
def copiedEdge (pairs : List (NodeId × NodeId)) (name : NodeId) (e : Edge) : Edge :=
  ⟨name, (copyName? pairs e.target).getD "", e.kind⟩

theorem copyEdges_ok {pairs : List (NodeId × NodeId)} {pair : NodeId × NodeId}
    (h : copyEdges old pairs g pair = .ok g') :
    g' = g.attachAll ((old.edgesFrom pair.1).map (copiedEdge pairs pair.2)) := by
  unfold copyEdges at h
  generalize old.edgesFrom pair.1 = es at h ⊢
  induction es generalizing g with
  | nil =>
    rw [List.foldlM_nil, pure_eq_ok_iff] at h
    exact h.symm
  | cons e es ih =>
    simp only [List.foldlM_cons, bind_eq_ok_iff, orBreakDown_eq_ok_iff, pure_eq_ok_iff] at h
    obtain ⟨_, ⟨target, ht, rfl⟩, h⟩ := h
    rw [ih h, List.map_cons, copiedEdge, ht, Option.getD_some]
    rfl

theorem copyAllEdges_ok {pairs : List (NodeId × NodeId)} (qs : List (NodeId × NodeId)) :
    ∀ {g : Graph}, qs.foldlM (copyEdges old pairs) g = .ok g' →
      g' = g.attachAll (qs.flatMap fun p => (old.edgesFrom p.1).map (copiedEdge pairs p.2)) := by
  induction qs with
  | nil =>
    intro g h
    rw [List.foldlM_nil, pure_eq_ok_iff] at h
    exact h.symm
  | cons q qs ih =>
    intro g h
    simp only [List.foldlM_cons, bind_eq_ok_iff] at h
    obtain ⟨g₁, h₁, h⟩ := h
    rw [ih h, copyEdges_ok h₁, List.flatMap_cons, attachAll_append]

/-- The copy of a node: its clauses point at the copies of its branches. -/
def copiedNode (pairs : List (NodeId × NodeId)) (n : Node NodeId) : Node NodeId :=
  n.setClauses (n.clauses.map (Clause.bindTargets (copyName? pairs)))

theorem copyAllNodes_ok {pairs : List (NodeId × NodeId)} (qs : List (NodeId × NodeId)) :
    ∀ {g : Graph}, (qs.map Prod.snd).Nodup → qs.foldlM (copyNode old pairs) g = .ok g' →
      (∀ x ∉ qs.map Prod.snd, g'.node? x = g.node? x) ∧
        (∀ p ∈ qs, ∃ n, old.node? p.1 = some n ∧ g'.node? p.2 = some (copiedNode pairs n)) ∧
        (∀ x, g'.edgesFrom x = g.edgesFrom x) ∧ (∀ x, g'.owningEdge x = g.owningEdge x) ∧
        g'.definitions = g.definitions ∧ g'.rootId = g.rootId := by
  induction qs with
  | nil =>
    intro g _ h
    rw [List.foldlM_nil, pure_eq_ok_iff] at h
    subst h
    simp
  | cons q qs ih =>
    intro g hn h
    rw [List.map_cons, List.nodup_cons] at hn
    simp only [List.foldlM_cons, bind_eq_ok_iff] at h
    obtain ⟨g₁, h₁, h⟩ := h
    unfold copyNode at h₁
    simp only [bind_eq_ok_iff, pointedAt_eq_ok_iff, pure_eq_ok_iff] at h₁
    obtain ⟨n, hnode, rfl⟩ := h₁
    obtain ⟨hout, hin, hedges, howners, hdefs, hroot⟩ := ih hn.2 h
    refine ⟨fun x hx => ?_, fun p hp => ?_, hedges, howners, hdefs, hroot⟩
    · rw [List.map_cons, List.mem_cons, not_or] at hx
      rw [hout x hx.2, node?_putNode, if_neg (Ne.symm hx.1)]
    · rcases List.mem_cons.1 hp with rfl | hp
      · exact ⟨n, hnode, by rw [hout _ hn.1, node?_putNode_self]; rfl⟩
      · exact hin p hp

/-! ## What a copy is -/

/-- What has become of a graph into which the nodes of `old` below `source` were copied. -/
structure Copied (old g g' : Graph) (source : NodeId) (pairs : List (NodeId × NodeId)) : Prop where
  /-- Every node below the source is copied. -/
  originals : ∀ x, Below old source x ↔ ∃ p ∈ pairs, p.1 = x
  /-- Every original has one copy. -/
  same_copy : ∀ p ∈ pairs, ∀ q ∈ pairs, p.1 = q.1 → p = q
  /-- Every copy has one original. -/
  same_original : ∀ p ∈ pairs, ∀ q ∈ pairs, p.2 = q.2 → p = q
  /-- The names of the copies were free. -/
  fresh : ∀ p ∈ pairs, g.node? p.2 = none
  /-- What was there stays as it was. -/
  outside : ∀ x, (∀ p ∈ pairs, p.2 ≠ x) → g'.node? x = g.node? x ∧
    g'.edgesFrom x = g.edgesFrom x ∧ g'.owningEdge x = g.owningEdge x
  /-- The name of a copy is found by that of its original. -/
  name : ∀ p ∈ pairs, copyName? pairs p.1 = some p.2
  /-- A copy says what its original says. -/
  node : ∀ p ∈ pairs, ∃ n, old.node? p.1 = some n ∧ g'.node? p.2 = some (copiedNode pairs n)
  /-- Below a copy hang the copies of what hangs below its original. -/
  edges : ∀ p ∈ pairs, g'.edgesFrom p.2 = (old.edgesFrom p.1).map (copiedEdge pairs p.2)
  /-- The copy of the source hangs nowhere. -/
  top : ∀ p ∈ pairs, p.1 = source → g'.owningEdge p.2 = none
  /-- Any other copy hangs where its original does. -/
  owner : ∀ q ∈ pairs, q.1 ≠ source → ∃ e, ∃ p ∈ pairs, old.owningEdge q.1 = some e ∧
    p.1 = e.source ∧ g'.owningEdge q.2 = some ⟨p.2, q.2, e.kind⟩
  /-- The definitions stay. -/
  definitions : g'.definitions = g.definitions
  /-- The root stays. -/
  rootId : g'.rootId = g.rootId

theorem mem_copyPairs {old : Graph} {source : NodeId} {used : Nat} {p : NodeId × NodeId}
    (h : p ∈ copyPairs old source used) :
    p.1 ∈ old.subtreeIds source ∧
      ∃ k, used < k ∧ k ≤ used + (old.subtreeIds source).length ∧ p.2 = IdSupply.nameOf k := by
  unfold copyPairs at h
  obtain ⟨hid, hname⟩ := List.of_mem_zip (a := p.1) (b := p.2) h
  obtain ⟨i, hi, heq⟩ := List.mem_map.1 hname
  rw [List.mem_range] at hi
  exact ⟨hid, used + 1 + i, by omega, by omega, heq.symm⟩

theorem copyPairs_fst (old : Graph) (source : NodeId) (used : Nat) :
    (copyPairs old source used).map Prod.fst = old.subtreeIds source := by
  unfold copyPairs
  exact List.map_fst_zip (by simp)

theorem copyPairs_snd (old : Graph) (source : NodeId) (used : Nat) :
    (copyPairs old source used).map Prod.snd =
      (List.range (old.subtreeIds source).length).map fun i => IdSupply.nameOf (used + 1 + i) := by
  unfold copyPairs
  exact List.map_snd_zip (by simp)

theorem nodup_copyPairs_snd (old : Graph) (source : NodeId) (used : Nat) :
    ((copyPairs old source used).map Prod.snd).Nodup := by
  rw [copyPairs_snd]
  refine List.nodup_range.map fun i j hij => ?_
  have := IdSupply.nameOf_injective hij
  omega

/-- Of lists that are put together, those of one source are the list of that source. -/
theorem filter_source_flatMap {f : NodeId × NodeId → List Edge} {pairs : List (NodeId × NodeId)}
    (hf : ∀ p ∈ pairs, ∀ e ∈ f p, e.source = p.2) (hn : (pairs.map Prod.snd).Nodup)
    {p : NodeId × NodeId} (hp : p ∈ pairs) :
    (pairs.flatMap f).filter (fun e => e.source = p.2) = f p := by
  have hnone : ∀ {qs : List (NodeId × NodeId)}, (∀ q ∈ qs, ∀ e ∈ f q, e.source = q.2) →
      p.2 ∉ qs.map Prod.snd → (qs.flatMap f).filter (fun e => e.source = p.2) = [] := by
    intro qs hqs hnot
    rw [List.filter_eq_nil_iff]
    intro e he hs
    obtain ⟨q, hq, hmem⟩ := List.mem_flatMap.1 he
    rw [decide_eq_true_eq, hqs q hq e hmem] at hs
    exact hnot (hs ▸ List.mem_map_of_mem hq)
  induction pairs with
  | nil => simp at hp
  | cons q qs ih =>
    rw [List.map_cons, List.nodup_cons] at hn
    have hqs : ∀ r ∈ qs, ∀ e ∈ f r, e.source = r.2 := fun r hr =>
      hf r (List.mem_cons_of_mem _ hr)
    rw [List.flatMap_cons, List.filter_append]
    rcases List.mem_cons.1 hp with rfl | hp
    · rw [hnone hqs hn.1, List.append_nil, List.filter_eq_self]
      intro e he
      simp [hf p List.mem_cons_self e he]
    · rw [ih hqs hn.2 hp]
      have hne : (f q).filter (fun e => e.source = p.2) = [] := by
        rw [List.filter_eq_nil_iff]
        intro e he hs
        rw [decide_eq_true_eq, hf q List.mem_cons_self e he] at hs
        exact hn.1 (hs ▸ List.mem_map_of_mem hp)
      rw [hne, List.nil_append]

/-- Names for copies: there is one for every node below the source, and no two have the same. -/
structure Naming (old : Graph) (source : NodeId) (pairs : List (NodeId × NodeId)) : Prop where
  /-- Every node below the source gets a name. -/
  originals : ∀ x, Below old source x ↔ ∃ p ∈ pairs, p.1 = x
  /-- It gets one. -/
  nodup_originals : (pairs.map Prod.fst).Nodup
  /-- No name is given twice. -/
  nodup_names : (pairs.map Prod.snd).Nodup

theorem naming_copyPairs (hold : Forest old) (source : NodeId) (used : Nat) :
    Naming old source (copyPairs old source used) where
  originals x := by rw [← hold.mem_subtreeIds_iff, ← copyPairs_fst old source used, List.mem_map]
  nodup_originals := by
    rw [copyPairs_fst]
    exact nodup_subtreeIds source
  nodup_names := nodup_copyPairs_snd old source used

namespace Naming

variable {source : NodeId} {pairs : List (NodeId × NodeId)} {p q : NodeId × NodeId} {e f : Edge}

theorem name (hn : Naming old source pairs) (hp : p ∈ pairs) : copyName? pairs p.1 = some p.2 :=
  Entries.find?_of_mem hn.nodup_originals hp

theorem same_copy (hn : Naming old source pairs) (hp : p ∈ pairs) (hq : q ∈ pairs)
    (h : p.1 = q.1) : p = q :=
  List.inj_on_of_nodup_map hn.nodup_originals hp hq h

theorem same_original (hn : Naming old source pairs) (hp : p ∈ pairs) (hq : q ∈ pairs)
    (h : p.2 = q.2) : p = q :=
  List.inj_on_of_nodup_map hn.nodup_names hp hq h

/-- What the edges of a copy are: those of the originals, with both ends renamed. -/
theorem mem_copiedEdges_iff (hn : Naming old source pairs) (hold : Forest old) :
    f ∈ (pairs.flatMap fun p => (old.edgesFrom p.1).map (copiedEdge pairs p.2)) ↔
      ∃ p ∈ pairs, ∃ q ∈ pairs, ∃ e ∈ old.edgesFrom p.1, e.target = q.1 ∧
        f = ⟨p.2, q.2, e.kind⟩ := by
  simp only [List.mem_flatMap, List.mem_map]
  constructor
  · rintro ⟨p, hp, e, he, rfl⟩
    have hsource : Below old source e.source :=
      hold.source_eq he ▸ (hn.originals _).2 ⟨p, hp, rfl⟩
    obtain ⟨q, hq, hqe⟩ := (hn.originals _).1 (.step (hold.owned he) hsource)
    exact ⟨p, hp, q, hq, e, he, hqe.symm,
      by rw [copiedEdge, ← hqe, hn.name hq, Option.getD_some]⟩
  · rintro ⟨p, hp, q, hq, e, he, htarget, rfl⟩
    exact ⟨p, hp, e, he, by rw [copiedEdge, htarget, hn.name hq, Option.getD_some]⟩

/-- No edge below the source leads to the source. -/
theorem target_ne (hn : Naming old source pairs) (hold : Forest old) (hp : p ∈ pairs)
    (he : e ∈ old.edgesFrom p.1) : e.target ≠ source := by
  intro htarget
  have howner := hold.owned he
  rw [htarget] at howner
  refine hold.not_below_owner howner ?_
  rw [hold.source_eq he]
  exact (hn.originals _).2 ⟨p, hp, rfl⟩

/-- One edge of the copy leads to each copy. -/
theorem copiedEdge_unique (hn : Naming old source pairs) (hold : Forest old) (hp : p ∈ pairs)
    (hq : q ∈ pairs) (he : e ∈ old.edgesFrom p.1) (htarget : e.target = q.1)
    (hf : f ∈ pairs.flatMap fun p => (old.edgesFrom p.1).map (copiedEdge pairs p.2))
    (hft : f.target = q.2) : f = ⟨p.2, q.2, e.kind⟩ := by
  obtain ⟨p', hp', q', hq', e', he', htarget', rfl⟩ := (hn.mem_copiedEdges_iff hold).1 hf
  obtain rfl := hn.same_original hq' hq hft
  have howner := hold.owned he
  rw [htarget, ← htarget', hold.owned he'] at howner
  obtain rfl := Option.some.inj howner
  obtain rfl := hn.same_copy hp hp' ((hold.source_eq he).symm.trans (hold.source_eq he'))
  rfl

end Naming

/-- Copying a subtree under free names gives a copy. -/
theorem copied_of_copySubtree (hold : Forest old) (hg : Forest g) {source : NodeId}
    (hsup : Supplied g s) {r : (Graph × NodeId) × IdSupply}
    (h : (g.copySubtree old source).run s = .ok r) :
    Copied old g r.1.1 source (copyPairs old source s.used) ∧
      (source, r.1.2) ∈ copyPairs old source s.used ∧
      r.2 = ⟨s.used + (old.subtreeIds source).length⟩ := by
  obtain ⟨hcopy, hcopyName, hr⟩ := copySubtree_ok h
  have hn := naming_copyPairs hold source s.used
  have hfresh : ∀ p ∈ copyPairs old source s.used, g.node? p.2 = none := by
    intro p hp
    obtain ⟨_, k, hk, _, heq⟩ := mem_copyPairs hp
    rw [heq]
    exact hsup k hk
  generalize copyPairs old source s.used = pairs at hcopy hcopyName hn hfresh ⊢
  unfold copySubtreeAs at hcopy
  rw [bind_eq_ok_iff] at hcopy
  obtain ⟨g₁, hnodes, hedges⟩ := hcopy
  obtain ⟨hout, hin, hedges₁, howners₁, hdefs₁, hroot₁⟩ :=
    copyAllNodes_ok pairs hn.nodup_names hnodes
  have hg' := copyAllEdges_ok pairs hedges
  have hedge := fun {f} => (hn.mem_copiedEdges_iff (f := f) hold).1
  refine ⟨⟨hn.originals, fun p hp q hq => hn.same_copy hp hq, fun p hp q hq =>
    hn.same_original hp hq, hfresh, fun x hx => ⟨?_, ?_, ?_⟩, fun p hp => hn.name hp,
    fun p hp => ?_, fun p hp => ?_, fun p hp htop => ?_, fun q hq hne => ?_, ?_, ?_⟩,
    Entries.mem_of_find? hcopyName, hr⟩
  · rw [hg', node?_attachAll]
    refine hout x fun hmem => ?_
    obtain ⟨p, hp, heq⟩ := List.mem_map.1 hmem
    exact hx p hp heq
  · rw [hg', edgesFrom_attachAll, hedges₁, List.filter_eq_nil_iff.2, List.append_nil]
    intro f hf hs
    obtain ⟨p, hp, _, _, _, _, _, rfl⟩ := hedge hf
    exact hx p hp (by simpa using hs)
  · rw [hg', owningEdge_attachAll_of_not_mem, howners₁]
    intro f hf ht
    obtain ⟨_, _, q, hq, _, _, _, rfl⟩ := hedge hf
    exact hx q hq ht
  · obtain ⟨n, hn, hcopied⟩ := hin p hp
    exact ⟨n, hn, by rw [hg', node?_attachAll, hcopied]⟩
  · rw [hg', edgesFrom_attachAll, hedges₁, hg.edgesFrom_eq_nil (hfresh p hp), List.nil_append]
    refine filter_source_flatMap (fun q _ e he => ?_) hn.nodup_names hp
    obtain ⟨f, _, rfl⟩ := List.mem_map.1 he
    rfl
  · -- an edge to the copy of the source would come from an edge to the source from below it
    rw [hg', owningEdge_attachAll_of_not_mem, howners₁, hg.owningEdge_eq_none (hfresh p hp)]
    intro f hf ht
    obtain ⟨p', hp', q, hq, e, he, het, rfl⟩ := hedge hf
    rw [hn.same_original hq hp ht, htop] at het
    exact hn.target_ne hold hp' he het
  · have hb : Below old source q.1 := (hn.originals _).2 ⟨q, hq, rfl⟩
    obtain ⟨e, he, hup⟩ := (below_iff.1 hb).resolve_left hne
    obtain ⟨p, hp, hpe⟩ := (hn.originals _).1 hup
    obtain ⟨het, hmem⟩ := hold.listed he
    rw [← hpe] at hmem
    have hnew := (hn.mem_copiedEdges_iff hold).2 ⟨p, hp, q, hq, e, hmem, het, rfl⟩
    refine ⟨e, p, hp, he, hpe, ?_⟩
    rw [hg']
    exact owningEdge_attachAll_of_mem hnew
      (fun f hf ht => hn.copiedEdge_unique hold hp hq hmem het hf ht) g₁
  · rw [hg', definitions_attachAll, hdefs₁]
  · rw [hg', rootId_attachAll, hroot₁]

end Graph

end FormGraph

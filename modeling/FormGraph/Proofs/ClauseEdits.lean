import FormGraph.Proofs.Moving.Steps
import FormGraph.Proofs.SharedBranches

/-!
# What a clause edit touches

Appending a clause or changing one moves at most the branches of that clause, and writes one clause. A
move lets go of the node in the clauses of the group that it leaves, which may be any group, the
written one among them. All the same nothing else is lost: in the group itself a branch that another
clause names is never moved, because it hangs where it is needed or the edit is refused
(`Balance.ensureBranch_eq`), and in another group exactly the branches that were moved are let go of
(`local_of_clauseEdit`).
-/

namespace FormGraph

namespace Graph

variable {g g' : Graph}

/-- The node is no branch of the clause, or it is one of its branches only and hangs below the group as
that branch. -/
def InPlace (g : Graph) (id : NodeId) (w : Clause NodeId) (t : NodeId) : Prop :=
  ∀ k, w.target k = some t → w.target (otherBranch k) ≠ some t ∧ g.owningEdge t = some ⟨id, t, k⟩

/-- A branch that hangs where it hung, and none that was moved. -/
def unmoved (g g' : Graph) (t : NodeId) : Option NodeId :=
  if g'.owningEdge t = g.owningEdge t then some t else none

/-- The clause was written into the group at the position, and nothing else was touched but its
branches and the clauses of the groups that they left. -/
structure Local (g g' : Graph) (id : NodeId) (position : Nat) (w : Clause NodeId) : Prop where
  /-- The clause stands at the position. -/
  written : (g'.clausesAt id)[position]? = some w
  /-- There are no other clauses than before, and they have their conditions. -/
  conditions : ∀ i, i ≠ position →
    (g'.clausesAt id)[i]?.map Clause.condition = (g.clausesAt id)[i]?.map Clause.condition
  /-- Unless the group is an `if` block they have their branches too. -/
  branches : g.kind? id ≠ some (.group .ifBlock) → ∀ i, i ≠ position →
    (g'.clausesAt id)[i]? = (g.clausesAt id)[i]?
  /-- Other groups let go of the branches that were moved, and of nothing else. -/
  elsewhere : ∀ x, x ≠ id →
    g'.clausesAt x = (g.clausesAt x).map (Clause.bindTargets (unmoved g g'))
  /-- Nothing is moved but the branches of the clause, and of these only what is not in its place. -/
  settled : ∀ t, g.InPlace id w t → g'.owningEdge t = g.owningEdge t
  /-- The edges to what is not moved stay in their order. -/
  order : ∀ q : NodeId → Bool, (∀ t, q t = true → g.InPlace id w t) →
    (g'.edges.filter fun f => q f.target) = g.edges.filter fun f => q f.target
  /-- No node is created or deleted. -/
  names : g'.nodes.names = g.nodes.names

/-! ## Making sure of a branch -/

section Ensured

variable {id key : NodeId} {target : Option NodeId} {kind : EdgeKind} {skip : Option Nat}

theorem names_ensureBranch (hf : Forest g) (h : g.ensureBranch id key target kind skip = .ok g') :
    g'.nodes.names = g.nodes.names := by
  rcases ensureBranch_ok h with ⟨_, rfl⟩ | ⟨t, _, ⟨_, _, _, _, rfl⟩ | ⟨_, hmove⟩⟩
  · rfl
  · rfl
  · exact names_move hf hmove

/-- The edges to other nodes than the branch, or to a branch in its place, stay in their order. -/
theorem edges_ensureBranch (hf : Forest g) (h : g.ensureBranch id key target kind skip = .ok g')
    {q : NodeId → Bool}
    (hq : ∀ t, target = some t → q t = true → g.owningEdge t = some ⟨id, t, kind⟩) :
    (g'.edges.filter fun f => q f.target) = g.edges.filter fun f => q f.target := by
  rcases ensureBranch_ok h with ⟨_, rfl⟩ | ⟨t, rfl, ⟨_, _, _, _, rfl⟩ | ⟨hguard, hmove⟩⟩
  · rfl
  · rfl
  · have ht : q t = false := by
      rw [Bool.eq_false_iff]
      exact fun htrue => (hguard _ (hq t rfl htrue) rfl).1 rfl
    -- the edges that are kept are among those that do not lead to the moved node
    have hamong : ∀ es : List Edge, (es.filter fun f => q f.target) =
        (es.filter fun f => f.target ≠ t).filter fun f => q f.target := by
      intro es
      rw [List.filter_filter]
      refine List.filter_congr fun f _ => ?_
      by_cases hft : f.target = t
      · simp [hft, ht]
      · simp [hft]
    have hbut := edgesBut_move hf hmove
    unfold edgesBut at hbut
    rw [hamong, hbut, ← hamong]

/-- What happens to clauses keeps their conditions. -/
theorem conditions_ensureBranch (hf : Forest g)
    (h : g.ensureBranch id key target kind skip = .ok g') (x : NodeId) :
    (g'.clausesAt x).map Clause.condition = (g.clausesAt x).map Clause.condition := by
  rcases ensureBranch_ok h with ⟨_, rfl⟩ | ⟨t, _, ⟨_, _, _, _, rfl⟩ | ⟨_, hmove⟩⟩
  · rfl
  · rfl
  · rw [Attached.clausesAt_move hf hmove]
    rcases hf.clausesAt_freed t x with h | ⟨h, _⟩
    · rw [h, List.map_map]
      rfl
    · rw [h]

/-- The clauses that named a moved node let go of it, whichever group they are of. -/
theorem Attached.clausesAt_of_move {suits : EdgeKind → EdgeKind → Prop} (ha : Attached suits g)
    (hf : Forest g) {t : NodeId} {index : Option Int} (h : g.move t id kind index = .ok g')
    (x : NodeId) : g'.clausesAt x =
      (g.clausesAt x).map (Clause.bindTargets fun u => if u = t then none else some u) :=
  (Attached.clausesAt_move hf h x).trans (ha.clausesAt_freed hf t x)

/-- In another group the clauses let go of what was moved away from it. -/
theorem clausesAt_ensureBranch_of_ne {suits : EdgeKind → EdgeKind → Prop} (ha : Attached suits g)
    (hf : Forest g) (h : g.ensureBranch id key target kind skip = .ok g') {x : NodeId}
    (hx : x ≠ id) :
    g'.clausesAt x = (g.clausesAt x).map (Clause.bindTargets (unmoved g g')) := by
  have hsame : g' = g →
      g'.clausesAt x = (g.clausesAt x).map (Clause.bindTargets (unmoved g g')) := by
    rintro rfl
    exact (Clause.map_bindTargets_eq_self fun _ _ _ _ _ => if_pos rfl).symm
  rcases ensureBranch_ok h with ⟨_, heq⟩ | ⟨t, _, ⟨_, _, _, _, heq⟩ | ⟨_, hmove⟩⟩
  · exact hsame heq
  · exact hsame heq
  · rw [ha.clausesAt_of_move hf hmove]
    refine List.map_congr_left fun c hc => Clause.bindTargets_congr fun k u hu => ?_
    obtain ⟨k', _, _, ho⟩ := ha ⟨c, hc, hu⟩
    unfold unmoved
    rw [owningEdge_move hf hmove]
    by_cases hut : u = t
    · rw [if_pos hut, if_pos hut.symm, ho, if_neg]
      intro heq
      exact hx (congrArg Edge.source (Option.some.inj heq)).symm
    · rw [if_neg hut, if_neg (Ne.symm hut), if_pos rfl]

/-- In the group itself the clauses that are not to be written stay. -/
theorem clausesAt_ensureBranch_self (hb : Balance g) (ha : Attached Leans g) (hf : Forest g)
    {n : Node NodeId} (hn : g.node? id = some n) (hkind : kind.isBranch = true)
    (h : g.ensureBranch id key target kind skip = .ok g') {i : Nat} (hi : skip ≠ some i) :
    (g'.clausesAt id)[i]? = (g.clausesAt id)[i]? := by
  rcases ensureBranch_ok h with ⟨_, rfl⟩ | ⟨t, rfl, ⟨_, _, _, _, rfl⟩ | ⟨_, hmove⟩⟩
  · rfl
  · rfl
  · by_cases hnamed : ∃ c k, n.clauses[i]? = some c ∧ c.target k = some t
    · obtain ⟨c, k, hc, ht⟩ := hnamed
      rw [hb.ensureBranch_eq ha hn hc hi ht hkind h]
    · rw [ha.clausesAt_of_move hf hmove, List.getElem?_map, clausesAt_of_node? hn]
      cases hc : n.clauses[i]? with
      | none => rfl
      | some c =>
        refine congrArg some (Clause.bindTargets_eq_self fun k u hu => if_neg ?_)
        rintro rfl
        exact hnamed ⟨c, k, hc, hu⟩

end Ensured

/-! ## Writing the clause -/

section Written

variable {id key : NodeId} {w : Clause NodeId} {skip : Option Nat} {g₁ g₂ : Graph}

/-- What is let go of in two steps, of which each moves nodes to one place only, is what is let go of
between the first graph and the last. -/
theorem unmoved_bind {t x : NodeId} {e : Edge} (ho : g.owningEdge t = some e) (he : e.source = x)
    (hx : x ≠ id)
    (h₁ : g₁.owningEdge t = g.owningEdge t ∨ ∃ k, g₁.owningEdge t = some ⟨id, t, k⟩)
    (h₂ : g₂.owningEdge t = g₁.owningEdge t ∨ ∃ k, g₂.owningEdge t = some ⟨id, t, k⟩) :
    (unmoved g g₁ t).bind (unmoved g₁ g₂) = unmoved g g₂ t := by
  have hne : ∀ k, some (⟨id, t, k⟩ : Edge) ≠ g.owningEdge t := by
    intro k heq
    rw [ho] at heq
    exact hx (he.symm.trans (congrArg Edge.source (Option.some.inj heq)).symm)
  unfold unmoved
  rcases h₁ with h₁ | ⟨k, h₁⟩
  · rw [if_pos h₁, Option.bind_some, h₁]
  · have hmoved : g₂.owningEdge t ≠ g.owningEdge t := by
      rcases h₂ with h₂ | ⟨k', h₂⟩
      · rw [h₂, h₁]
        exact hne k
      · rw [h₂]
        exact hne k'
    rw [if_neg (h₁ ▸ hne k), if_neg hmoved, Option.bind_none]

variable {n m : Node NodeId} {cs : List (Clause NodeId)} {position : Nat}

/-- Making sure of the branches of a clause, one after the other, and writing the clause touches
nothing else. -/
theorem Balance.written_local (hb : Balance g) (ha : Attached Leans g) (hs : Sound g)
    (hn : g.node? id = some n)
    (h₁ : g.ensureBranch id key w.onTrue .thenBranch skip = .ok g₁)
    (h₂ : g₁.ensureBranch id key w.onFalse .elseBranch skip = .ok g₂)
    (hskip : ∀ i, i ≠ position → skip ≠ some i) (hm : g₂.node? id = some m)
    (hgroup : m.kind.isGroup = true) (hw : cs[position]? = some w)
    (hconditions : ∀ i, i ≠ position →
      cs[i]?.map Clause.condition = m.clauses[i]?.map Clause.condition)
    (hbranches : m.kind ≠ .group .ifBlock → ∀ i, i ≠ position → cs[i]? = m.clauses[i]?) :
    Local g (g₂.putNode id (m.setClauses cs)).next id position w := by
  have hf := hs.toForest
  obtain ⟨ha₁, htrue, hkeep₁⟩ := ha.ensureBranch hf h₁
  obtain ⟨hs₁, hkind₁⟩ := hs.ensureBranch h₁
  have hf₁ := hs₁.toForest
  have hb₁ := hb.ensureBranch ha hs h₁
  obtain ⟨_, hfalse, hkeep₂⟩ := ha₁.ensureBranch hf₁ h₂
  have hkind₂ := (hs₁.ensureBranch h₂).2
  obtain ⟨n₁, hn₁, _⟩ : ∃ n₁, g₁.node? id = some n₁ ∧ n₁.kind = n.kind := by
    rw [← kind?_eq_some_iff, hkind₁, kind?_of_node? _ hn]
  have hclauses (x : NodeId) : (g₂.putNode id (m.setClauses cs)).next.clausesAt x =
      if id = x then cs else g₂.clausesAt x := by
    rw [clausesAt_next, clausesAt_putNode, Node.clauses_setClauses, if_pos hgroup]
  have hself : (g₂.putNode id (m.setClauses cs)).next.clausesAt id = cs := by
    rw [hclauses, if_pos rfl]
  have hin {t : NodeId} (ht : g.InPlace id w t) :
      (w.onTrue = some t → g.owningEdge t = some ⟨id, t, .thenBranch⟩) ∧
      (w.onFalse = some t → g₁.owningEdge t = some ⟨id, t, .elseBranch⟩) := by
    refine ⟨fun htarget => (ht .thenBranch htarget).2, fun htarget => ?_⟩
    obtain ⟨hother, ho⟩ := ht .elseBranch htarget
    rw [hkeep₁ t hother, ho]
  have hstep {h h' : Graph} {target : Option NodeId} {kind : EdgeKind} {t : NodeId}
      (hto : ∀ t, target = some t → h'.owningEdge t = some ⟨id, t, kind⟩)
      (hkeep : ∀ t, target ≠ some t → h'.owningEdge t = h.owningEdge t) :
      h'.owningEdge t = h.owningEdge t ∨ ∃ k, h'.owningEdge t = some ⟨id, t, k⟩ := by
    by_cases ht : target = some t
    · exact Or.inr ⟨kind, hto t ht⟩
    · exact Or.inl (hkeep t ht)
  refine
    { written := by rw [hself, hw]
      conditions := fun i hi => ?_
      branches := fun hblock i hi => ?_
      elsewhere := fun x hx => ?_
      settled := fun t ht => ?_
      order := fun q hq => ?_
      names := ?_ }
  · rw [hself, hconditions i hi, ← clausesAt_of_node? hm, ← List.getElem?_map, ← List.getElem?_map,
      conditions_ensureBranch hf₁ h₂, conditions_ensureBranch hf h₁]
  · have hkind : m.kind ≠ .group .ifBlock := fun hk => hblock (by
      rw [← hkind₁, ← hkind₂, kind?_of_node? _ hm, hk])
    rw [hself, hbranches hkind i hi, ← clausesAt_of_node? hm,
      clausesAt_ensureBranch_self hb₁ ha₁ hf₁ hn₁ rfl h₂ (hskip i hi),
      clausesAt_ensureBranch_self hb ha hf hn rfl h₁ (hskip i hi)]
  · rw [hclauses, if_neg (Ne.symm hx), clausesAt_ensureBranch_of_ne ha₁ hf₁ h₂ hx,
      clausesAt_ensureBranch_of_ne ha hf h₁ hx, List.map_map]
    refine List.map_congr_left fun c hc =>
      (Clause.bindTargets_bindTargets _ _ c).trans (Clause.bindTargets_congr fun k t ht => ?_)
    obtain ⟨k', _, _, ho⟩ := ha ⟨c, hc, ht⟩
    exact unmoved_bind ho rfl hx (hstep htrue hkeep₁) (hstep hfalse hkeep₂)
  · show g₂.owningEdge t = g.owningEdge t
    by_cases hf' : w.onFalse = some t
    · rw [hfalse t hf', (ht .elseBranch hf').2]
    · rw [hkeep₂ t hf']
      by_cases ht' : w.onTrue = some t
      · rw [htrue t ht', (ht .thenBranch ht').2]
      · exact hkeep₁ t ht'
  · show (g₂.edges.filter fun f => q f.target) = _
    rw [edges_ensureBranch hf₁ h₂ fun t ht hqt => (hin (hq t hqt)).2 ht,
      edges_ensureBranch hf h₁ fun t ht hqt => (hin (hq t hqt)).1 ht]
  · show (g₂.putNode id (m.setClauses cs)).nodes.names = _
    rw [names_putNode_of_present (by rw [hm]; rfl), names_ensureBranch hf₁ h₂,
      names_ensureBranch hf h₁]

end Written

/-! ## The theorem -/

/-- A clause that is appended goes behind the others. -/
theorem Balance.local_appendClause (hb : Balance g) (ha : Attached Leans g) (hs : Sound g)
    {id : NodeId} {clause : Clause NodeId} (h : g.appendClause id clause = .ok g') :
    ∃ n w, g.node? id = some n ∧ clauseFor id n clause = .ok w ∧
      Local g g' id (g.clausesAt id).length w := by
  obtain ⟨n, w, g₁, g₂, m, hn, _, hw, h₁, h₂, hm, hgroup, rfl⟩ := appendClause_ok h
  have hlen : m.clauses.length = (g.clausesAt id).length := by
    rw [length_clauses_of_ensured hs h₁ h₂ hn hm, clausesAt_of_node? hn]
  have hother : ∀ i, i ≠ (g.clausesAt id).length → (m.clauses ++ [w])[i]? = m.clauses[i]? := by
    intro i hi
    rcases Nat.lt_or_gt_of_ne hi with hlt | hgt
    · rw [List.getElem?_append_left (by omega)]
    · rw [List.getElem?_eq_none (by simp; omega), List.getElem?_eq_none (by omega)]
  refine ⟨n, w, hn, hw, hb.written_local ha hs hn h₁ h₂ (fun _ _ => by simp) hm hgroup ?_
    (fun i hi => by rw [hother i hi]) fun _ => hother⟩
  rw [← hlen]
  simp

/-- A clause that is changed stays at its position. -/
theorem Balance.local_updateClause (hb : Balance g) (ha : Attached Leans g) (hs : Sound g)
    {id : NodeId} {index : Int} {patch : Members} (h : g.updateClause id index patch = .ok g') :
    ∃ n c p w, g.node? id = some n ∧ n.clauses[index.toNat]? = some c ∧
      ClausePatch.ofMembers patch = .ok p ∧ p.apply c = .ok w ∧
      Local g g' id index.toNat w := by
  obtain ⟨n, c, p, w, g₁, g₂, m, hn, _, hat, hp, hw, h₁, h₂, hm, hgroup, rfl⟩ := updateClause_ok h
  have hlen : m.clauses.length = n.clauses.length := length_clauses_of_ensured hs h₁ h₂ hn hm
  have hkind : m.kind = n.kind := hs.kind_of_ensured h₁ h₂ hn hm
  have hset : (m.clauses.set index.toNat w)[index.toNat]? = some w := by
    rw [List.getElem?_set_self]
    rw [hlen]
    exact (List.getElem?_eq_some_iff.1 hat).1
  have hother : ∀ i, i ≠ index.toNat → (m.clauses.set index.toNat w)[i]? = m.clauses[i]? :=
    fun i hi => List.getElem?_set_ne (Ne.symm hi)
  refine ⟨n, c, p, w, hn, hat, hp, hw, hb.written_local ha hs hn h₁ h₂ (fun i hi => ?_) hm hgroup
    ?_ (fun i hi => ?_) fun hblock i hi => ?_⟩
  · simpa using Ne.symm hi
  · split
    · rw [List.getElem?_map, hset]
      rfl
    · exact hset
  · split
    · rw [List.getElem?_map, hother i hi, Option.map_map]
      rfl
    · rw [hother i hi]
  · rw [if_neg (hkind ▸ hblock), hother i hi]

end Graph

end FormGraph

import FormGraph.Proofs.Agreement.Edit

/-!
# Changes that keep clauses and edges in agreement

Inlining references and removing definitions, then the operations on clauses. Writing a clause first
hangs its branches below the group, one after the other. So they are attached in any case, but the
agreement is broken exactly when both branches of the clause are one node: hanging it as the second
branch takes it off as the first.
-/

namespace FormGraph

namespace Clause

/-- Both branches of the clause are one node. -/
def doubles (c : Clause NodeId) : Bool := c.onTrue.isSome && c.onTrue = c.onFalse

theorem doubles_eq_true_iff {c : Clause NodeId} :
    c.doubles = true ↔ ∃ t, c.onTrue = some t ∧ c.onFalse = some t := by
  unfold doubles
  cases c.onTrue with
  | none => simp
  | some t => simp [eq_comm]

theorem target_congr {c d : Clause NodeId} (h : c.branches = d.branches) (k : EdgeKind) :
    c.target k = d.target k := by
  cases k with
  | child => rfl
  | thenBranch => exact congrArg Prod.fst h
  | elseBranch => exact congrArg Prod.snd h

theorem doubles_congr {c d : Clause NodeId} (h : c.branches = d.branches) :
    c.doubles = d.doubles := by
  unfold doubles
  rw [show c.onTrue = d.onTrue from congrArg Prod.fst h,
    show c.onFalse = d.onFalse from congrArg Prod.snd h]

end Clause

namespace Graph

variable {g g' old : Graph} {s : IdSupply}

/-- Naming the copy after the reference and hanging it in its place changes no clauses. -/
theorem CopyInPlace.clausesAt_wired {ref content : NodeId} {r : Graph × IdSupply}
    (i : CopyInPlace old g s ref content r) (x : NodeId) :
    i.wired.clausesAt x = i.copied.clausesAt x := by
  rw [CopyInPlace.wired, clausesAt_wire, clausesAt_putNode]
  split
  · next hx =>
    rw [← hx, clausesAt_of_node? i.top_eq]
    rfl
  · rfl

namespace Attached

variable {suits : EdgeKind → EdgeKind → Prop}

/-! ## Removing definitions -/

/-- The clauses of a copied group name the copies of its branches; the others name what they
named. -/
theorem points_copied (hag : Attached suits old) (hold : Forest old) {source : NodeId}
    {pairs : List (NodeId × NodeId)} (hc : Copied old g g' source pairs) {x t : NodeId}
    {k : EdgeKind} (hp : g'.Points x t k) :
    (∃ p ∈ pairs, p.2 = t ∧ ∃ k', suits k k' ∧ k'.isBranch = true ∧
      g'.owningEdge t = some ⟨x, t, k'⟩) ∨ g.Points x t k := by
  rcases Copied.name_or_outside pairs x with ⟨p, hmem, rfl⟩ | hx
  · obtain ⟨n, hn, hcopy⟩ := hc.node p hmem
    obtain ⟨c, hcl, ht⟩ := hp
    rw [clausesAt_of_node? hcopy, copiedNode, Node.clauses_setClauses_map] at hcl
    obtain ⟨d, hd, rfl⟩ := List.mem_map.1 hcl
    rw [Clause.target_bindTargets, Option.bind_eq_some_iff] at ht
    obtain ⟨u, hu, ht⟩ := ht
    have hq : (u, t) ∈ pairs := Entries.mem_of_find? ht
    obtain ⟨k', hk, hbranch, howner⟩ := hag ⟨d, (clausesAt_of_node? hn) ▸ hd, hu⟩
    exact Or.inl ⟨_, hq, rfl, k', hk, hbranch,
      hc.owned hold hmem hq (hold.listed howner).2 rfl⟩
  · exact Or.inr (hp.congr (clausesAt_congr (hc.outside x hx).1))

/-- The clauses that named a reference name the copy in its place. -/
theorem inlineReference (ha : Attached suits g) (hag : Attached suits old) (hs : Sound g) (hold : Sound old)
    (hsup : Supplied g s) {ref : NodeId} (hk : g.kind? ref = some .reference)
    (hk' : old.kind? ref = some .reference) {content : Option NodeId} {r : Graph × IdSupply}
    (h : (g.inlineReference old ref content).run s = .ok r) : Attached suits r.1 := by
  rcases hs.inPlace_of_inlineReference hold hsup hk h with ⟨_, rfl⟩ | ⟨_, rfl, ⟨i⟩⟩
  · refine (ha.detach hs.toForest ref).dropAll fun x e he hx => ?_
    rw [owningEdge_freed, if_pos ((hold.mem_subtreeIds_of_reference hk').1 hx).symm] at he
    simp at he
  have hback : ∀ {x t k}, i.wired.Points x t k →
      (∃ p ∈ i.pairs, p.2 = t ∧ ∃ k', suits k k' ∧ k'.isBranch = true ∧
        i.copied.owningEdge t = some ⟨x, t, k'⟩) ∨ g.Points x t k := by
    intro x t k hp
    have hp := hp.congr (i.clausesAt_wired x)
    rcases hag.points_copied hold.toForest i.copies hp with h | ⟨c, hcl, ht⟩
    · exact Or.inl h
    · have hdrop := clausesAt_dropAll (g := g.detach ref) [ref] x
      rw [clausesAt_detach] at hdrop
      have hcl' := hdrop ▸ hcl
      split_ifs at hcl'
      · simp at hcl'
      · exact Or.inr ⟨c, hcl', ht⟩
  rw [i.eq_wired]
  refine replaced (g := i.wired) (e := i.edge) ?_ ?_ ?_
  · rw [i.owningEdge_wired, if_pos rfl]
  · intro x k hp
    rcases hback hp with ⟨p, hpm, heq, _⟩ | hp
    · exact absurd heq (i.ne_of_present hsup (present_of_kind? hk) p hpm)
    · exact ha.source_eq hp i.owner
  · intro x t k hp hne
    rcases hback hp with ⟨p, hpm, rfl, k', hk, hbranch, hown⟩ | hp
    · refine ⟨k', hk, hbranch, ?_⟩
      rw [i.owningEdge_wired, if_neg, hown]
      rintro heq
      rw [← heq, i.copies.top _ i.mem_pairs rfl] at hown
      simp at hown
    · have hout := i.ne_of_present hsup (ha.target_present hs.toForest hp)
      rw [← i.owningEdge_eq_wired, i.owningEdge_outside hout, if_neg (Ne.symm hne)]
      exact ha hp

theorem removeDefinition (ha : Attached suits g) (hs : Sound g) (hsup : Supplied g s) {name : String}
    {policy : RemovalPolicy} {r : (Graph × List String) × IdSupply}
    (h : (g.removeDefinition name policy).run s = .ok r) : Attached suits r.1.1 := by
  obtain ⟨defId, settled, warnings, hfind, hsettle, hr⟩ := removeDefinition_ok h
  have hagrees : Attached suits settled := by
    refine hs.keeps_of_settleReferences hsup hfind (P := fun _ g => Attached suits g) (fun _ => ha)
      (removeAll hs (g.referencesTo name) hs.removable_of_reference ha hs (Within.refl g))
      (fun _ hi hsup ha' h => ?_) hsettle
    obtain ⟨hk, hk'⟩ := hi.refs _ List.mem_cons_self
    exact ha'.inlineReference ha hi.sound hs hsup hk hk' h
  obtain ⟨hi, _⟩ := hs.settleReferences hsup hfind hsettle
  rw [hr]
  exact (hagrees.dropAll fun x e he hx => (hi.closed x e he).1 hx).shrink fun hp => ⟨hp, rfl⟩

theorem remove (ha : Attached suits g) (hs : Sound g) (hsup : Supplied g s) {id : NodeId}
    {policy : RemovalPolicy} {r : Graph × IdSupply} (h : (g.remove id policy).run s = .ok r) :
    Attached suits r.1 := by
  obtain ⟨n, _, _, ⟨_, hr⟩ | ⟨name, warnings, _, hdef⟩⟩ := remove_ok h
  · rw [hr]
    exact (ha.removeSubtree hs.toForest hs.toForest (Within.refl g) id).shrink fun hp => ⟨hp, rfl⟩
  · exact ha.removeDefinition hs hsup hdef

theorem pruneBranches (ha : Attached suits g) (hs : Sound g) {id : NodeId}
    (h : g.pruneBranches id = .ok g') : Attached suits g' := by
  obtain ⟨n, _, _, rfl | rfl⟩ := pruneBranches_ok h
  · exact ha
  · rw [← List.foldl_map (f := Edge.target) (g := fun h id => Graph.removeSubtree h g id)]
    exact (removeAll hs _ hs.removable_of_branch ha hs (Within.refl g)).shrink fun hp => ⟨hp, rfl⟩

theorem removeClause (ha : Attached suits g) (hs : Sound g) {id : NodeId} {index : Int}
    {prune : Bool} (h : g.removeClause id index prune = .ok g') : Attached suits g' := by
  obtain ⟨n, g₁, hn, _, rfl, hprune⟩ := removeClause_ok h
  have hwritten : Attached suits
      (g.putNode id (n.setClauses (n.clauses.eraseIdx index.toNat))).next :=
    ha.write fun c hc t k ht =>
      ha ⟨c, clausesAt_of_node? hn ▸ List.mem_of_mem_eraseIdx hc, ht⟩
  rcases hprune with rfl | hprune
  · exact hwritten
  · exact hwritten.pruneBranches (hs.setClauses hn _).1 hprune

end Attached

/-! ## Writing clauses -/

/-- Making sure of a branch leaves every group as many clauses as it had. -/
theorem length_clausesAt_ensureBranch (hf : Forest g) {id key : NodeId} {target : Option NodeId}
    {kind : EdgeKind} {skip : Option Nat} (h : g.ensureBranch id key target kind skip = .ok g')
    (x : NodeId) : (g'.clausesAt x).length = (g.clausesAt x).length := by
  rcases ensureBranch_ok h with ⟨rfl, rfl⟩ | ⟨t, rfl, ⟨e, ho, rfl, rfl, rfl⟩ | ⟨_, hmove⟩⟩
  · rfl
  · rfl
  · rw [Attached.clausesAt_move hf hmove]
    rcases hf.clausesAt_freed t x with h | ⟨h, _⟩
    · rw [h, List.length_map]
    · rw [h]

/-- The group has as many clauses as it had after its branches were made sure of. -/
theorem length_clauses_of_ensured (hs : Sound g) {id key : NodeId} {onTrue onFalse : Option NodeId}
    {skip : Option Nat} {g₁ g₂ : Graph} {n m : Node NodeId}
    (h₁ : g.ensureBranch id key onTrue .thenBranch skip = .ok g₁)
    (h₂ : g₁.ensureBranch id key onFalse .elseBranch skip = .ok g₂) (hn : g.node? id = some n)
    (hm : g₂.node? id = some m) : m.clauses.length = n.clauses.length := by
  rw [← clausesAt_of_node? hm, ← clausesAt_of_node? hn,
    length_clausesAt_ensureBranch (hs.ensureBranch h₁).1.toForest h₂,
    length_clausesAt_ensureBranch hs.toForest h₁]

/-- The graph comes from `g` by making sure of the branches of a clause, one after the other, and
writing the clause into the group. -/
def Wrote (g : Graph) (w : Clause NodeId) (g' : Graph) : Prop :=
  ∃ (id key : NodeId) (skip : Option Nat) (g₁ g₂ : Graph) (m : Node NodeId)
    (cs : List (Clause NodeId)),
    g.ensureBranch id key w.onTrue .thenBranch skip = .ok g₁ ∧
    g₁.ensureBranch id key w.onFalse .elseBranch skip = .ok g₂ ∧
    g₂.node? id = some m ∧ m.kind.isGroup = true ∧ (∃ c ∈ cs, c.branches = w.branches) ∧
    (∀ c ∈ cs, c ∈ m.clauses ∨ c.branches = w.branches) ∧
    g' = (g₂.putNode id (m.setClauses cs)).next

theorem wrote_of_appendClause {id : NodeId} {n : Node NodeId} {clause w : Clause NodeId}
    (hn : g.node? id = some n) (hw : clauseFor id n clause = .ok w)
    (h : g.appendClause id clause = .ok g') : Wrote g w g' := by
  obtain ⟨n', w', g₁, g₂, m, hn', _, hw', h₁, h₂, hm, hgroup, rfl⟩ := appendClause_ok h
  rw [hn] at hn'
  obtain rfl := Option.some.inj hn'
  rw [hw] at hw'
  obtain rfl := Except.ok.inj hw'
  refine ⟨id, n.key, none, g₁, g₂, m, _, h₁, h₂, hm, hgroup, ⟨w, by simp, rfl⟩, fun c hc => ?_, rfl⟩
  rcases List.mem_append.1 hc with hc | hc
  · exact Or.inl hc
  · rw [List.mem_singleton.1 hc]
    exact Or.inr rfl

theorem wrote_of_updateClause (hs : Sound g) {id : NodeId} {index : Int} {patch : Members}
    {n : Node NodeId} {clause w : Clause NodeId} {p : ClausePatch} (hn : g.node? id = some n)
    (hat : n.clauses[index.toNat]? = some clause) (hp : ClausePatch.ofMembers patch = .ok p)
    (hw : p.apply clause = .ok w) (h : g.updateClause id index patch = .ok g') :
    Wrote g w g' := by
  obtain ⟨n', c', p', w', g₁, g₂, m, hn', _, hat', hp', hw', h₁, h₂, hm, hgroup, rfl⟩ :=
    updateClause_ok h
  rw [hn] at hn'
  obtain rfl := Option.some.inj hn'
  rw [hat] at hat'
  obtain rfl := Option.some.inj hat'
  rw [hp] at hp'
  obtain rfl := Except.ok.inj hp'
  rw [hw] at hw'
  obtain rfl := Except.ok.inj hw'
  have hlen : index.toNat < m.clauses.length := by
    rw [length_clauses_of_ensured hs h₁ h₂ hn hm]
    exact (List.getElem?_eq_some_iff.1 hat).1
  have hmem : w ∈ m.clauses.set index.toNat w := List.mem_set hlen w
  refine ⟨id, n.key, _, g₁, g₂, m, _, h₁, h₂, hm, hgroup, ?_, ?_, rfl⟩
  · split
    · exact ⟨_, List.mem_map_of_mem hmem, rfl⟩
    · exact ⟨w, hmem, rfl⟩
  · split
    · intro c hc
      obtain ⟨d, _, rfl⟩ := List.mem_map.1 hc
      exact Or.inr rfl
    · intro c hc
      rcases List.mem_or_eq_of_mem_set hc with hc | rfl
      · exact Or.inl hc
      · exact Or.inr rfl

/-- Making all clauses alike writes one clause, unless they are alike already. -/
theorem wrote_of_synchronizeBranches (hs : Sound g) {id : NodeId}
    {onTrue onFalse : Option (Option NodeId)} {n : Node NodeId} {first w : Clause NodeId}
    {rest : List (Clause NodeId)} (hn : g.node? id = some n) (hc : n.clauses = first :: rest)
    (hw : w = { first with
      onTrue := onTrue.getD first.onTrue
      onFalse := onFalse.getD first.onFalse })
    (h : g.synchronizeBranches id onTrue onFalse = .ok g') :
    Wrote g w g' ∨ g' = g ∧ first.branches = w.branches := by
  obtain ⟨n', hn', _, ⟨hnil, _⟩ | ⟨first', rest', hc', hwrite⟩⟩ := synchronizeBranches_ok h
  · rw [hn] at hn'
    rw [← Option.some.inj hn', hc] at hnil
    simp at hnil
  rw [hn] at hn'
  obtain rfl := Option.some.inj hn'
  rw [hc] at hc'
  obtain ⟨rfl, rfl⟩ := List.cons.inj hc'
  have hbranches : w.branches = (onTrue.getD first.onTrue, onFalse.getD first.onFalse) := by
    rw [hw]
    rfl
  rcases hwrite with ⟨hall, rfl⟩ | ⟨g₁, g₂, m, h₁, h₂, hm, hgroup, rfl⟩
  · exact Or.inr ⟨rfl, (hall first (hc ▸ List.mem_cons_self)).trans hbranches.symm⟩
  rw [show onTrue.getD first.onTrue = w.onTrue from (congrArg Prod.fst hbranches).symm] at h₁
  rw [show onFalse.getD first.onFalse = w.onFalse from (congrArg Prod.snd hbranches).symm] at h₂
  refine Or.inl ⟨id, n.key, none, g₁, g₂, m, _, h₁, h₂, hm, hgroup, ?_, ?_, rfl⟩
  · have hlen := length_clauses_of_ensured hs h₁ h₂ hn hm
    rw [hc] at hlen
    obtain ⟨d, ds, hd⟩ := List.exists_cons_of_length_eq_add_one hlen
    rw [hd]
    exact ⟨_, List.mem_map_of_mem List.mem_cons_self, hbranches.symm⟩
  · intro c hc
    obtain ⟨d, _, rfl⟩ := List.mem_map.1 hc
    exact Or.inr hbranches.symm

namespace Attached

variable {suits : EdgeKind → EdgeKind → Prop}

/-- Making sure of a branch leaves what clauses name attached, and hangs the branch below the
group. -/
theorem ensureBranch (ha : Attached suits g) (hf : Forest g) {id key : NodeId}
    {target : Option NodeId} {kind : EdgeKind} {skip : Option Nat}
    (h : g.ensureBranch id key target kind skip = .ok g') :
    Attached suits g' ∧ (∀ t, target = some t → g'.owningEdge t = some ⟨id, t, kind⟩) ∧
      ∀ x, target ≠ some x → g'.owningEdge x = g.owningEdge x := by
  rcases ensureBranch_ok h with ⟨rfl, rfl⟩ | ⟨t, rfl, ⟨e, ho, rfl, rfl, rfl⟩ | ⟨_, hmove⟩⟩
  · exact ⟨ha, by simp, fun _ _ => rfl⟩
  · refine ⟨ha, fun u hu => ?_, fun _ _ => rfl⟩
    rw [← Option.some.inj hu, ho]
    have htarget := (hf.listed ho).1
    rw [← htarget]
  · refine ⟨ha.move hf hmove, fun u hu => ?_, fun x hx => ?_⟩
    · rw [← Option.some.inj hu, owningEdge_move hf hmove, if_pos rfl]
    · rw [owningEdge_move hf hmove, if_neg fun heq => hx (congrArg some heq)]

/-- A clause whose branches were made sure of can be written: where its branches are one node, that
node hangs below the group as the second branch. -/
theorem wrote (ha : Attached suits g) (hs : Sound g) {w : Clause NodeId} (hrefl : ∀ k, suits k k)
    (hdoubles : w.doubles = true → suits .thenBranch .elseBranch) (h : Wrote g w g') :
    Attached suits g' := by
  obtain ⟨id, key, skip, g₁, g₂, m, cs, h₁, h₂, hm, _, _, hrest, rfl⟩ := h
  obtain ⟨ha₁, htrue, _⟩ := ha.ensureBranch hs.toForest h₁
  obtain ⟨ha₂, hfalse, hkeep⟩ := ha₁.ensureBranch (hs.ensureBranch h₁).1.toForest h₂
  refine ha₂.write fun c hc t k ht => ?_
  rcases hrest c hc with hmem | hb
  · exact ha₂ ⟨c, clausesAt_of_node? hm ▸ hmem, ht⟩
  rw [Clause.target_congr hb] at ht
  cases k with
  | child => simp [Clause.target] at ht
  | thenBranch =>
    by_cases hsame : w.onFalse = some t
    · exact ⟨.elseBranch, hdoubles (Clause.doubles_eq_true_iff.2 ⟨t, ht, hsame⟩), rfl,
        hfalse t hsame⟩
    · refine ⟨.thenBranch, hrefl _, rfl, ?_⟩
      rw [hkeep t hsame, htrue t ht]
  | elseBranch => exact ⟨.elseBranch, hrefl _, rfl, hfalse t ht⟩

end Attached

namespace Agrees

/-- No clause of a graph in agreement has one node as both branches. -/
theorem doubles_eq_false (ha : Agrees g) {id : NodeId} {c : Clause NodeId}
    (hc : c ∈ g.clausesAt id) : c.doubles = false := by
  rw [Bool.eq_false_iff]
  intro hd
  obtain ⟨t, htrue, hfalse⟩ := Clause.doubles_eq_true_iff.1 hd
  have h₁ := ha.edge (show g.Points id t .thenBranch from ⟨c, hc, htrue⟩)
  have h₂ := ha.edge (show g.Points id t .elseBranch from ⟨c, hc, hfalse⟩)
  rw [h₁] at h₂
  simp at h₂

/-- A graph into which a clause was written can only be in agreement if the branches of the clause
are not one node. -/
theorem doubles_of_wrote (ha : Agrees g') {w : Clause NodeId} (h : Wrote g w g') :
    w.doubles = false := by
  obtain ⟨id, key, skip, g₁, g₂, m, cs, _, _, _, hgroup, ⟨c, hc, hb⟩, _, rfl⟩ := h
  rw [← Clause.doubles_congr hb]
  refine ha.doubles_eq_false (?_ : c ∈ clausesAt _ id)
  rw [clausesAt_next, clausesAt_putNode, if_pos rfl, Node.clauses_setClauses, if_pos hgroup]
  exact hc

end Agrees

end Graph

end FormGraph

import FormGraph.Proofs.Agreement.Even
import FormGraph.Proofs.BranchAgreement
import FormGraph.Proofs.Imported

/-!
# The branches of `if` blocks

In every reachable graph the clauses of an `if` block have the same branches
(`shared_branches_of_reachable`), whatever has become of the branches, and also where one node was named
as both of them.
-/

namespace FormGraph

namespace Graph

variable {g g' old : Graph} {s : IdSupply}

namespace Balance

variable {suits : EdgeKind → EdgeKind → Prop}

/-! ## Removing definitions -/

/-- A copied group has the clauses of its original, and its branches are the copies of those. -/
theorem balanced_copied (hbo : Balance old) (hold : Forest old) {source : NodeId}
    {pairs : List (NodeId × NodeId)} (hc : Copied old g g' source pairs) {w : Graph}
    {q : NodeId × NodeId} (hq : q ∈ pairs) (hkind : w.kind? q.2 = g'.kind? q.2)
    (hcl : w.clausesAt q.2 = g'.clausesAt q.2)
    (hown : ∀ {u}, w.owningEdge u = some ⟨q.2, u, .elseBranch⟩ → g'.owningEdge u = w.owningEdge u) :
    w.Balanced q.2 := by
  obtain ⟨n, hn, hcopy⟩ := hc.node q hq
  refine (hbo q.1).image (f := copyName? pairs) (fun hk => ?_) ?_ fun {t u} _ htu _ ho => ?_
  · rwa [hkind, hc.kind? hq] at hk
  · rw [hcl, clausesAt_of_node? hcopy, copiedNode, Node.clauses_setClauses_map,
      clausesAt_of_node? hn]
  · have hpair : (t, u) ∈ pairs := Entries.mem_of_find? htu
    rw [← hown ho] at ho
    obtain ⟨f, p, hp, hf, hsource, heq⟩ := hc.of_owningEdge hpair ho
    obtain ⟨hsame, -, hkind⟩ := Edge.mk.inj heq
    obtain rfl := hc.same_original q hq p hp hsame
    obtain ⟨htarget, _⟩ := hold.listed hf
    obtain ⟨source, target, kind⟩ := f
    dsimp only at hsource htarget hkind
    rw [hf, htarget, ← hsource, ← hkind]

/-- The copy takes the place of the reference in all clauses alike. -/
theorem inlineReference (hb : Balance g) (hbo : Balance old) (ha : Attached suits g) (hs : Sound g)
    (hold : Sound old) (hsup : Supplied g s) {ref : NodeId} (hk : g.kind? ref = some .reference)
    (hk' : old.kind? ref = some .reference) {content : Option NodeId} {r : Graph × IdSupply}
    (h : (g.inlineReference old ref content).run s = .ok r) : Balance r.1 := by
  rcases hs.inPlace_of_inlineReference hold hsup hk h with ⟨_, rfl⟩ | ⟨_, rfl, ⟨i⟩⟩
  · refine (hb.release ha hs.toForest ref).dropAll (ha.detach hs.toForest ref) fun x e he hx => ?_
    rw [owningEdge_freed, if_pos ((hold.mem_subtreeIds_of_reference hk').1 hx).symm] at he
    simp at he
  have htarget : i.edge.target = ref := (hs.listed i.owner).1
  intro x
  rcases Copied.name_or_outside i.pairs x with ⟨q, hq, rfl⟩ | hx
  · -- a copied group holds nothing of what was there, so its clauses do not name the reference
    have hsource : i.edge.source ≠ q.2 :=
      (i.ne_of_present hsup (hs.present i.owner).2 q hq).symm
    have hcl : r.1.clausesAt q.2 = i.copied.clausesAt q.2 := by
      rw [i.eq_wired]
      split
      · rw [clausesAt_retarget, if_neg hsource, i.clausesAt_wired]
      · exact i.clausesAt_wired _
    refine hbo.balanced_copied hold.toForest i.copies hq (i.kind? _) hcl fun {u} hu => ?_
    rw [i.owningEdge] at hu ⊢
    split_ifs at hu ⊢
    · exact absurd (congrArg Edge.source (Option.some.inj hu)) hsource
    · rfl
  by_cases href : ref = x
  · -- the reference is gone
    have hnil : i.wired.clausesAt x = [] := by
      rw [i.clausesAt_wired]
      exact clausesAt_of_absent (by rw [i.node?_outside hx, if_pos href])
    refine .of_nil ?_
    rw [i.eq_wired]
    split
    · rw [clausesAt_retarget, hnil]
      split <;> rfl
    · exact hnil
  · have hcl : i.wired.clausesAt x = g.clausesAt x := by
      rw [i.clausesAt_wired]
      exact clausesAt_congr (by rw [i.node?_outside hx, if_neg href])
    have hkx : i.wired.kind? x = g.kind? x := by
      rw [i.kind?_wired, ← i.kind?, i.kind?_outside hx, if_neg href]
    have hnew : i.wired.owningEdge i.copyId = some ⟨i.edge.source, i.copyId, i.edge.kind⟩ := by
      rw [i.owningEdge_wired, if_pos rfl]
    have howner : g.owningEdge i.edge.target = some i.edge := by rw [htarget, i.owner]
    have hreplaced := (hb x).replace ha howner hkx hcl hnew fun {t} hp ht => by
      have hout := i.ne_of_present hsup (ha.target_present hs.toForest hp)
      rw [htarget] at ht
      rw [← i.owningEdge_eq_wired, i.owningEdge_outside hout, if_neg (Ne.symm ht)]
    rwa [htarget, ← i.eq_wired] at hreplaced

theorem removeDefinition (hb : Balance g) (ha : Attached suits g) (hs : Sound g)
    (hsup : Supplied g s) {name : String} {policy : RemovalPolicy}
    {r : (Graph × List String) × IdSupply} (h : (g.removeDefinition name policy).run s = .ok r) :
    Balance r.1.1 := by
  obtain ⟨defId, settled, warnings, hfind, hsettle, hr⟩ := removeDefinition_ok h
  have hboth : Attached suits settled ∧ Balance settled := by
    refine hs.keeps_of_settleReferences hsup hfind (P := fun _ g => Attached suits g ∧ Balance g)
      (fun _ => ⟨ha, hb⟩)
      ⟨Attached.removeAll hs _ hs.removable_of_reference ha hs (Within.refl g),
        removeAll hs _ hs.removable_of_reference hb ha hs (Within.refl g)⟩
      (fun _ hi hsup hboth h => ?_) hsettle
    obtain ⟨hk, hk'⟩ := hi.refs _ List.mem_cons_self
    exact ⟨hboth.1.inlineReference ha hi.sound hs hsup hk hk' h,
      hboth.2.inlineReference hb hboth.1 hi.sound hs hsup hk hk' h⟩
  obtain ⟨hi, _⟩ := hs.settleReferences hsup hfind hsettle
  rw [hr]
  exact fun x => (hboth.2.dropAll hboth.1 (fun x e he hx => (hi.closed x e he).1 hx) x).congr
    (fun hk => hk) rfl fun _ => rfl

theorem remove (hb : Balance g) (ha : Attached suits g) (hs : Sound g) (hsup : Supplied g s)
    {id : NodeId} {policy : RemovalPolicy} {r : Graph × IdSupply}
    (h : (g.remove id policy).run s = .ok r) : Balance r.1 := by
  obtain ⟨n, _, _, ⟨_, hr⟩ | ⟨name, warnings, _, hdef⟩⟩ := remove_ok h
  · rw [hr]
    exact (hb.removeSubtree ha hs.toForest hs.toForest (Within.refl g) id).next
  · exact hb.removeDefinition ha hs hsup hdef

theorem pruneBranches (hb : Balance g) (ha : Attached suits g) (hs : Sound g) {id : NodeId}
    (h : g.pruneBranches id = .ok g') : Balance g' := by
  obtain ⟨n, _, _, rfl | rfl⟩ := pruneBranches_ok h
  · exact hb
  · rw [← List.foldl_map (f := Edge.target) (g := fun h id => Graph.removeSubtree h g id)]
    exact (removeAll hs _ hs.removable_of_branch hb ha hs (Within.refl g)).next

/-! ## Writing clauses -/

/-- Clauses are written whose branches are shared and lean as they may. -/
theorem write (hb : Balance g) {id : NodeId} {m : Node NodeId} {cs : List (Clause NodeId)}
    (hshared : m.kind = .group .ifBlock → ∀ c ∈ cs, ∀ d ∈ cs, c.branches = d.branches)
    (hlean : ∀ c ∈ cs, ∀ t, c.onTrue = some t → g.owningEdge t = some ⟨id, t, .elseBranch⟩ →
      c.onFalse = some t) : Balance (g.putNode id (m.setClauses cs)).next := by
  intro x
  have hkind : (g.putNode id (m.setClauses cs)).next.kind? x =
      if id = x then some m.kind else g.kind? x := by
    rw [kind?_next, kind?_putNode, Node.kind_setClauses]
  have hcl : (g.putNode id (m.setClauses cs)).next.clausesAt x =
      if id = x then (if m.kind.isGroup then cs else []) else g.clausesAt x := by
    rw [clausesAt_next, clausesAt_putNode, Node.clauses_setClauses]
  by_cases hx : id = x
  · subst hx
    rw [if_pos rfl] at hkind hcl
    have hmem : ∀ c ∈ (g.putNode id (m.setClauses cs)).next.clausesAt id, c ∈ cs := by
      intro c hc
      rw [hcl] at hc
      split_ifs at hc
      · exact hc
      · simp at hc
    exact
      { shared := fun hk c hc d hd => by
          rw [hkind] at hk
          exact hshared (Option.some.inj hk) c (hmem c hc) d (hmem d hd)
        leaning := fun c hc => hlean c (hmem c hc) }
  · rw [if_neg hx] at hkind hcl
    exact (hb x).congr hkind.symm.trans hcl fun _ => rfl

theorem removeClause (hb : Balance g) (ha : Attached suits g) (hs : Sound g) {id : NodeId}
    {index : Int} {prune : Bool} (h : g.removeClause id index prune = .ok g') : Balance g' := by
  obtain ⟨n, g₁, hn, _, rfl, hprune⟩ := removeClause_ok h
  have hkept : ∀ c ∈ n.clauses.eraseIdx index.toNat, c ∈ g.clausesAt id := fun c hc => by
    rw [clausesAt_of_node? hn]
    exact List.mem_of_mem_eraseIdx hc
  have hwritten : Balance (g.putNode id (n.setClauses (n.clauses.eraseIdx index.toNat))).next := by
    refine hb.write (fun hk c hc d hd => ?_) fun c hc => (hb id).leaning c (hkept c hc)
    exact (hb id).shared (g.kind?_of_node? hn ▸ congrArg some hk) c (hkept c hc) d (hkept d hd)
  rcases hprune with rfl | hprune
  · exact hwritten
  · refine hwritten.pruneBranches (ha.write fun c hc t k ht => ?_) (hs.setClauses hn _).1 hprune
    exact ha ⟨c, hkept c hc, ht⟩

theorem ensureBranch (hb : Balance g) (ha : Attached suits g) (hs : Sound g) {id key : NodeId}
    {target : Option NodeId} {kind : EdgeKind} {skip : Option Nat}
    (h : g.ensureBranch id key target kind skip = .ok g') : Balance g' := by
  rcases ensureBranch_ok h with ⟨_, rfl⟩ | ⟨t, _, ⟨_, _, _, _, rfl⟩ | ⟨_, hmove⟩⟩
  · exact hb
  · exact hb
  · exact hb.move ha hs hmove

/-- Clauses of the group and clauses with the branches of one clause are written after the branches of
that were made sure of. -/
theorem written (hb : Balance g) (ha : Attached suits g) (hs : Sound g) {id key : NodeId}
    {onTrue onFalse : Option NodeId} {skip : Option Nat} {g₁ g₂ : Graph} {m : Node NodeId}
    (h₁ : g.ensureBranch id key onTrue .thenBranch skip = .ok g₁)
    (h₂ : g₁.ensureBranch id key onFalse .elseBranch skip = .ok g₂) (hm : g₂.node? id = some m)
    {cs : List (Clause NodeId)}
    (hcs : ∀ c ∈ cs, c ∈ m.clauses ∨ c.branches = (onTrue, onFalse))
    (hblock : m.kind = .group .ifBlock → ∀ c ∈ cs, c.branches = (onTrue, onFalse)) :
    Balance (g₂.putNode id (m.setClauses cs)).next := by
  obtain ⟨ha₁, htrue, _⟩ := ha.ensureBranch hs.toForest h₁
  have hs₁ := (hs.ensureBranch h₁).1
  obtain ⟨_, _, hkeep⟩ := ha₁.ensureBranch hs₁.toForest h₂
  have hb₂ := (hb.ensureBranch ha hs h₁).ensureBranch ha₁ hs₁ h₂
  refine hb₂.write (fun hk c hc d hd => (hblock hk c hc).trans (hblock hk d hd).symm) ?_
  intro c hc t ht ho
  rcases hcs c hc with hold | hnew
  · exact (hb₂ id).leaning c (clausesAt_of_node? hm ▸ hold) t ht ho
  · obtain ⟨hctrue, hcfalse⟩ := Prod.mk.inj hnew
    rw [hctrue] at ht
    rw [hcfalse]
    by_contra hne
    rw [hkeep t hne, htrue t ht] at ho
    simp at ho

/-- A branch that another clause of the group names is not moved to make sure of it: it hangs where it
is to hang, or the other clause needs it where it hangs. -/
theorem ensureBranch_eq (hb : Balance g) (ha : Attached Leans g) {id key : NodeId} {n : Node NodeId}
    (hn : g.node? id = some n) {c : Clause NodeId} {i : Nat} (hc : n.clauses[i]? = some c)
    {skip : Option Nat} (hskip : skip ≠ some i) {t : NodeId} {k kind : EdgeKind}
    (ht : c.target k = some t) (hkind : kind.isBranch = true)
    (h : g.ensureBranch id key (some t) kind skip = .ok g') : g' = g := by
  rcases ensureBranch_ok h with ⟨hnone, _⟩ | ⟨t', htarget, ⟨_, _, _, _, rfl⟩ | ⟨hguard, _⟩⟩
  · simp at hnone
  · rfl
  obtain rfl := Option.some.inj htarget
  have hmem : c ∈ g.clausesAt id := clausesAt_of_node? hn ▸ List.mem_of_getElem? hc
  obtain ⟨k', hlean, hbranch, ho⟩ := ha ⟨c, hmem, ht⟩
  obtain ⟨hne, m, hm, hserves⟩ := hguard _ ho rfl
  rw [hn] at hm
  obtain rfl := Option.some.inj hm
  -- the clause names the node as the branch that it hangs below the group as
  have hnamed : c.target k' = some t := by
    rcases hlean with rfl | ⟨rfl, rfl⟩
    · exact ht
    · exact (hb id).leaning c hmem t ht ho
  have hother : k' = otherBranch kind := by
    cases k' <;> cases kind <;> simp_all [EdgeKind.isBranch, otherBranch]
  have hserved : servesElsewhere n.clauses skip t (otherBranch kind) = true := by
    refine List.any_eq_true.2 ⟨(c, i), List.mk_mem_zipIdx_iff_getElem?.2 hc, ?_⟩
    simp [← hother, hnamed, hskip]
  rw [hserved] at hserves
  simp at hserves

/-- Where an `if` block has clauses, one that it takes on has their branches. -/
theorem branches_of_clauseFor {id : NodeId} {n : Node NodeId} {clause first w : Clause NodeId}
    {rest : List (Clause NodeId)} (hk : n.kind = .group .ifBlock) (hcs : n.clauses = first :: rest)
    (h : clauseFor id n clause = .ok w) : w.branches = first.branches := by
  obtain ⟨_, body, _, _, _, _, _, _, _⟩ := n
  cases body with
  | group k cs =>
    obtain rfl : k = .ifBlock := by simpa [Node.kind, Body.kind] using hk
    obtain rfl : cs = first :: rest := hcs
    simp only [clauseFor] at h
    split_ifs at h with hsame
    · rw [← Except.ok.inj h]
      exact hsame
    · simp [refuse] at h
  | string | number | boolean | enum | object | array | definition | reference =>
    simp [Node.kind, Body.kind] at hk

/-- A clause that is appended to an `if` block gets the branches of those there are. -/
theorem appendClause (hb : Balance g) (ha : Attached Leans g) (hs : Sound g) {id : NodeId}
    {clause : Clause NodeId} (h : g.appendClause id clause = .ok g') : Balance g' := by
  obtain ⟨n, w, g₁, g₂, m, hn, _, hw, h₁, h₂, hm, _, rfl⟩ := appendClause_ok h
  refine hb.written ha hs h₁ h₂ hm (fun c hc => ?_) fun hk c hc => ?_
  · refine (List.mem_append.1 hc).imp_right fun hc => ?_
    rw [List.mem_singleton.1 hc]
    rfl
  have hkn : n.kind = .group .ifBlock := (hs.kind_of_ensured h₁ h₂ hn hm).symm.trans hk
  rcases List.mem_append.1 hc with hc | hc
  · -- the block has clauses: `w` is like them, so its branches were where they had to be
    obtain ⟨first, rest, hfirst⟩ : ∃ first rest, n.clauses = first :: rest := by
      have hlen := length_clauses_of_ensured hs h₁ h₂ hn hm
      refine List.exists_cons_of_ne_nil fun hnil => ?_
      rw [hnil, List.length_nil, List.length_eq_zero_iff] at hlen
      rw [hlen] at hc
      simp at hc
    have hbranches : w.branches = first.branches := branches_of_clauseFor hkn hfirst hw
    have hfirstMem : first ∈ n.clauses := by
      rw [hfirst]
      exact List.mem_cons_self
    have hkept : ∀ (kind : EdgeKind) {target : Option NodeId} {g' : Graph},
        first.target kind = target → kind.isBranch = true →
        g.ensureBranch id n.key target kind none = .ok g' → g' = g := by
      intro kind target g' htarget hkind h
      cases target with
      | none => exact (pure_eq_ok_iff.1 h).symm
      | some t =>
        exact hb.ensureBranch_eq ha hn (i := 0) (by rw [hfirst]; rfl) (by simp) htarget hkind h
    obtain rfl := hkept .thenBranch (congrArg Prod.fst hbranches).symm rfl h₁
    obtain rfl := hkept .elseBranch (congrArg Prod.snd hbranches).symm rfl h₂
    rw [hn] at hm
    obtain rfl := Option.some.inj hm
    have hblock := (hb id).shared (g₂.kind?_of_node? hn ▸ congrArg some hkn)
    rw [← clausesAt_of_node? hn] at hc hfirstMem
    exact (hblock c hc first hfirstMem).trans hbranches.symm
  · rw [List.mem_singleton.1 hc]
    rfl

theorem updateClause (hb : Balance g) (ha : Attached suits g) (hs : Sound g) {id : NodeId}
    {index : Int} {patch : Members} (h : g.updateClause id index patch = .ok g') : Balance g' := by
  obtain ⟨n, _, _, w, g₁, g₂, m, hn, _, _, _, _, h₁, h₂, hm, _, rfl⟩ := updateClause_ok h
  refine hb.written ha hs h₁ h₂ hm (fun c hc => ?_) fun hk c hc => ?_
  · split_ifs at hc
    · obtain ⟨d, _, rfl⟩ := List.mem_map.1 hc
      exact Or.inr rfl
    · refine (List.mem_or_eq_of_mem_set hc).imp_right fun heq => ?_
      rw [heq]
      rfl
  · rw [if_pos ((hs.kind_of_ensured h₁ h₂ hn hm).symm.trans hk)] at hc
    obtain ⟨d, _, rfl⟩ := List.mem_map.1 hc
    rfl

theorem synchronizeBranches (hb : Balance g) (ha : Attached suits g) (hs : Sound g) {id : NodeId}
    {onTrue onFalse : Option (Option NodeId)}
    (h : g.synchronizeBranches id onTrue onFalse = .ok g') : Balance g' := by
  obtain ⟨n, _, _, ⟨_, rfl⟩ | ⟨first, rest, _, ⟨_, rfl⟩ | ⟨g₁, g₂, m, h₁, h₂, hm, _, rfl⟩⟩⟩ :=
    synchronizeBranches_ok h
  · exact hb
  · exact hb
  · have hcs : ∀ c ∈ m.clauses.map fun c => { c with
        onTrue := onTrue.getD first.onTrue
        onFalse := onFalse.getD first.onFalse },
        c.branches = (onTrue.getD first.onTrue, onFalse.getD first.onFalse) := by
      intro c hc
      obtain ⟨d, _, rfl⟩ := List.mem_map.1 hc
      rfl
    exact hb.written ha hs h₁ h₂ hm (fun c hc => Or.inr (hcs c hc)) fun _ => hcs

/-! ## All changes -/

/-- A change keeps all groups balanced. -/
theorem applied (hb : Balance g) (ha : Attached Leans g) (hs : Sound g) (hsup : Supplied g s)
    {c : Change} (hplain : c.Plain) {t : IdSupply} (h : Applied g s c g' t) : Balance g' := by
  have hfree : g.node? (IdSupply.nameOf (s.used + 1)) = none := hsup _ (Nat.lt_succ_self _)
  cases h with
  | add h => exact hb.addAs ha hs.toForest hfree hplain (add_ok h).1
  | update h => exact hb.update h
  | remove h => exact hb.remove ha hs hsup h
  | move h => exact hb.move ha hs h
  | reorder h => exact hb.reorder h
  | createGroup _ h =>
    exact hb.addAs ha hs.toForest hfree (Body.clauses_initial _) (add_ok h).1
  | appendClause _ h => exact hb.appendClause ha hs h
  | updateClause h => exact hb.updateClause ha hs h
  | removeClause h => exact hb.removeClause ha hs h
  | synchronize h => exact hb.synchronizeBranches ha hs h
  | prune h => exact hb.pruneBranches ha hs h
  | createDefinition h =>
    refine hb.createDefinition ha hs hsup (fun draft hd => ?_) h
    subst hd
    exact hplain
  | promote h =>
    exact hb.promoteAs ha hs.toForest hfree (hsup _ (Nat.lt_succ_of_lt (Nat.lt_succ_self _)))
      (promote_ok h).1
  | renameDefinition h => exact hb.renameDefinition h
  | removeDefinition h => exact hb.removeDefinition ha hs hsup h

theorem apply (hb : Balance g) (ha : Attached Leans g) (hs : Sound g) (hsup : Supplied g s)
    {c : Change} (hplain : c.Plain) {r : Effect × IdSupply} (h : (g.apply c).run s = .ok r) :
    Balance r.1.graph :=
  hb.applied ha hs hsup hplain (applied_of_apply h)

end Balance

/-! ## Reachable graphs -/

/-- The groups of a document that was read are balanced. -/
theorem balance_toGraph {d : DocumentOutline} (hf : d.Fits) (ht : d.Tidy) (used : Nat) :
    Balance (d.toGraph used) := by
  have ha := agrees_toGraph hf used
  intro id
  refine ⟨fun hk => ?_, fun c hc t hct ho => ?_⟩
  · obtain ⟨n, hn, hkind⟩ := (kind?_eq_some_iff _).1 hk
    rw [clausesAt_of_node? hn]
    exact (tidy_toGraph hf ht used).block hn hkind
  · have hthen := ha.edge (show (d.toGraph used).Points id t .thenBranch from ⟨c, hc, hct⟩)
    rw [hthen] at ho
    simp at ho

/-- The empty graph has no clauses. -/
theorem clausesAt_empty (title description : Value) (id : NodeId) :
    (Graph.empty title description).clausesAt id = [] := by
  unfold Graph.empty clausesAt node?
  rw [Table.find?_put]
  split <;> rfl

/-- What holds of the branches of all reachable graphs: those that clauses name hang below their
groups, and all groups are balanced. -/
theorem Reachable.balanced (h : Reachable (fun _ c => c.Plain) g s) :
    Attached Leans g ∧ Balance g := by
  have hlean : ∀ {g : Graph}, Agrees g → Attached Leans g := fun ha _ _ _ hp =>
    ⟨_, Or.inl rfl, hp.isBranch, ha.edge hp⟩
  refine h.keeps (P := fun g => Attached Leans g ∧ Balance g) (fun title description => ?_)
    (fun hp hread used => ?_) (fun hP hu => ⟨hP.1.update hu, hP.2.update hu⟩)
    fun hbefore hP hc happly => ?_
  · exact ⟨hlean (agrees_empty title description),
      fun id => .of_nil (clausesAt_empty title description id)⟩
  · have hf := fits_of_outlineOf hp hread
    exact ⟨hlean (agrees_toGraph hf used), balance_toGraph hf (tidy_of_outlineOf hp hread) used⟩
  · obtain ⟨hs, hsup⟩ := hbefore.sound
    exact ⟨hP.1.apply hs hsup hc (fun _ => Or.inl rfl) (fun _ => Or.inr ⟨rfl, rfl⟩) happly,
      hP.2.apply hP.1 hs hsup hc happly⟩

theorem Reachable.shared (h : Reachable (fun _ c => c.Plain) g s) :
    Attached Leans g ∧ Shared g :=
  h.balanced.imp_right Balance.shared

/-- In a reachable graph the clauses of an `if` block have the same branches. -/
theorem shared_branches_of_reachable (h : Reachable (fun _ c => c.Plain) g s) {id : NodeId}
    {n : Node NodeId} (hn : g.node? id = some n) (hk : n.kind = .group .ifBlock)
    {c d : Clause NodeId} (hc : c ∈ n.clauses) (hd : d ∈ n.clauses) :
    c.onTrue = d.onTrue ∧ c.onFalse = d.onFalse := by
  have heven := h.shared.2 (g.kind?_of_node? hn ▸ congrArg some hk)
  rw [← clausesAt_of_node? hn] at hc hd
  exact Prod.mk.inj (heven.shared c hc d hd)

/-- One node is made both branches of an `if` block with two clauses and then promoted: both clauses
name the reference in its place, twice. -/
theorem shared_branches_of_promoted :
    ∃ (g : Graph) (s : IdSupply) (n : Node NodeId), Reachable (fun _ c => c.Plain) g s ∧
      g.node? "n2" = some n ∧ n.kind = .group .ifBlock ∧
      n.clauses.map Clause.branches = [(some "n4", some "n4"), (some "n4", some "n4")] ∧
      ∀ c ∈ n.clauses, ∀ d ∈ n.clauses, c.onTrue = d.onTrue ∧ c.onFalse = d.onFalse := by
  have hfield : Reachable (fun _ c => c.Plain) _ _ :=
    .change (c := .add { body := .boolean } rootName .child none) (.empty .null .null {}) rfl rfl
  have hblock : Reachable (fun _ c => c.Plain) _ _ :=
    .change (c := .createGroup (.group .ifBlock) rootName .null .null none) hfield trivial rfl
  have hfirst : Reachable (fun _ c => c.Plain) _ _ :=
    .change (c := .appendClause "n2" [("condition", .obj [("field", .str "a")])]) hblock trivial rfl
  have hsecond : Reachable (fun _ c => c.Plain) _ _ :=
    .change (c := .appendClause "n2" [("condition", .obj [("field", .str "b")])]) hfirst trivial rfl
  have hboth : Reachable (fun _ c => c.Plain) _ _ :=
    .change (c := .synchronize "n2" (some (some "n1")) (some (some "n1"))) hsecond trivial rfl
  have hpromoted : Reachable (fun _ c => c.Plain) _ _ :=
    .change (c := .promote "n1" "d") hboth trivial rfl
  have hshared (n : Node NodeId) (hn : Graph.node? _ "n2" = some n)
      (hk : n.kind = .group .ifBlock) (c) (hc : c ∈ n.clauses) (d) (hd : d ∈ n.clauses) :=
    shared_branches_of_reachable hpromoted hn hk hc hd
  exact ⟨_, _, _, hpromoted, rfl, rfl, rfl, hshared _ rfl rfl⟩

end Graph

end FormGraph

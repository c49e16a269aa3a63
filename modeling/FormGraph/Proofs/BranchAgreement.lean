import FormGraph.Proofs.Agreement.Change
import FormGraph.Proofs.Reachable

/-!
# Branch agreement

A branch that a clause names hangs below the group of the clause, over an edge that says which branch
it is; so no node is both branches. This holds of every reachable graph as long as no clause is
written that names one node as both of its branches. The edits do not refuse such a clause: it is
the one way to lose the agreement, and a sure one.
-/

namespace FormGraph

namespace Change

/-- No node is made that has clauses from the start. -/
def Plain : Change → Prop
  | .add draft _ _ _ => draft.body.clauses = []
  | .createDefinition _ (some draft) => draft.body.clauses = []
  | _ => True

end Change

namespace Graph

variable {g : Graph}

/-- The clause that a change would write into a group. -/
def written? (g : Graph) : Change → Option (Clause NodeId)
  | .appendClause id clause => do
    let n ← g.node? id
    let c ← (Clause.ofMembers clause).toOption
    (clauseFor id n c).toOption
  | .updateClause id index patch => do
    let n ← g.node? id
    let c ← n.clauses[index.toNat]?
    let p ← (ClausePatch.ofMembers patch).toOption
    (p.apply c).toOption
  | .synchronize id onTrue onFalse => do
    let n ← g.node? id
    let first ← n.clauses.head?
    return { first with
      onTrue := onTrue.getD first.onTrue
      onFalse := onFalse.getD first.onFalse }
  | _ => none

/-- The change would write a clause whose branches are one node. -/
def doubles (g : Graph) (c : Change) : Bool := (g.written? c).any Clause.doubles

/-- The branches that clauses name hang below their groups, each over its edge. -/
structure BranchAgreement (g : Graph) : Prop where
  /-- A node that a clause names as its then branch hangs below the group over a then edge. -/
  onTrue : ∀ {id : NodeId} {n : Node NodeId} {c : Clause NodeId} {t : NodeId},
    g.node? id = some n → c ∈ n.clauses → c.onTrue = some t →
      g.owningEdge t = some ⟨id, t, .thenBranch⟩
  /-- A node that a clause names as its else branch hangs below the group over an else edge. -/
  onFalse : ∀ {id : NodeId} {n : Node NodeId} {c : Clause NodeId} {t : NodeId},
    g.node? id = some n → c ∈ n.clauses → c.onFalse = some t →
      g.owningEdge t = some ⟨id, t, .elseBranch⟩
  /-- No node is a then branch and an else branch of one group. -/
  apart : ∀ {id : NodeId} {n : Node NodeId} {c d : Clause NodeId} {t : NodeId},
    g.node? id = some n → c ∈ n.clauses → d ∈ n.clauses → c.onTrue = some t → d.onFalse ≠ some t

theorem branchAgreement_iff : BranchAgreement g ↔ Agrees g := by
  rw [agrees_iff]
  constructor
  · rintro h id t k ⟨c, hc, ht⟩
    cases hn : g.node? id with
    | none => simp [clausesAt_of_absent hn] at hc
    | some n =>
      rw [clausesAt_of_node? hn] at hc
      cases k with
      | child => simp [Clause.target] at ht
      | thenBranch => exact h.onTrue hn hc ht
      | elseBranch => exact h.onFalse hn hc ht
  · intro ha
    have hpoints : ∀ {id n c k t}, g.node? id = some n → c ∈ n.clauses →
        c.target k = some t → g.owningEdge t = some ⟨id, t, k⟩ :=
      fun hn hc ht => ha ⟨_, clausesAt_of_node? hn ▸ hc, ht⟩
    refine ⟨fun hn hc ht => hpoints (k := .thenBranch) hn hc ht,
      fun hn hc ht => hpoints (k := .elseBranch) hn hc ht, fun hn hc hd htrue hfalse => ?_⟩
    have h₁ := hpoints (k := .thenBranch) hn hc htrue
    rw [hpoints (k := .elseBranch) hn hd hfalse] at h₁
    simp at h₁

theorem agrees_empty (title description : Value) : Agrees (Graph.empty title description) := by
  rintro id t k ⟨c, hc, _⟩
  unfold Graph.empty clausesAt node? at hc
  rw [Table.find?_put] at hc
  split at hc
  · simp [Node.clauses, Body.initial, Body.clauses] at hc
  · simp at hc

theorem agrees_toGraph {d : DocumentOutline} (hf : d.Fits) (used : Nat) :
    Agrees (d.toGraph used) := by
  rw [agrees_iff]
  rintro id t k ⟨c, hc, ht⟩
  cases hn : (d.toGraph used).node? id with
  | none => simp [clausesAt_of_absent hn] at hc
  | some n =>
    rw [clausesAt_of_node? hn] at hc
    exact owningEdge_of_clause_toGraph hf hn hc ht

/-- What a change that writes a clause does, unless the group has clauses like it already. -/
theorem wrote_of_written? (hs : Sound g) {s t : IdSupply} {c : Change} {w : Clause NodeId}
    (hw : g.written? c = some w) (h : Applied g s c g' t) :
    Wrote g w g' ∨ g' = g ∧ ∃ id, ∃ d ∈ g.clausesAt id, d.branches = w.branches := by
  cases h with
  | appendClause hread h =>
    obtain ⟨n, v, _, _, _, hn, _, hv, _⟩ := appendClause_ok h
    obtain rfl : v = w := by simpa [written?, hn, hread, hv, Except.toOption] using hw
    exact Or.inl (wrote_of_appendClause hn hv h)
  | updateClause h =>
    obtain ⟨n, c, p, v, _, _, _, hn, _, hat, hp, hv, _⟩ := updateClause_ok h
    obtain rfl : v = w := by simpa [written?, hn, hat, hp, hv, Except.toOption] using hw
    exact Or.inl (wrote_of_updateClause hs hn hat hp hv h)
  | @synchronize id onTrue onFalse _ h =>
    obtain ⟨n, hn, _, ⟨hnil, _⟩ | ⟨first, rest, hc, _⟩⟩ := synchronizeBranches_ok h
    · simp [written?, hn, hnil] at hw
    · have hfirst : first ∈ g.clausesAt id := by
        rw [clausesAt_of_node? hn, hc]
        exact List.mem_cons_self
      have hw : w = { first with
          onTrue := onTrue.getD first.onTrue
          onFalse := onFalse.getD first.onFalse } := by
        simpa [written?, hn, hc, eq_comm] using hw
      exact (wrote_of_synchronizeBranches hs hn hc hw h).imp_right fun h =>
        ⟨h.1, id, first, hfirst, h.2⟩
  | add _ | update _ | remove _ | move _ | reorder _ | createGroup _ _ | removeClause _ | prune _
  | createDefinition _ | promote _ | renameDefinition _ | removeDefinition _ =>
    simp [written?] at hw

/-- A change leaves what clauses name attached, as long as the kinds of edges suit that are left
where a clause is written whose branches are one node. -/
theorem Attached.applied {suits : EdgeKind → EdgeKind → Prop} (ha : Attached suits g) (hs : Sound g)
    {s t : IdSupply} (hsup : Supplied g s) {c : Change} (hplain : c.Plain) (hrefl : ∀ k, suits k k)
    (hdoubles : g.doubles c = true → suits .thenBranch .elseBranch) (h : Applied g s c g' t) :
    Attached suits g' := by
  have hfree : g.node? (IdSupply.nameOf (s.used + 1)) = none := hsup _ (Nat.lt_succ_self _)
  have hwritten : ∀ {w : Clause NodeId}, g.written? c = some w → Attached suits g' := by
    intro w hw
    rcases wrote_of_written? hs hw h with hwrote | ⟨hsame, _⟩
    · refine ha.wrote hs hrefl (fun hd => hdoubles ?_) hwrote
      rw [Graph.doubles, hw]
      exact hd
    · rw [hsame]
      exact ha
  cases h with
  | add h => exact ha.addAs hs.toForest hfree hplain (add_ok h).1
  | update h => exact ha.update h
  | remove h => exact ha.remove hs hsup h
  | move h => exact ha.move hs.toForest h
  | reorder h => exact ha.reorder h
  | createGroup _ h => exact ha.addAs hs.toForest hfree (Body.clauses_initial _) (add_ok h).1
  | appendClause hread h =>
    obtain ⟨n, w, _, _, _, hn, _, hw, _⟩ := appendClause_ok h
    exact hwritten (w := w) (by simp [written?, hn, hread, hw, Except.toOption])
  | updateClause h =>
    obtain ⟨n, c, p, w, _, _, _, hn, _, hat, hp, hw, _⟩ := updateClause_ok h
    exact hwritten (w := w) (by simp [written?, hn, hat, hp, hw, Except.toOption])
  | removeClause h => exact ha.removeClause hs h
  | @synchronize _ onTrue onFalse _ h =>
    obtain ⟨n, hn, _, ⟨hnil, rfl⟩ | ⟨first, rest, hc, _⟩⟩ := synchronizeBranches_ok h
    · exact ha
    · refine hwritten (w := { first with
        onTrue := onTrue.getD first.onTrue
        onFalse := onFalse.getD first.onFalse }) ?_
      simp [written?, hn, hc]
  | prune h => exact ha.pruneBranches hs h
  | createDefinition h =>
    refine ha.createDefinition hs hsup (fun draft hd => ?_) h
    subst hd
    exact hplain
  | promote h =>
    exact ha.promoteAs hs.toForest hfree (hsup _ (Nat.lt_succ_of_lt (Nat.lt_succ_self _)))
      (promote_ok h).1
  | renameDefinition h => exact ha.renameDefinition h
  | removeDefinition h => exact ha.removeDefinition hs hsup h

theorem Attached.apply {suits : EdgeKind → EdgeKind → Prop} (ha : Attached suits g) (hs : Sound g)
    {s : IdSupply} (hsup : Supplied g s) {c : Change} (hplain : c.Plain) (hrefl : ∀ k, suits k k)
    (hdoubles : g.doubles c = true → suits .thenBranch .elseBranch)
    {r : Effect × IdSupply} (h : (g.apply c).run s = .ok r) : Attached suits r.1.graph :=
  ha.applied hs hsup hplain hrefl hdoubles (applied_of_apply h)

/-- A change keeps the agreement exactly when it does not write a clause whose branches are one
node. -/
theorem Agrees.apply_iff (ha : Agrees g) (hs : Sound g) {s : IdSupply} (hsup : Supplied g s)
    {c : Change} (hplain : c.Plain) {r : Effect × IdSupply} (h : (g.apply c).run s = .ok r) :
    Agrees r.1.graph ↔ g.doubles c = false := by
  constructor
  · intro hagrees
    unfold doubles
    cases hw : g.written? c with
    | none => rfl
    | some w =>
      rw [Option.any_some]
      rcases wrote_of_written? hs hw (applied_of_apply h) with
        hwrote | ⟨_, id, d, hd, hbranches⟩
      · exact Agrees.doubles_of_wrote hagrees hwrote
      · rw [← Clause.doubles_congr hbranches]
        exact ha.doubles_eq_false hd
  · intro hd
    exact ha.apply hs hsup hplain (fun _ => rfl) (fun hdoubles => by simp [hd] at hdoubles) h

/-- Whatever was written into clauses, the branches that they name hang below their groups. -/
theorem Reachable.attached {s : IdSupply} (h : Reachable (fun _ c => c.Plain) g s) :
    Attached (fun _ _ => True) g := by
  have hloose : ∀ {g : Graph}, Agrees g → Attached (fun _ _ => True) g := fun ha _ _ _ hp => by
    obtain ⟨k', _, hrest⟩ := ha hp
    exact ⟨k', trivial, hrest⟩
  exact h.keeps (fun title description => hloose (agrees_empty title description))
    (fun hp hout used => hloose (agrees_toGraph (fits_of_outlineOf hp hout) used))
    (fun ha hu => ha.update hu) fun hr ha hc happly =>
      ha.apply hr.sound.1 hr.sound.2 hc (fun _ => trivial) (fun _ => trivial) happly

/-- As long as no clause is written whose branches are one node, the branches of every reachable
graph agree with the edges; the first such clause ends that. -/
theorem branchAgreement_iff_of_reachable {s : IdSupply}
    (h : Reachable (fun g c => c.Plain ∧ g.doubles c = false) g s) :
    BranchAgreement g ∧ ∀ {c : Change} {r : Effect × IdSupply}, c.Plain →
      (g.apply c).run s = .ok r → (BranchAgreement r.1.graph ↔ g.doubles c = false) := by
  have ha : Agrees g := h.keeps agrees_empty
    (fun hp hout used => agrees_toGraph (fits_of_outlineOf hp hout) used)
    (fun ha hu => ha.update hu)
    fun hr ha hc happly => (ha.apply_iff hr.sound.1 hr.sound.2 hc.1 happly).2 hc.2
  refine ⟨branchAgreement_iff.2 ha, fun hplain happly => ?_⟩
  rw [branchAgreement_iff]
  exact ha.apply_iff h.sound.1 h.sound.2 hplain happly

/-- A clause is accepted that names one field of a form as both of its branches. -/
theorem disagreement_of_doubled_clause :
    ∃ (g : Graph) (s : IdSupply) (c : Change) (r : Effect × IdSupply),
      c = .appendClause "n2"
        [("condition", .obj [("field", .str "a")]), ("then", .str "n1"), ("else", .str "n1")] ∧
      Reachable (fun g c => c.Plain ∧ g.doubles c = false) g s ∧ BranchAgreement g ∧
      (g.apply c).run s = .ok r ∧ ¬ BranchAgreement r.1.graph := by
  let calm (g : Graph) (c : Change) : Prop := c.Plain ∧ g.doubles c = false
  have hfield : Reachable calm _ _ :=
    .change (c := .add { body := .boolean } rootName .child none) (.empty .null .null {})
      ⟨rfl, rfl⟩ rfl
  have hgroup : Reachable calm _ _ :=
    .change (c := .createGroup (.group .anyOf) rootName .null .null none) hfield
      ⟨trivial, rfl⟩ rfl
  obtain ⟨hagree, hiff⟩ := branchAgreement_iff_of_reachable hgroup
  refine ⟨_, _, .appendClause "n2" _, _, rfl, hgroup, hagree, rfl, fun h => ?_⟩
  have hplain : Change.Plain (.appendClause "n2"
    [("condition", .obj [("field", .str "a")]), ("then", .str "n1"), ("else", .str "n1")]) := trivial
  exact absurd ((hiff hplain rfl).1 h) (by decide)

end Graph

end FormGraph

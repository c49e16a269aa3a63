import FormGraph.Proofs.Homogeneous.Inlining

/-!
# Changes that keep arrays homogeneous

Every change but two asks what an array holds, or leaves its items alone: turning an item into a
definition, and inlining references that stand in an array. `mixes` says when these two put items of
different kinds together. As long as no change does, the arrays of every reachable graph are
homogeneous, and a change that succeeds keeps them so exactly when it does not mix
(`homogeneous_iff_of_reachable`).
-/

namespace FormGraph

namespace Graph

variable {g g' : Graph} {s : IdSupply}

/-- The change would put items of different kinds into one array. -/
def mixes (g : Graph) : Change → Bool
  | .promote id _ => g.sharesArray id
  | .removeDefinition name .inlined => g.splitsArray name
  | .remove id .inlined => (g.node? id).any fun n =>
    match n.body with
    | .definition (.str name) => g.splitsArray name
    | _ => false
  | _ => false

namespace Homogeneous

/-! ## Clauses -/

theorem pruneBranches (hh : Homogeneous g) {id : NodeId} (h : g.pruneBranches id = .ok g') :
    Homogeneous g' := by
  obtain ⟨n, _, _, rfl | rfl⟩ := pruneBranches_ok h
  · exact hh
  · rw [← List.foldl_map (f := Edge.target) (g := fun h id => Graph.removeSubtree h g id)]
    exact hh.removeAll g _

theorem removeClause (hh : Homogeneous g) {id : NodeId} {index : Int} {prune : Bool}
    (h : g.removeClause id index prune = .ok g') : Homogeneous g' := by
  obtain ⟨n, g₁, hn, _, rfl, rfl | hprune⟩ := removeClause_ok h
  · exact hh.setClauses hn _
  · exact (hh.setClauses hn _).pruneBranches hprune

theorem ensureBranch (hh : Homogeneous g) (hf : Forest g) {id key : NodeId} {target : Option NodeId}
    {kind : EdgeKind} {skip : Option Nat} (h : g.ensureBranch id key target kind skip = .ok g') :
    Homogeneous g' := by
  rcases ensureBranch_ok h with ⟨_, rfl⟩ | ⟨t, _, ⟨e, _, _, _, rfl⟩ | ⟨_, hmove⟩⟩
  · exact hh
  · exact hh
  · exact hh.move hf hmove

/-- Writing a clause after its branches were made sure of keeps arrays homogeneous. -/
theorem written (hh : Homogeneous g) (hs : Sound g) {id : NodeId} (h : g.ClausesWritten id g') :
    Homogeneous g' := by
  obtain ⟨h₁, h₂, hm, cs⟩ := h
  have hs₁ := (hs.ensureBranch h₁).1.toForest
  exact ((hh.ensureBranch hs.toForest h₁).ensureBranch hs₁ h₂).setClauses hm cs

/-! ## All changes -/

/-- A node that is removed, a definition or another one. -/
theorem remove_iff (hh : Homogeneous g) (hs : Sound g) (hsup : Supplied g s) {id : NodeId}
    {policy : RemovalPolicy} {r : Graph × IdSupply} (h : (g.remove id policy).run s = .ok r) :
    Homogeneous r.1 ↔ g.mixes (.remove id policy) = false := by
  obtain ⟨n, _, hn, ⟨hk, hr⟩ | ⟨name, warnings, hbody, hdef⟩⟩ := remove_ok h
  · have hnone : g.mixes (.remove id policy) = false := by
      cases policy with
      | inlined =>
        simp only [mixes, hn, Option.any_some]
        split
        · next heq =>
          rw [Node.kind, heq] at hk
          exact absurd rfl hk
        · rfl
      | allow | refuse | cascade => rfl
    rw [hr]
    exact iff_of_true (hh.removeSubtree g id) hnone
  · rw [show r.1 = ((r.1, warnings) : Graph × List String).1 from rfl,
      hh.removeDefinition_iff hs hsup hdef]
    cases policy with
    | inlined => simp [mixes, hn, hbody]
    | allow | refuse | cascade => simp [mixes]

/-- A change keeps arrays homogeneous exactly when it does not mix. -/
theorem applied_iff (hh : Homogeneous g) (hs : Sound g) (hsup : Supplied g s) {c : Change}
    {t : IdSupply} (h : Applied g s c g' t) : Homogeneous g' ↔ g.mixes c = false := by
  have hadd : ∀ {draft parentId edge index} {r : (Graph × NodeId) × IdSupply},
      (g.add draft parentId edge index).run s = .ok r → Homogeneous r.1.1 :=
    fun h => hh.addAs hs.toForest (hsup _ (Nat.lt_succ_self _)) (add_ok h).1
  cases h with
  | add h => exact iff_of_true (hadd h) rfl
  | update h => exact iff_of_true (hh.update h) rfl
  | remove h => exact hh.remove_iff hs hsup h
  | move h => exact iff_of_true (hh.move hs.toForest h) rfl
  | reorder h => exact iff_of_true (hh.reorder h) rfl
  | createGroup _ h => exact iff_of_true (hadd h) rfl
  | appendClause _ h => exact iff_of_true (hh.written hs (clausesWritten_of_appendClause h)) rfl
  | updateClause h => exact iff_of_true (hh.written hs (clausesWritten_of_updateClause h)) rfl
  | removeClause h => exact iff_of_true (hh.removeClause h) rfl
  | synchronize h =>
    refine iff_of_true ?_ rfl
    rcases clausesWritten_of_synchronizeBranches h with rfl | hwritten
    · exact hh
    · exact hh.written hs hwritten
  | prune h => exact iff_of_true (hh.pruneBranches h) rfl
  | createDefinition h => exact iff_of_true (hh.createDefinition hs hsup h) rfl
  | promote h => exact hh.promoteAs_iff hs (hsup _ (by omega)) (hsup _ (by omega)) (promote_ok h).1
  | renameDefinition h => exact iff_of_true (hh.renameDefinition hs h) rfl
  | @removeDefinition name policy _ h =>
    rw [hh.removeDefinition_iff hs hsup h]
    cases policy with
    | inlined => simp [mixes]
    | allow | refuse | cascade => simp [mixes]

theorem apply_iff (hh : Homogeneous g) (hs : Sound g) (hsup : Supplied g s) {c : Change}
    {r : Effect × IdSupply} (h : (g.apply c).run s = .ok r) :
    Homogeneous r.1.graph ↔ g.mixes c = false :=
  hh.applied_iff hs hsup (applied_of_apply h)

end Homogeneous

/-! ## Reachable graphs -/

theorem homogeneous_empty (title description : Value) :
    Homogeneous (Graph.empty title description) := by
  intro x y p _ hx
  simp [IsChild, Graph.empty, owningEdge] at hx

/-- An array that was read has one item at most. -/
theorem Tidy.homogeneous (ht : g.Tidy) : Homogeneous g := by
  intro x y p hp hx hy
  obtain ⟨n, hn, hk⟩ := g.kind?_eq_some_iff.1 hp
  have hle := ht.single hn hk
  have hx := ht.toForest.mem_childIds_iff.2 hx
  have hy := ht.toForest.mem_childIds_iff.2 hy
  cases hids : g.childIds p with
  | nil => simp [hids] at hx
  | cons a rest =>
    obtain rfl : rest = [] := by
      rw [hids, List.length_cons] at hle
      exact List.length_eq_zero_iff.1 (by omega)
    rw [hids, List.mem_singleton] at hx hy
    rw [hx, hy]

/-- As long as no change mixes, the items of every array of every reachable graph are of one kind; the
first change that mixes ends that. -/
theorem homogeneous_iff_of_reachable (h : Reachable (fun g c => g.mixes c = false) g s) :
    Homogeneous g ∧ ∀ {c : Change} {r : Effect × IdSupply}, (g.apply c).run s = .ok r →
      (Homogeneous r.1.graph ↔ g.mixes c = false) := by
  have hh : Homogeneous g :=
    h.keeps (P := Homogeneous) homogeneous_empty
      (fun hp hread used =>
        (tidy_toGraph (fits_of_outlineOf hp hread) (tidy_of_outlineOf hp hread) used).homogeneous)
      (fun hh hu => hh.update hu) fun hbefore hh hc happly =>
        (hh.apply_iff hbefore.sound.1 hbefore.sound.2 happly).2 hc
  exact ⟨hh, fun happly => hh.apply_iff h.sound.1 h.sound.2 happly⟩

/-- Of two texts in an array one is turned into a definition: a reference and a text are left. -/
theorem mixed_by_promotion :
    ∃ (g : Graph) (s : IdSupply) (r : Effect × IdSupply),
      Reachable (fun g c => g.mixes c = false) g s ∧ Homogeneous g ∧
        (g.apply (.promote "n2" "line")).run s = .ok r ∧ ¬ Homogeneous r.1.graph := by
  have hproper : (Value.obj [("properties", .obj [("lines", .obj [("type", .str "array"),
      ("items", .obj [("type", .str "string")])])])]).Proper := Value.proper_of_everywhere (by decide)
  have hread : Reachable (fun g c => g.mixes c = false) _ _ :=
    .document hproper (rfl : (decompile _ {}).run {} = .ok _)
  have hsecond : Reachable (fun g c => g.mixes c = false) _ _ :=
    .change (c := .add { body := .initial .string } "n1" .child none) hread rfl rfl
  obtain ⟨hhom, hiff⟩ := homogeneous_iff_of_reachable hsecond
  refine ⟨_, _, _, hsecond, hhom, rfl, fun hh => ?_⟩
  have hmixes := (hiff (c := .promote "n2" "line") rfl).1 hh
  revert hmixes
  decide

end Graph

end FormGraph

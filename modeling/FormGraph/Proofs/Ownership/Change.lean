import FormGraph.Proofs.Ownership.Inline

/-!
# Every change keeps a graph sound

Removing definitions and changing clauses put together the edits of the modules before; `apply`
collects all of them.
-/

namespace FormGraph

namespace Graph

variable {g g' : Graph} {s : IdSupply}

/-- The references to a definition, each once. -/
theorem nodup_referencesTo (g : Graph) (name : String) : (g.referencesTo name).Nodup := by
  unfold referencesTo
  have hn : (g.nodes.entries.map Prod.fst).Nodup := g.nodes.nodup
  exact hn.sublist (List.filter_sublist.map Prod.fst)

namespace SoundBut

/-! ## Removing -/

theorem ownerless_of_definition (hs : Sound g) {name : String} {defId : NodeId}
    (hfind : g.definitions.find? name = some defId) : g.owningEdge defId = none := by
  obtain ⟨d, hd, hdname⟩ := hs.defined.1 hfind
  exact hs.definition_top hd (Node.kind_eq_of_definitionName? hdname)

theorem removable_of_reference (hs : Sound g) {name : String} :
    ∀ ref ∈ g.referencesTo name, ref ≠ g.rootId ∧ g.kind? ref ≠ some .definition := by
  intro ref href
  have hk := kind?_of_mem_referencesTo href
  refine ⟨Ne.symm (hs.ne_root_of_kind hk (by simp)), ?_⟩
  rw [hk]
  simp

/-- Everything that belongs to a definition is there. -/
theorem own_present (hs : Sound g) {name : String} {defId : NodeId}
    (hfind : g.definitions.find? name = some defId) :
    ∀ x ∈ g.subtreeIds defId, (g.node? x).isSome := by
  intro x hx
  rcases below_iff.1 (hs.toForest.mem_subtreeIds_iff.1 hx) with rfl | ⟨e, he, _⟩
  · obtain ⟨d, hd, _⟩ := hs.defined.1 hfind
    simp [hd]
  · exact (hs.present he).1

theorem content_owned (hs : Sound g) {defId : NodeId} :
    ∀ c, (g.childIds defId).head? = some c → (g.owningEdge c).isSome := by
  intro c hc
  obtain ⟨e, he, rfl⟩ := List.mem_map.1 (List.mem_of_head? hc)
  rw [hs.owned (List.mem_filter.1 he).1]
  rfl

/-- The state before any reference to a definition was inlined. -/
theorem inlining (hs : Sound g) {name : String} {defId : NodeId}
    (hfind : g.definitions.find? name = some defId) :
    Inlining g (g.subtreeIds defId)
      ((g.referencesTo name).filter fun ref => !(g.subtreeIds defId).contains ref) g where
  sound := hs
  closed := (Within.refl g).closed hs.toForest (hs.ownerless_of_definition hfind)
  kinds _ _ h := h
  definitions := rfl
  rootId := rfl
  refs ref href := by
    have hk := kind?_of_mem_referencesTo (List.mem_filter.1 href).1
    exact ⟨hk, hk⟩

/-- What a definition's references have become, before the definition itself goes. -/
theorem settleReferences (hs : Sound g) (hsup : Supplied g s) {name : String} {defId : NodeId}
    {policy : RemovalPolicy} (hfind : g.definitions.find? name = some defId)
    {r : (Graph × List String) × IdSupply}
    (h : (g.settleReferences name defId policy).run s = .ok r) :
    Inlining g (g.subtreeIds defId) [] r.1.1 ∧ Supplied r.1.1 r.2 := by
  have htop := hs.ownerless_of_definition hfind
  rcases settleReferences_ok h with ⟨_, hset, ht⟩ | ⟨_, hset, ht⟩ | ⟨_, hset⟩
  · -- the references stay
    rw [hset, ht]
    exact ⟨{ hs.inlining hfind with refs := by simp }, hsup⟩
  · -- the references go too
    obtain ⟨hsound, hwithin⟩ :=
      removeAll hs (g.referencesTo name) hs.removable_of_reference hs (Within.refl g)
    rw [← hset] at hsound hwithin
    rw [ht]
    refine ⟨⟨hsound, hwithin.closed hs.toForest htop, fun _ _ h => hwithin.kinds h,
      hwithin.definitions, hwithin.rootId, by simp⟩, hsup.mono fun x hx => ?_⟩
    obtain ⟨k, hk⟩ := Option.isSome_iff_exists.1 hx
    rw [hwithin.kinds hk]
    rfl
  · -- the references outside of the definition are inlined
    exact Inlining.inlineAll hs (hs.own_present hfind) hs.content_owned _
      ((nodup_referencesTo g name).filter _)
      (fun ref href => by simpa using (List.mem_filter.1 href).2) (hs.inlining hfind) hsup hsup hset

/-- What holds of a graph, holds when the references to a definition are removed, and is kept each
time one is inlined, holds when they are settled. What holds may depend on the references that are
still to be inlined. -/
theorem keeps_of_settleReferences (hs : Sound g) (hsup : Supplied g s) {name : String}
    {defId : NodeId} {policy : RemovalPolicy} (hfind : g.definitions.find? name = some defId)
    {P : List NodeId → Graph → Prop} (hstart : ∀ refs, P refs g)
    (hremoved : P [] ((g.referencesTo name).foldl (fun h ref => h.removeSubtree g ref) g))
    (hstep : ∀ {h : Graph} {s : IdSupply} {ref : NodeId} {refs : List NodeId}
      {r : Graph × IdSupply}, ref ∉ refs → Inlining g (g.subtreeIds defId) (ref :: refs) h →
      Supplied h s → P (ref :: refs) h →
      (h.inlineReference g ref (g.childIds defId).head?).run s = .ok r → P refs r.1)
    {r : (Graph × List String) × IdSupply}
    (h : (g.settleReferences name defId policy).run s = .ok r) : P [] r.1.1 := by
  rcases settleReferences_ok h with ⟨_, hset, _⟩ | ⟨_, hset, _⟩ | ⟨_, hset⟩
  · rw [hset]
    exact hstart []
  · rw [hset]
    exact hremoved
  · exact (Inlining.keeps hs (hs.own_present hfind) hs.content_owned hstep _
      ((nodup_referencesTo g name).filter _)
      (fun ref href => by simpa using (List.mem_filter.1 href).2) (hstart _) (hs.inlining hfind)
      hsup hsup hset).1

theorem removeDefinition (hs : Sound g) (hsup : Supplied g s) {name : String}
    {policy : RemovalPolicy} {r : (Graph × List String) × IdSupply}
    (h : (g.removeDefinition name policy).run s = .ok r) :
    Sound r.1.1 ∧ Supplied r.1.1 r.2 := by
  obtain ⟨defId, settled, warnings, hfind, hsettle, hr⟩ := removeDefinition_ok h
  obtain ⟨hi, hsup'⟩ := hs.settleReferences hsup hfind hsettle
  rw [hr]
  refine ⟨(hi.sound.dropOwn hs hfind hi.definitions hi.rootId hi.kinds hi.closed).next,
    hsup'.mono fun x hx => ?_⟩
  rw [kind?_next, kind?_undefine, kind?_dropAll] at hx
  split_ifs at hx
  · simp at hx
  · exact hx

theorem remove (hs : Sound g) (hsup : Supplied g s) {id : NodeId} {policy : RemovalPolicy}
    {r : Graph × IdSupply} (h : (g.remove id policy).run s = .ok r) :
    Sound r.1 ∧ Supplied r.1 r.2 := by
  obtain ⟨n, hroot, hn, ⟨hk, hr⟩ | ⟨name, warnings, _, hdef⟩⟩ := remove_ok h
  · rw [hr]
    refine ⟨(hs.removeSubtree hs (Within.refl g) hroot ?_).next, hsup.mono fun x hx => ?_⟩
    · rw [g.kind?_of_node? hn]
      exact fun h => hk (Option.some.inj h)
    · obtain ⟨k, hx⟩ := Option.isSome_iff_exists.1 hx
      rw [((Within.refl g).removeSubtree id).kinds hx]
      rfl
  · exact hs.removeDefinition hsup hdef

/-! ## Groups and their clauses -/

theorem ensureBranch (hs : Sound g) {groupId key : NodeId} {target : Option NodeId}
    {kind : EdgeKind} {skip : Option Nat}
    (h : g.ensureBranch groupId key target kind skip = .ok g') :
    Sound g' ∧ ∀ x, g'.kind? x = g.kind? x := by
  rcases ensureBranch_ok h with ⟨_, rfl⟩ | ⟨id, _, ⟨_, _, _, _, rfl⟩ | ⟨_, hmove⟩⟩
  · exact ⟨hs, fun _ => rfl⟩
  · exact ⟨hs, fun _ => rfl⟩
  · exact hs.move hmove

/-- The group is of its kind after its branches were made sure of. -/
theorem kind_of_ensured (hs : Sound g) {id key : NodeId} {onTrue onFalse : Option NodeId}
    {skip : Option Nat} {g₁ g₂ : Graph} {n m : Node NodeId}
    (h₁ : g.ensureBranch id key onTrue .thenBranch skip = .ok g₁)
    (h₂ : g₁.ensureBranch id key onFalse .elseBranch skip = .ok g₂) (hn : g.node? id = some n)
    (hm : g₂.node? id = some m) : m.kind = n.kind := by
  obtain ⟨hs₁, hk₁⟩ := hs.ensureBranch h₁
  have hk₂ := (hs₁.ensureBranch h₂).2 id
  rw [hk₁, kind?_of_node? _ hm, kind?_of_node? _ hn] at hk₂
  exact Option.some.inj hk₂

/-- Writing clauses after their branches were made sure of. -/
theorem written (hs : Sound g) {id : NodeId} (h : g.ClausesWritten id g') :
    Sound g' ∧ ∀ x, g'.kind? x = g.kind? x := by
  obtain ⟨h₁, h₂, hm, cs⟩ := h
  obtain ⟨hs₁, hk₁⟩ := hs.ensureBranch h₁
  obtain ⟨hs₂, hk₂⟩ := hs₁.ensureBranch h₂
  obtain ⟨hs₃, hk₃⟩ := hs₂.setClauses hm cs
  exact ⟨hs₃, fun x => by rw [hk₃, hk₂, hk₁]⟩

theorem removable_of_branch (hs : Sound g) {id : NodeId} {cs : List (Clause NodeId)} :
    ∀ t ∈ (g.unusedBranches id cs).map Edge.target,
      t ≠ g.rootId ∧ g.kind? t ≠ some .definition := by
  intro t ht
  obtain ⟨e, he, rfl⟩ := List.mem_map.1 ht
  have ho := hs.owned (List.mem_filter.1 he).1
  refine ⟨fun hbad => ?_, fun hbad => ?_⟩
  · rw [hbad, hs.root_top] at ho
    simp at ho
  · obtain ⟨m, hm, hmk⟩ := g.kind?_eq_some_iff.1 hbad
    rw [hs.definition_top hm hmk] at ho
    simp at ho

theorem pruneBranches (hs : Sound g) {id : NodeId} (h : g.pruneBranches id = .ok g') :
    Sound g' ∧ ∀ x, (g'.kind? x).isSome → (g.kind? x).isSome := by
  obtain ⟨n, _, _, rfl | rfl⟩ := pruneBranches_ok h
  · exact ⟨hs, fun _ hx => hx⟩
  · rw [← List.foldl_map (f := Edge.target) (g := fun h id => Graph.removeSubtree h g id)]
    obtain ⟨hsound, hwithin⟩ := removeAll hs _ hs.removable_of_branch hs (Within.refl g)
    refine ⟨hsound.next, fun x hx => ?_⟩
    obtain ⟨k, hk⟩ := Option.isSome_iff_exists.1 hx
    rw [hwithin.kinds hk]
    rfl

theorem removeClause (hs : Sound g) {id : NodeId} {index : Int} {prune : Bool}
    (h : g.removeClause id index prune = .ok g') :
    Sound g' ∧ ∀ x, (g'.kind? x).isSome → (g.kind? x).isSome := by
  obtain ⟨n, g₁, hn, _, rfl, hprune⟩ := removeClause_ok h
  obtain ⟨hs₁, hk₁⟩ := hs.setClauses hn (n.clauses.eraseIdx index.toNat)
  rcases hprune with rfl | hprune
  · exact ⟨hs₁, fun x hx => by rwa [hk₁] at hx⟩
  · obtain ⟨hs₂, hk₂⟩ := hs₁.pruneBranches hprune
    exact ⟨hs₂, fun x hx => by rw [← hk₁]; exact hk₂ x hx⟩

/-! ## All changes -/

/-- A change that succeeds keeps the graph sound, and makes nodes only under names that it took. -/
theorem applied (hs : Sound g) (hsup : Supplied g s) {c : Change} {t : IdSupply}
    (h : Applied g s c g' t) : Sound g' ∧ Supplied g' t := by
  have hkept : ∀ {g' : Graph}, (Sound g' ∧ ∀ x, (g'.kind? x).isSome → (g.kind? x).isSome) →
      Sound g' ∧ Supplied g' s :=
    fun ⟨hsound, hnodes⟩ => ⟨hsound, hsup.mono hnodes⟩
  have hsame : ∀ {g' : Graph}, (Sound g' ∧ ∀ x, g'.kind? x = g.kind? x) →
      Sound g' ∧ Supplied g' s :=
    fun ⟨hsound, hk⟩ => hkept ⟨hsound, fun x hx => by rwa [hk] at hx⟩
  cases h with
  | add h => exact hs.add hsup h
  | update h => exact hsame (hs.update h)
  | remove h => exact hs.remove hsup h
  | move h => exact hsame (hs.move h)
  | reorder h => exact hsame (hs.reorder h)
  | createGroup _ h => exact hs.add hsup h
  | appendClause _ h => exact hsame (hs.written (clausesWritten_of_appendClause h))
  | updateClause h => exact hsame (hs.written (clausesWritten_of_updateClause h))
  | removeClause h => exact hkept (hs.removeClause h)
  | synchronize h =>
    rcases clausesWritten_of_synchronizeBranches h with rfl | hwritten
    · exact ⟨hs, hsup⟩
    · exact hsame (hs.written hwritten)
  | prune h => exact hkept (hs.pruneBranches h)
  | createDefinition h => exact hs.createDefinition hsup h
  | promote h => exact hs.promote hsup h
  | renameDefinition h => exact hsame (hs.renameDefinition h)
  | removeDefinition h => exact hs.removeDefinition hsup h

theorem apply (hs : Sound g) (hsup : Supplied g s) {c : Change} {effect : Effect} {t : IdSupply}
    (h : (g.apply c).run s = .ok (effect, t)) : Sound effect.graph ∧ Supplied effect.graph t :=
  hs.applied hsup (applied_of_apply h)

end SoundBut

end Graph

end FormGraph

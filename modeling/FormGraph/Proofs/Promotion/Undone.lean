import FormGraph.Proofs.Homogeneous.Edit
import FormGraph.Proofs.Inlining
import FormGraph.Proofs.Promotion.Document

/-!
# Taking a promotion back

A definition to which one reference points, the one that a promotion has left, can be inlined again,
and the graph is then as it was before, with other names for the nodes below the promoted one
(`Promotion.renamed_of_inlined`). So it has the same signature, widgets included
(`signature_removeDefinition_promote`).
-/

namespace FormGraph

/-- Names that are given one after the other are given at once. -/
theorem Node.renamed_renamed (n : Node NodeId) (f h : NodeId → NodeId) :
    (n.renamed f).renamed h = n.renamed fun t => h (f t) := by
  obtain ⟨_, body, _, _, _, _, _, _, _⟩ := n
  have hclause : (Clause.bindTargets fun t => some (h t)) ∘ (Clause.bindTargets fun t => some (f t)) =
      (Clause.bindTargets fun t => some (h (f t)) : Clause NodeId → Clause NodeId) := by
    funext c
    exact Clause.bindTargets_bindTargets _ _ c
  cases body with
  | group k cs =>
    simp only [renamed, mapClauses, Body.mapClauses, List.map_map, hclause]
  | string | number | boolean | enum | object | array | definition | reference => rfl

/-- A row that was added can be taken out again. -/
theorem Table.erase_put {α : Type} {t : Table α} {name : String} (h : t.find? name = none) (v : α) :
    (t.put name v).erase name = t := by
  have hnot : name ∉ Entries.names t.entries := Entries.find?_eq_none_iff.1 h
  refine Table.ext ?_
  show Entries.erase (Entries.put t.entries name v) name = t.entries
  rw [Entries.put_of_not_mem hnot, Entries.erase, List.filter_append,
    List.filter_cons_of_neg (by simp), List.filter_nil, List.append_nil, List.filter_eq_self]
  intro e he
  refine decide_eq_true ?_
  rintro rfl
  exact hnot (List.mem_map_of_mem he)

namespace Graph

variable {g g' : Graph} {defId refId id : NodeId} {name : String} {n : Node NodeId} {e : Edge}
  {s : IdSupply}

/-! ## What is where after a promotion -/

theorem swapped_self (old new : NodeId) : swapped old new old = new := if_pos rfl

theorem swapped_of_ne {old new x : NodeId} (h : x ≠ old) : swapped old new x = x := if_neg h

/-- Nodes own each other after a promotion as they did before, but for the promoted node. -/
theorem Promoted.owningEdge (h : Promoted g g' defId refId id name n e)
    (hpromote : g.promoteAs defId refId id name = .ok g') (x : NodeId) :
    g'.owningEdge x = if refId = x then some ⟨e.source, refId, e.kind⟩
      else if id = x then some ⟨defId, id, .child⟩ else g.owningEdge x := by
  obtain ⟨i⟩ := promoteAs_ok hpromote
  obtain rfl : i.edge = e := Option.some.inj (i.owner.symm.trans h.owner)
  exact i.owningEdge x

/-- What hangs below something that is not below a node is not below it either, but for the node. -/
theorem not_below_of_owner {top x : NodeId} {f : Edge} (ho : g.owningEdge x = some f)
    (hup : ¬ Below g top f.source) (hne : x ≠ top) : ¬ Below g top x := by
  intro hb
  rcases below_iff.1 hb with heq | ⟨f', hf', hb⟩
  · exact hne heq
  · rw [ho] at hf'
    exact hup (Option.some.inj hf' ▸ hb)

/-- What hangs nowhere is below itself only. -/
theorem not_below_of_ownerless {top x : NodeId} (ho : g.owningEdge x = none) (hne : x ≠ top) :
    ¬ Below g top x := by
  intro hb
  rcases below_iff.1 hb with heq | ⟨f, hf, -⟩
  · exact hne heq
  · simp [ho] at hf

theorem Forest.ne_of_owner_below (hf : Forest g) {x : NodeId} {f : Edge}
    (ho : g.owningEdge x = some f) (hb : Below g id f.source) : x ≠ id := by
  rintro rfl
  exact hf.not_below_owner ho hb

/-- The names of nodes after those below `top` were copied. -/
def namedBelow (g : Graph) (top : NodeId) (copy : NodeId → NodeId) (x : NodeId) : NodeId :=
  if x ∈ g.subtreeIds top then copy x else x

theorem namedBelow_of_below (hf : Forest g) {top x : NodeId} {copy : NodeId → NodeId}
    (hx : Below g top x) : namedBelow g top copy x = copy x :=
  if_pos (hf.mem_subtreeIds_iff.2 hx)

theorem namedBelow_of_not_below (hf : Forest g) {top x : NodeId} {copy : NodeId → NodeId}
    (hx : ¬ Below g top x) : namedBelow g top copy x = x :=
  if_neg (mt hf.mem_subtreeIds_iff.1 hx)

/-- The reference left by a promotion gives a copy of the content the key, the required mark and the
title that the content had. -/
theorem standIn_reference (hg : n.kind.isGroup = false) (name : String) (f h : NodeId → NodeId)
    (r : Bool) :
    standIn (Node.renamed h
      { n.mapClauses (Clause.bindTargets fun t => some (f t)) with required := r })
      (referenceFor n name) = n := by
  obtain ⟨key, body, title, description, required, default, widget, options, extras⟩ := n
  cases body with
  | group k cs => simp [Node.kind, Body.kind, NodeKind.isGroup] at hg
  | string | number | boolean | enum | object | array | definition | reference =>
    exact congrArg (fun t => Node.mk key _ t description required default widget options extras)
      (ite_self title)

namespace Promotion

/-- What was below the promoted node still is. -/
theorem below (h : Promotion g g' defId refId id name n e)
    (hpromote : g.promoteAs defId refId id name = .ok g') {x : NodeId} (hx : Below g id x) :
    Below g' id x := by
  induction hx with
  | refl => exact .refl
  | @step y f hy _ ih =>
    by_cases hid : id = y
    · exact hid ▸ .refl
    · refine .step ?_ ih
      rw [h.toPromoted.owningEdge hpromote, if_neg (Ne.symm (h.ne_reference (h.sound.present hy).1)),
        if_neg hid, hy]

/-- Below the definition there is what was below the promoted node. -/
theorem below_of_definition (h : Promotion g g' defId refId id name n e)
    (hpromote : g.promoteAs defId refId id name = .ok g') {x : NodeId} (hx : Below g' defId x) :
    x = defId ∨ Below g id x := by
  have hfree : ∀ {y}, (g.node? y).isSome → y ≠ defId := by
    rintro y hy rfl
    rw [h.definition_free] at hy
    simp at hy
  induction hx with
  | refl => exact Or.inl rfl
  | @step y f hy _ ih =>
    rw [h.toPromoted.owningEdge hpromote] at hy
    split_ifs at hy with href hid
    · obtain rfl := Option.some.inj hy
      have hup : Below g id e.source := ih.resolve_left (hfree (h.sound.present h.owner).2)
      exact absurd hup (h.sound.toForest.not_below_owner h.owner)
    · exact Or.inr (hid ▸ .refl)
    · exact Or.inr (.step hy (ih.resolve_left (hfree (h.sound.present hy).2)))

/-- The reference that was left is the only one that points at the definition. -/
theorem outerReferences_eq (h : Promotion g g' defId refId id name n e)
    (hpromote : g.promoteAs defId refId id name = .ok g') (hnone : g.referencesTo name = []) :
    g'.outerReferences name = [refId] := by
  have hfind : g'.definitions.find? name = some defId := by
    rw [h.definitions, Table.find?_put_self]
  have hmem : ∀ x, x ∈ g'.outerReferences name ↔ x ∈ [refId] := by
    intro x
    rw [mem_outerReferences_iff hfind, h.sound'.toForest.mem_subtreeIds_iff, List.mem_singleton]
    constructor
    · rintro ⟨htarget, -⟩
      obtain ⟨m, hm, hmt⟩ := targetAt_eq_some_iff.1 htarget
      obtain ⟨i⟩ := promoteAs_ok hpromote
      rcases i.present (by rw [hm]; rfl) with hx | hdef | href
      · obtain ⟨m₀, hm₀⟩ := Option.isSome_iff_exists.1 hx
        have hkept := h.kept' hm₀ hm
        have hback : m₀.target? = some (.str name) := by
          rw [← hmt, hkept]
          exact (Node.target?_mapClauses m₀ _).symm
        have hold := mem_referencesTo_iff.2 ((targetAt_of_node? hm₀).trans hback)
        rw [hnone] at hold
        simp at hold
      · rw [hdef] at hm
        obtain ⟨d, hd, hdname⟩ := h.sound'.defined.1 hfind
        obtain rfl : m = d := Option.some.inj (hm.symm.trans hd)
        have hkind := Node.kind_eq_of_definitionName? hdname
        rw [Node.kind_of_target? hmt] at hkind
        simp at hkind
      · exact href
    · rintro rfl
      refine ⟨targetAt_eq_some_iff.2 ⟨_, h.reference, rfl⟩, fun hb => ?_⟩
      rcases h.below_of_definition hpromote hb with heq | hb
      · have href := h.reference
        obtain ⟨d, hd, hdname⟩ := h.sound'.defined.1 hfind
        rw [heq, hd] at href
        have hkind := Node.kind_eq_of_definitionName? hdname
        rw [Option.some.inj href] at hkind
        simp [referenceFor, Node.kind, Body.kind] at hkind
      · rcases below_iff.1 hb with heq | ⟨f, hf, -⟩
        · exact h.ne_reference (by rw [h.node]; rfl) heq.symm
        · exact h.ne_reference (h.sound.present hf).1 rfl
  have hnodup : (g'.outerReferences name).Nodup := (nodup_referencesTo g' name).filter _
  exact List.perm_singleton.1
    ((List.perm_ext_iff_of_nodup hnodup (List.nodup_singleton refId)).2 hmem)

/-! ## What is where after the definition was inlined again -/

section Inlined

variable (h : Promotion g g' defId refId id name n e)
  (hpromote : g.promoteAs defId refId id name = .ok g') {settled : Graph} {copy : NodeId → NodeId}
  (hsub : Substituted g' settled refId id copy) {x : NodeId}

include h

/-- Outside, the promoted node became the reference, and the reference became the copy. -/
theorem swapped_swapped {t : NodeId} {f : Edge} (ht : (g.node? t).isSome)
    (ho : g.owningEdge t = some f) (hup : ¬ Below g id f.source) :
    swapped refId (copy id) (swapped id refId t) = namedBelow g id copy t := by
  by_cases htid : t = id
  · rw [htid, swapped_self, swapped_self, namedBelow_of_below h.sound.toForest .refl]
  · rw [swapped_of_ne htid, swapped_of_ne (h.ne_reference ht),
      namedBelow_of_not_below h.sound.toForest (not_below_of_owner ho hup htid)]

include hpromote

/-- What stood outside of the promoted node does not go with the definition. -/
theorem not_mem_definition_of_outside (hx : (g.node? x).isSome) (hb : ¬ Below g id x) :
    x ∉ g'.subtreeIds defId := by
  intro hown
  rcases h.below_of_definition hpromote (h.sound'.toForest.mem_subtreeIds_iff.1 hown) with rfl | hup
  · simp [h.definition_free] at hx
  · exact hb hup

include hsub

/-- Neither does a copy. -/
theorem copy_not_mem_definition (hx : Below g id x) : copy x ∉ g'.subtreeIds defId := by
  intro hown
  have hfind : g'.definitions.find? name = some defId := by
    rw [h.definitions, Table.find?_put_self]
  have hthere := h.sound'.own_present hfind _ hown
  simp [hsub.fresh (h.below hpromote hx)] at hthere

/-- Below the promoted node, what a node says is said by its copy. -/
theorem node?_copy {m : Node NodeId} (hb : Below g id x) (hm : g.node? x = some m) :
    settled.node? (copy x) = some (m.renamed (namedBelow g id copy)) := by
  have hkept := h.kept x m hm
  by_cases hx : x = id
  · subst hx
    obtain rfl : m = n := Option.some.inj (hm.symm.trans h.node)
    have hplain : ∀ f : NodeId → NodeId, m.renamed f = m := fun f =>
      Node.mapClauses_eq_self fun c hc => by
        rw [Node.clauses_eq_nil h.not_group] at hc
        exact absurd hc List.not_mem_nil
    rw [hsub.top hkept h.reference, standIn_reference h.not_group, hplain]
  · rw [hsub.copied (h.below hpromote hb) hx hkept, if_neg hx]
    refine congrArg some ((Node.renamed_renamed m _ _).trans (Node.bindTargets_congr ?_))
    intro c hc k t ht
    obtain ⟨_, _, _, ho⟩ := h.attached ⟨c, clausesAt_of_node? hm ▸ hc, ht⟩
    refine congrArg some ?_
    show copy (swapped id refId t) = _
    rw [swapped_of_ne (h.sound.toForest.ne_of_owner_below ho hb),
      namedBelow_of_below h.sound.toForest (.step ho hb)]

/-- Below the promoted node, the children of a copy are copies. -/
theorem childIds_copy (hb : Below g id x) (hx : (g.node? x).isSome) :
    settled.childIds (copy x) = (g.childIds x).map (namedBelow g id copy) := by
  rw [hsub.copiedIds (h.below hpromote hb), h.childIds x hx, List.map_map]
  refine List.map_congr_left fun c hc => ?_
  obtain ⟨f, hf, rfl, -⟩ := mem_edgesFrom_of_mem_childIds hc
  have ho := h.sound.owned hf
  have hup : Below g id f.source := h.sound.source_eq hf ▸ hb
  rw [Function.comp_apply, swapped_of_ne (h.sound.toForest.ne_of_owner_below ho hup),
    namedBelow_of_below h.sound.toForest (.step ho hup)]

omit hpromote

/-- Outside, a node says what it said. -/
theorem node?_outside {m : Node NodeId} (hb : ¬ Below g id x) (hm : g.node? x = some m) :
    settled.node? x = some (m.renamed (namedBelow g id copy)) := by
  have hne : x ≠ id := fun heq => hb (heq ▸ .refl)
  rw [hsub.kept (h.kept x m hm) (h.ne_reference (by rw [hm]; rfl)), if_neg hne]
  refine congrArg some ((Node.renamed_renamed m _ _).trans (Node.bindTargets_congr ?_))
  intro c hc k t ht
  have hp : g.Points x t k := ⟨c, clausesAt_of_node? hm ▸ hc, ht⟩
  obtain ⟨_, _, _, ho⟩ := h.attached hp
  exact congrArg some (h.swapped_swapped
    (h.attached.target_present h.sound.toForest hp) ho hb)

/-- Outside, the children of a node are those that it had. -/
theorem childIds_outside (hb : ¬ Below g id x) (hx : (g.node? x).isSome) :
    settled.childIds x = (g.childIds x).map (namedBelow g id copy) := by
  have hx' : (g'.node? x).isSome := by
    obtain ⟨m, hm⟩ := Option.isSome_iff_exists.1 hx
    rw [h.kept x m hm]
    rfl
  rw [hsub.childIds hx' (h.ne_reference hx), h.childIds x hx, List.map_map]
  refine List.map_congr_left fun c hc => ?_
  obtain ⟨f, hf, rfl, -⟩ := mem_edgesFrom_of_mem_childIds hc
  exact h.swapped_swapped (h.sound.toForest.target_present hf) (h.sound.owned hf)
    (h.sound.source_eq hf ▸ hb)

include hpromote

/-- When the definition is inlined again, every node is there as it was before, under a new name if it
was below the promoted one. -/
theorem renamed_of_inlined : Renamed (namedBelow g id copy) g
    ((settled.dropAll (g'.subtreeIds defId)).undefine name).next := by
  have hf := h.sound.toForest
  have hnode : ∀ {y}, y ∉ g'.subtreeIds defId →
      ((settled.dropAll (g'.subtreeIds defId)).undefine name).next.node? y = settled.node? y := by
    intro y hy
    rw [node?_next, node?_undefine, node?_dropAll, if_neg hy]
  have hchildIds : ∀ {y}, y ∉ g'.subtreeIds defId →
      ((settled.dropAll (g'.subtreeIds defId)).undefine name).next.childIds y =
        settled.childIds y := by
    intro y hy
    exact childIds_congr (by rw [edgesFrom_next, edgesFrom_undefine, edgesFrom_dropAll, if_neg hy])
  have htop : ∀ {y}, g.owningEdge y = none → namedBelow g id copy y = y := by
    refine fun ho => namedBelow_of_not_below hf (not_below_of_ownerless ho ?_)
    rintro rfl
    simp [h.owner] at ho
  refine
    { node := fun {x m} hm => ?_
      childIds := fun {x} hx => ?_
      definitions := ?_
      rootId := ?_ }
  · by_cases hb : Below g id x
    · rw [namedBelow_of_below hf hb, hnode (h.copy_not_mem_definition hpromote hsub hb),
        h.node?_copy hpromote hsub hb hm]
    · rw [namedBelow_of_not_below hf hb,
        hnode (h.not_mem_definition_of_outside hpromote (by rw [hm]; rfl) hb),
        h.node?_outside hsub hb hm]
  · by_cases hb : Below g id x
    · rw [namedBelow_of_below hf hb, hchildIds (h.copy_not_mem_definition hpromote hsub hb),
        h.childIds_copy hpromote hsub hb hx]
    · rw [namedBelow_of_not_below hf hb,
        hchildIds (h.not_mem_definition_of_outside hpromote hx hb), h.childIds_outside hsub hb hx]
  · have htable : ((settled.dropAll (g'.subtreeIds defId)).undefine name).next.definitions =
        g.definitions := by
      rw [definitions_next, undefine, definitions_dropAll, hsub.definitions, h.definitions,
        Table.erase_put h.name_free]
    rw [htable, Entries.mapValues]
    refine ((List.map_congr_left fun d hd => ?_).trans (List.map_id' _)).symm
    obtain ⟨m, hm, hmname⟩ := h.sound.defined.1 (Table.mem_entries_iff.1 hd)
    rw [htop (h.sound.definition_top hm (Node.kind_eq_of_definitionName? hmname))]
  · rw [rootId_next, rootId_undefine, rootId_dropAll, hsub.rootId, h.rootId, htop h.sound.root_top]

end Inlined

/-- What inlining the definition does is to inline the one reference. -/
theorem substituted (h : Promotion g g' defId refId id name n e)
    (hpromote : g.promoteAs defId refId id name = .ok g') (hnone : g.referencesTo name = [])
    (hsup : Supplied g' s) {r : (Graph × List String) × IdSupply}
    (hremove : (g'.removeDefinition name .inlined).run s = .ok r) :
    ∃ settled copy, Substituted g' settled refId id copy ∧
      r.1.1 = ((settled.dropAll (g'.subtreeIds defId)).undefine name).next := by
  obtain ⟨defId', settled, warnings, hfind, hsettle, hr⟩ := removeDefinition_ok hremove
  obtain rfl : defId' = defId := by
    rw [h.definitions, Table.find?_put_self] at hfind
    exact (Option.some.inj hfind).symm
  have hchosen : (g'.referencesTo name).filter (fun ref => !(g'.subtreeIds defId').contains ref) =
      [refId] := by
    rw [← h.outerReferences_eq hpromote hnone, outerReferences, hfind]
    rfl
  have hkind : g'.kind? refId = some .reference := g'.kind?_of_node? h.reference
  rcases settleReferences_ok hsettle with ⟨hwhy, -⟩ | ⟨hpolicy, -⟩ | ⟨-, hset⟩
  · rw [hwhy.resolve_left (by simp), List.filter_nil] at hchosen
    simp at hchosen
  · simp at hpolicy
  · rw [hchosen, h.content, List.foldlM_cons, Edit.bind_eq_ok_iff] at hset
    obtain ⟨inlined, t, hinline, hlast⟩ := hset
    obtain ⟨copy, hcopy⟩ := substituted_of_inlineReference h.sound' h.attached' hsup hkind hinline
    rw [List.foldlM_nil, Edit.pure_eq_ok_iff] at hlast
    obtain ⟨rfl, -⟩ := Prod.mk.inj hlast
    exact ⟨settled, copy, hcopy, hr⟩

end Promotion

end Graph

end FormGraph

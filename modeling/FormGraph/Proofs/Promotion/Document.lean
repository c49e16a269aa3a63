import FormGraph.Proofs.Promotion.Place
import FormGraph.Proofs.Promotion.Table
import FormGraph.Proofs.Writing.Noting

/-!
# Promotion and the document

Turning a node into a definition does not change what the document says: put what the definition is
written as in the place of the reference, drop the definition, and the document is the one from
before (`compile_promote`).

The comparison goes through the two writers side by side. Below the promoted node they write the same
since the reference is not there; everywhere else they write the same as soon as they do in the place
of the reference. There a field that was a branch stood under its property name, while the reference
stands bare, so it is the field under its name that has to be put back.
-/

namespace FormGraph

namespace Graph

open Compile Compiling

/-- What stands in the place of a node that became a definition, given what the definition is written
as: that itself, but under its property name where the node is a field that was a branch. -/
def restored (g : Graph) (id : NodeId) (fragment : Value) : Value :=
  match g.node? id, g.owningEdge id with
  | some n, some e => if e.kind.isBranch then Outline.wrapped n fragment else fragment
  | _, _ => fragment

variable {g g' : Graph} {cfg : DocumentConfig} {defId refId id : NodeId} {name : String}
  {n : Node NodeId} {e : Edge}

/-- The facts about the two graphs that the comparison needs. -/
structure Promotion (g g' : Graph) (defId refId id : NodeId) (name : String) (n : Node NodeId)
    (e : Edge) : Prop extends Promoted g g' defId refId id name n e where
  /-- The graph before is sound. -/
  sound : Sound g
  /-- Its clauses name what hangs below them. -/
  attached : Attached (fun _ _ => True) g
  /-- The graph after is sound. -/
  sound' : Sound g'
  /-- Its clauses name what hangs below them. -/
  attached' : Attached (fun _ _ => True) g'

namespace Promotion

theorem ne_reference (h : Promotion g g' defId refId id name n e) {x : NodeId}
    (hx : (g.node? x).isSome) : x ≠ refId := by
  rintro rfl
  rw [h.reference_free] at hx
  simp at hx

/-- Of a node that stays, only whether it is required can change, and that only of the promoted
node. -/
theorem kept' (h : Promotion g g' defId refId id name n e) {x : NodeId} {m m' : Node NodeId}
    (hm : g.node? x = some m) (hm' : g'.node? x = some m') :
    m' = { m.mapClauses (Clause.bindTargets fun t => some (swapped id refId t)) with
      required := if x = id then false else m.required } :=
  Option.some.inj (hm'.symm.trans (h.kept x m hm))

/-- Nodes that stay look from above as they did. -/
theorem kept_alike (h : Promotion g g' defId refId id name n e) {x : NodeId} {m : Node NodeId}
    (hx : x ≠ id) (hm : g.node? x = some m) : ∃ m', g'.node? x = some m' ∧ m'.key = m.key ∧
      m'.required = m.required ∧ m'.kind = m.kind :=
  ⟨_, h.kept x m hm, rfl, if_neg hx, Node.kind_mapClauses _ m⟩

/-- What the writer with replacements writes in the place of the reference. -/
theorem replaced_reference {replace : NodeId → Value → Value} {v : Value}
    (hreplace : ∀ w, replace refId w = v) (d : Nat) :
    (nodeReplacing g' cfg replace (d + 1) refId (referenceFor n name)).run.value = .ok v := by
  obtain ⟨w, hw⟩ : ∃ w, (fragment g' cfg (nodeReplacing g' cfg replace d) refId
      (referenceFor n name)).run.value = .ok w := ⟨_, rfl⟩
  rw [nodeReplacing, ← bind_pure_comp, value_bind_eq_ok_iff]
  exact ⟨w, hw, congrArg Except.ok (hreplace w)⟩

/-- The two graphs are written alike at the nodes of a part of the graph that is closed downwards, if
they are where the reference stands. -/
theorem matches_node (h : Promotion g g' defId refId id name n e) (part : NodeId → Prop)
    (hclosed : ∀ {x y f}, part x → g.owningEdge y = some f → f.source = x → part y)
    {replace : NodeId → Value → Value} (hkeep : ∀ x v, x ≠ refId → replace x v = v)
    (hplace : part e.source → ∃ v, (∀ w, replace refId w = if e.kind.isBranch then
      Outline.wrapped n v else v) ∧ (node g cfg (depth g) id n).run.value = .ok v) (d : Nat) :
    ∀ {x : NodeId} {m m' : Node NodeId}, part x → g.node? x = some m → g'.node? x = some m' →
      (g.subtreeIds x).length ≤ d →
      (node g cfg d x m).Matches True (nodeReplacing g' cfg replace d x m') := by
  have hf := h.sound.toForest
  induction d with
  | zero => exact fun _ _ _ hd => absurd hd (Nat.not_le.2 (subtree_pos hf _))
  | succ d ih =>
    intro x m m' hx hm hm' hd
    have hid : (g.node? id).isSome := by rw [h.node]; rfl
    -- in the place of the promoted node stands the reference, with the fragment put back
    have hpromoted : e.source = x → ∃ v, (node g cfg d id n).run.value = .ok v ∧
        (nodeReplacing g' cfg replace d refId (referenceFor n name)).run.value =
          .ok (if e.kind.isBranch then Outline.wrapped n v else v) := by
      rintro rfl
      obtain ⟨v, hreplace, hv⟩ := hplace hx
      have hlt := subtree_lt hf h.owner rfl
      have hdepth : (node g cfg (depth g) id n).Matches True (node g cfg d id n) :=
        Compile.matches_node hf h.attached _ _ h.node (subtree_le_depth hf hid) (by omega)
      obtain ⟨d, rfl⟩ : ∃ c, d = c + 1 := ⟨d - 1, by have := subtree_pos hf id; omega⟩
      exact ⟨v, hdepth.value_eq ▸ hv, replaced_reference hreplace d⟩
    rw [node, nodeReplacing, show replace x = fun v => v from
      funext fun v => hkeep x v (h.ne_reference (by rw [hm]; rfl)), id_map']
    refine Parallel.fragment (f := swapped id refId)
      { childIds := h.childIds x (by rw [hm]; rfl)
        present := fun _ he => hf.target_present he
        present' := fun _ he => h.sound'.toForest.target_present he
        child := ?_
        branch := ?_ } (h.kept' hm hm')
    · intro c hc mc hmc
      obtain ⟨f, hfrom, htarget, hkind⟩ := mem_edgesFrom_of_mem_childIds hc
      have ho := hf.owned hfrom
      rw [htarget] at ho
      by_cases hcid : c = id
      · subst hcid
        obtain rfl : e = f := Option.some.inj (h.owner.symm.trans ho)
        obtain rfl : n = mc := Option.some.inj (h.node.symm.trans hmc)
        obtain ⟨v, hv, hv'⟩ := hpromoted (hf.source_eq hfrom)
        rw [hkind] at hv'
        refine ⟨referenceFor n name, ?_, rfl, rfl, ?_, .of_eq ?_⟩
        · rw [swapped, if_pos rfl]
          exact h.reference
        · rw [h.not_group]
          rfl
        · rw [swapped, if_pos rfl, hv, hv']
          rfl
      · obtain ⟨mc', hmc', hkey, hrequired, hkind'⟩ := h.kept_alike hcid hmc
        have hlt := subtree_lt hf ho (hf.source_eq hfrom)
        rw [swapped, if_neg hcid]
        exact ⟨mc', hmc', hkey, hrequired, congrArg NodeKind.isGroup hkind',
          ih (hclosed hx ho (hf.source_eq hfrom)) hmc hmc' (by omega)⟩
    · intro c hc k t ht
      obtain ⟨k', _, hbranch, ho⟩ := h.attached ⟨c, clausesAt_of_node? hm ▸ hc, ht⟩
      by_cases htid : t = id
      · subst htid
        obtain rfl : e = ⟨x, t, k'⟩ := Option.some.inj (h.owner.symm.trans ho)
        obtain ⟨v, hv, hv'⟩ := hpromoted rfl
        rw [swapped, if_pos rfl, branch_eq h.node, branch_eq h.reference]
        refine .of_eq ?_
        rw [value_map, value_map, hv, hv', if_pos hbranch]
        rfl
      · obtain ⟨mt, hmt⟩ := Option.isSome_iff_exists.1 (hf.present ho).1
        obtain ⟨mt', hmt', hkey, hrequired, hkind⟩ := h.kept_alike htid hmt
        have hlt : (g.subtreeIds t).length < (g.subtreeIds x).length := subtree_lt hf ho rfl
        have hwrapped : (Outline.wrapped mt' : Value → Value) = Outline.wrapped mt := by
          funext v
          unfold Outline.wrapped
          rw [hkey, hrequired, Node.isAddressable, Node.isAddressable, hkind]
        rw [swapped, if_neg htid, branch_eq hmt, branch_eq hmt', hwrapped]
        exact (ih (hclosed hx ho rfl) hmt hmt' (by omega)).map _

/-- The same with the depths that the writers of whole documents use. -/
theorem value_node (h : Promotion g g' defId refId id name n e) (part : NodeId → Prop)
    (hclosed : ∀ {x y f}, part x → g.owningEdge y = some f → f.source = x → part y)
    {replace : NodeId → Value → Value} (hkeep : ∀ x v, x ≠ refId → replace x v = v)
    (hplace : part e.source → ∃ v, (∀ w, replace refId w = if e.kind.isBranch then
      Outline.wrapped n v else v) ∧ (node g cfg (depth g) id n).run.value = .ok v)
    {x : NodeId} {m m' : Node NodeId} (hx : part x) (hm : g.node? x = some m)
    (hm' : g'.node? x = some m') :
    (node g cfg (depth g) x m).run.value =
      (nodeReplacing g' cfg replace (depth g') x m').run.value := by
  have hle : (g.subtreeIds x).length ≤ depth g :=
    subtree_le_depth h.sound.toForest (by rw [hm]; rfl)
  have hle' : (g'.subtreeIds x).length ≤ depth g' :=
    subtree_le_depth h.sound'.toForest (by rw [hm']; rfl)
  -- both writers may go as deep as the one that goes deeper
  have hdepth : (node g cfg (depth g) x m).Matches True
      (node g cfg (max (depth g) (depth g')) x m) :=
    Compile.matches_node h.sound.toForest h.attached _ _ hm hle (by omega)
  have hdepth' : (nodeReplacing g' cfg replace (max (depth g) (depth g')) x m').Matches True
      (nodeReplacing g' cfg replace (depth g') x m') :=
    matches_nodeReplacing h.sound'.toForest h.attached' _ _ hm' (by omega) hle'
  exact ((hdepth.trans (h.matches_node part hclosed hkeep hplace _ hx hm hm' (by omega))).trans
    hdepth').value_eq

/-- The promoted node is written after as it was before. -/
theorem value_promoted (h : Promotion g g' defId refId id name n e) {n' : Node NodeId}
    (hn' : g'.node? id = some n') : (node g cfg (depth g) id n).run.value =
      (node g' cfg (depth g') id n').run.value := by
  rw [← nodeReplacing_self (g := g')]
  refine h.value_node (Below g id) (fun hx ho hs => .step ho (hs ▸ hx)) (fun _ _ _ => rfl)
    (fun hup => ?_) .refl h.node hn'
  exact absurd hup (h.sound.toForest.not_below_owner h.owner)

/-! ## Definitions -/

theorem contentId?_name (h : Promotion g g' defId refId id name n e) :
    g'.contentId? name = some id := by
  unfold contentId?
  rw [h.definitions, Table.find?_put_self, Option.bind_some, h.content]
  rfl

theorem contentId?_other (h : Promotion g g' defId refId id name n e) {other : String}
    (hne : other ≠ name) : g'.contentId? other = g.contentId? other := by
  unfold contentId?
  rw [h.definitions, Table.find?_put, if_neg (Ne.symm hne)]
  cases hd : g.definitions.find? other with
  | none => rfl
  | some did =>
    obtain ⟨m, hm, hname⟩ := h.sound.defined.1 hd
    have hsame : (g.childIds did).map (swapped id refId) = g.childIds did := by
      refine (List.map_congr_left fun c hc => ?_).trans (List.map_id' _)
      refine if_neg ?_
      rintro rfl
      obtain ⟨f, hf, htarget, _⟩ := mem_edgesFrom_of_mem_childIds hc
      have ho := h.sound.owned hf
      rw [htarget, h.owner] at ho
      refine h.parent_kind ?_
      rw [Option.some.inj ho, h.sound.source_eq hf, g.kind?_of_node? hm,
        Node.kind_eq_of_definitionName? hname]
    rw [Option.bind_some, Option.bind_some, h.childIds did (by rw [hm]; rfl), hsame]

/-- The other definitions are written as before, with the reference replaced. -/
theorem value_definition (h : Promotion g g' defId refId id name n e)
    {replace : NodeId → Value → Value} (hkeep : ∀ x v, x ≠ refId → replace x v = v)
    (hplace : ∃ v, (∀ w, replace refId w = if e.kind.isBranch then
      Outline.wrapped n v else v) ∧ (node g cfg (depth g) id n).run.value = .ok v)
    {other : String} (hne : other ≠ name) :
    (definition g cfg other).run.value = (definitionReplacing g' cfg replace other).run.value := by
  unfold definition definitionReplacing content
  rw [h.contentId?_other hne]
  cases hc : g.contentId? other with
  | none => rfl
  | some c =>
    obtain ⟨did, _, hhead⟩ := Option.bind_eq_some_iff.1 hc
    obtain ⟨f, hf, htarget, _⟩ := mem_edgesFrom_of_mem_childIds (List.mem_of_mem_head? hhead)
    obtain ⟨m, hm⟩ := Option.isSome_iff_exists.1
      (htarget ▸ h.sound.toForest.target_present hf)
    have hm' := h.kept c m hm
    rw [Option.mapM_some, pointedAt_eq_ok_iff.2 hm, Option.mapM_some, pointedAt_eq_ok_iff.2 hm']
    exact h.value_node (fun _ => True) (fun _ _ _ => trivial) hkeep (fun _ => hplace) trivial hm hm'

/-! ## Documents -/

theorem names_definitions (h : Promotion g g' defId refId id name n e) :
    g'.definitions.names = g.definitions.names ++ [name] ∧ name ∉ g.definitions.names := by
  have hname : name ∉ g.definitions.names := by
    rw [Table.mem_names_iff, h.name_free]
    simp
  rw [h.definitions, Table.names_put, if_neg hname]
  exact ⟨rfl, hname⟩

/-- A document of the graph after ends with the new definition. -/
theorem document_split (h : Promotion g g' defId refId id name n e)
    {replace : NodeId → Value → Value} {doc : Value}
    (hdoc : g'.documentReplacing cfg replace = .ok doc) :
    ∃ rootNode root table v, g'.node? g.rootId = some rootNode ∧
      (nodeReplacing g' cfg replace (depth g') g.rootId rootNode).run.value = .ok root ∧
      List.Forall₂ (fun name entry => ∃ w,
        (definitionReplacing g' cfg replace name).run.value = .ok w ∧ (name, w) = entry)
        g.definitions.names table ∧
      (definitionReplacing g' cfg replace name).run.value = .ok v ∧
      doc = withTable root (table ++ [(name, v)]) := by
  obtain ⟨rootNode, root, table, hroot, hv, htable, rfl⟩ := documentReplacing_eq_ok_iff.1 hdoc
  rw [h.rootId] at hroot hv
  rw [h.names_definitions.1] at htable
  have hfront := (List.forall₂_take_append _ _ _ htable.flip).flip
  have hlast := (List.forall₂_drop_append _ _ _ htable.flip).flip
  have htable : table.take g.definitions.names.length ++ table.drop g.definitions.names.length =
    table := List.take_append_drop _ _
  generalize table.take g.definitions.names.length = front at hfront htable
  generalize table.drop g.definitions.names.length = last at hlast htable
  cases hlast with
  | cons hentry hnil =>
    obtain ⟨v, hwritten, rfl⟩ := hentry
    cases hnil
    exact ⟨rootNode, root, front, v, hroot, hv, hfront, hwritten, htable ▸ rfl⟩

/-- In the document after, the new definition has what the node was written as. -/
theorem definition_written (h : Promotion g g' defId refId id name n e) {doc : Value}
    (hdoc : g'.documentReplacing cfg (fun _ v => v) = .ok doc) :
    ∃ v, (node g cfg (depth g) id n).run.value = .ok v ∧ doc.definition? name = some v := by
  obtain ⟨_, root, table, v, _, _, htable, hwritten, rfl⟩ := h.document_split hdoc
  refine ⟨v, ?_, definition?_withTable ?_⟩
  · have hn' := h.kept id n h.node
    rw [h.value_promoted hn', ← hwritten, definitionReplacing_self]
    unfold definition content
    rw [h.contentId?_name, Option.mapM_some, pointedAt_eq_ok_iff.2 hn']
    rfl
  · rw [names_table htable]
    exact h.names_definitions.2

/-- With the fragment in the place of the reference, everything else in the document after is as it
was before. -/
theorem document_restored (h : Promotion g g' defId refId id name n e)
    {replace : NodeId → Value → Value} (hkeep : ∀ x v, x ≠ refId → replace x v = v)
    (hplace : ∃ v, (∀ w, replace refId w = if e.kind.isBranch then
      Outline.wrapped n v else v) ∧ (node g cfg (depth g) id n).run.value = .ok v)
    {doc : Value} (hdoc : g'.documentReplacing cfg replace = .ok doc) :
    ∃ rootNode root table v, g.node? g.rootId = some rootNode ∧
      (node g cfg (depth g) g.rootId rootNode).run.value = .ok root ∧
      Entries.names table = g.definitions.names ∧
      g.documentReplacing cfg (fun _ v => v) = .ok (withTable root table) ∧
      doc = withTable root (table ++ [(name, v)]) := by
  obtain ⟨rootNode', root, table, v, hroot', hv, htable, _, rfl⟩ := h.document_split hdoc
  obtain ⟨rootNode, hroot, _⟩ := h.sound.root
  have hsame : (node g cfg (depth g) g.rootId rootNode).run.value =
      (nodeReplacing g' cfg replace (depth g') g.rootId rootNode').run.value :=
    h.value_node (fun _ => True) (fun _ _ _ => trivial) hkeep (fun _ => hplace) trivial hroot hroot'
  refine ⟨rootNode, root, table, v, hroot, hsame.trans hv, names_table htable, ?_, rfl⟩
  refine documentReplacing_eq_ok_iff.2 ⟨rootNode, root, table, hroot, ?_, ?_, rfl⟩
  · rw [nodeReplacing_self]
    exact hsame.trans hv
  · have hothers : ∀ other ∈ g.definitions.names, other ≠ name := fun other hother heq =>
      h.names_definitions.2 (heq ▸ hother)
    refine ((List.forall₂_and_left _ _).2 ⟨hothers, htable⟩).imp ?_
    rintro other entry ⟨hne, w, hw, hentry⟩
    refine ⟨w, ?_, hentry⟩
    rw [definitionReplacing_self, h.value_definition hkeep hplace hne, hw]

/-- What is put in the place of the reference. -/
theorem restored_eq (h : Promotion g g' defId refId id name n e) (v : Value) :
    g.restored id v = if e.kind.isBranch then Outline.wrapped n v else v := by
  unfold restored
  rw [h.node, h.owner]

end Promotion

/-- Promoting a node of a reachable graph. -/
theorem Reachable.promotion {s : IdSupply} (hg : Reachable (fun _ c => c.Plain) g s)
    {r : (Graph × NodeId) × IdSupply} (h : (g.promote id name).run s = .ok r) :
    ∃ defId n e, Promotion g r.1.1 defId r.1.2 id name n e := by
  obtain ⟨hsound, hsup⟩ := hg.sound
  have hattached := hg.attached
  obtain ⟨hpromote, _⟩ := promote_ok h
  have hdefId := hsup (s.used + 1) (Nat.lt_succ_self _)
  have hrefId := hsup (s.used + 2) (Nat.lt_succ_of_lt (Nat.lt_succ_self _))
  obtain ⟨n, e, hp⟩ := promoted_of_promoteAs hsound hattached hdefId hrefId hpromote
  rw [promote_made h]
  exact ⟨_, n, e, { hp with
    sound := hsound
    attached := hattached
    sound' := (hsound.promote hsup h).1
    attached' := hattached.promoteAs hsound.toForest hdefId hrefId hpromote }⟩

/-- Taking a definition back gives the document from before: with the fragment of the definition,
brought into its place by `place`, where the reference stands in the document after, and with the
definition left out, it is the document of the graph before. -/
def RestoredBy (place : Value → Value) (g g' : Graph) (cfg : DocumentConfig) (refId : NodeId)
    (name : String) (document : Value) : Prop :=
  ∃ before fragment restored, g.compile cfg = .ok before ∧
    document.definition? name = some fragment ∧
    g'.documentReplacing cfg (fun _ v => v) = .ok document ∧
    g'.documentReplacing cfg (fun x v => if x = refId then place fragment else v) = .ok restored ∧
    restored.withoutDefinition name = before.document

/-- A promotion after which the document from before cannot be got back. -/
theorem exists_not_restoredBy {place : Value → Value} {s : IdSupply}
    {r : (Graph × NodeId) × IdSupply} (h : (g.promote id name).run s = .ok r)
    (ht : r.1.1.PointsAtTexts) (hemit : cfg.emitUnreferenced = true)
    {before document fragment restored : Value}
    (hbefore : g.documentReplacing cfg (fun _ v => v) = .ok before)
    (hdocument : r.1.1.documentReplacing cfg (fun _ v => v) = .ok document)
    (hfragment : document.definition? name = some fragment)
    (hrestored : r.1.1.documentReplacing cfg
      (fun x v => if x = r.1.2 then place fragment else v) = .ok restored)
    (hne : restored.withoutDefinition name ≠ before) :
    ∃ r result, (g.promote id name).run s = .ok r ∧ r.1.1.compile cfg = .ok result ∧
      ¬ RestoredBy place g r.1.1 cfg r.1.2 name result.document := by
  obtain ⟨result, hresult, rfl⟩ := compile_of_documentReplacing ht hemit hdocument
  refine ⟨r, result, h, hresult, ?_⟩
  rintro ⟨written, _, _, hwritten, hfragment', _, hrestored', hsame⟩
  obtain rfl := Option.some.inj (hfragment.symm.trans hfragment')
  obtain rfl := Except.ok.inj (hrestored.symm.trans hrestored')
  obtain rfl := Except.ok.inj (hbefore.symm.trans (documentReplacing_of_compile hemit hwritten))
  exact hne hsame

end Graph

end FormGraph

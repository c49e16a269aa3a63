import FormGraph.Proofs.References.Removal
import FormGraph.Proofs.Imported

/-!
# References that point at definitions

`Resolved g` says that every reference of a graph points at a definition in its table. Most edits
bring in no target that was not there and leave the table alone (`Narrows`). The others are the edits
that make references or change the table; of each of them `strands` says when it leaves a reference
behind that points at no definition. Every other edit keeps all references resolved.
-/

namespace FormGraph

/-- The draft is one of a reference, and its target is none of the known names. -/
def Draft.isStray (d : Draft) (known : String → Bool) : Bool :=
  (d.build "").target?.any fun v => !v.str?.any known

namespace Graph

variable {g g' old : Graph} {s : IdSupply}

/-- Every reference points at a definition of the graph. -/
def Resolved (g : Graph) : Prop :=
  ∀ ⦃id : NodeId⦄ ⦃n : Node NodeId⦄, g.node? id = some n → n.kind = .reference →
    ∃ name, n.target? = some (.str name) ∧ g.definitions.has name = true

/-- A change would leave references behind that point at no definition, one that it makes or one to a
definition that it removes. -/
def strands (g : Graph) : Change → Bool
  | .add draft _ _ _ => draft.isStray g.definitions.has
  | .createDefinition name (some draft) =>
    draft.isStray fun other => other = name || g.definitions.has other
  | .remove id policy => (g.node? id).any fun n =>
    match n.body with
    | .definition (.str name) => g.strays name policy
    | _ => false
  | .removeDefinition name policy => g.strays name policy
  | _ => false

/-- The target is the name of a definition. -/
def Resolves (g : Graph) (v : Value) : Prop := ∃ name, v = .str name ∧ g.definitions.has name = true

theorem resolved_iff : Resolved g ↔ ∀ {id v}, g.targetAt id = some v → g.Resolves v := by
  constructor
  · intro h id v hv
    obtain ⟨n, hn, htarget⟩ := targetAt_eq_some_iff.1 hv
    obtain ⟨name, hname, hhas⟩ := h hn (Node.kind_of_target? htarget)
    rw [htarget] at hname
    exact ⟨name, Option.some.inj hname, hhas⟩
  · intro h id n hn hk
    obtain ⟨v, hv⟩ := Node.target?_of_kind hk
    obtain ⟨name, rfl, hhas⟩ := h (targetAt_eq_some_iff.2 ⟨n, hn, hv⟩)
    exact ⟨name, hv, hhas⟩

theorem isStray_eq_false_iff {d : Draft} {known : String → Bool} {key : String} :
    d.isStray known = false ↔
      ∀ v, (d.build key).target? = some v → ∃ name, v = .str name ∧ known name = true := by
  rw [Draft.isStray, show (d.build key).target? = (d.build "").target? from rfl]
  cases (d.build "").target? with
  | none => simp
  | some v => cases v <;> simp [Value.str?]

/-! ## Edits that bring in no target -/

/-- There is no target that was not there before, and the table is the same. -/
structure Narrows (g g' : Graph) : Prop where
  /-- Every target was there before. -/
  targets : ∀ {id v}, g'.targetAt id = some v → g.targetAt id = some v
  /-- The table is the same. -/
  definitions : g'.definitions = g.definitions

namespace Narrows

theorem refl (g : Graph) : Narrows g g := ⟨fun h => h, rfl⟩

theorem trans {g₁ g₂ g₃ : Graph} (h : Narrows g₁ g₂) (h' : Narrows g₂ g₃) : Narrows g₁ g₃ :=
  ⟨fun hv => h.targets (h'.targets hv), h'.definitions.trans h.definitions⟩

theorem resolved (h : Narrows g g') (hr : Resolved g) : Resolved g' := by
  rw [resolved_iff] at hr ⊢
  intro id v hv
  obtain ⟨name, rfl, hhas⟩ := hr (h.targets hv)
  exact ⟨name, rfl, by rw [h.definitions, hhas]⟩

theorem move {id newParent : NodeId} {edge : EdgeKind} {index : Option Int}
    (h : g.move id newParent edge index = .ok g') : Narrows g g' := by
  obtain ⟨n, _, taken, es, _, hn, _, _, _, _, _, _, rfl⟩ := move_ok h
  have hput : ∀ x, ((g.freed id).putNode id (rekeyed n taken)).targetAt x = g.targetAt x := by
    intro x
    rw [targetAt_putNode, targetAt_freed]
    split
    · next hx =>
      rw [← hx, targetAt_of_node? hn, rekeyed]
      split <;> rfl
    · rfl
  constructor
  · intro x v hv
    rw [targetAt_next, targetAt_wire] at hv
    split at hv
    · rwa [hput] at hv
    · rwa [targetAt_freed] at hv
  · rw [definitions_next, definitions_wire]
    split <;> simp

theorem reorder {id : NodeId} {index : Int} (h : g.reorder id index = .ok g') : Narrows g g' := by
  rcases reorder_ok h with rfl | ⟨_, _, _, _, rfl⟩
  · exact refl _
  · exact ⟨fun h => h, rfl⟩

theorem setClauses {id : NodeId} {n : Node NodeId} (hn : g.node? id = some n)
    (cs : List (Clause NodeId)) : Narrows g (g.putNode id (n.setClauses cs)).next :=
  ⟨fun {x v} hv => by
    rwa [targetAt_next, targetAt_putNode_of_same hn (Node.target?_setClauses n cs)] at hv, rfl⟩

theorem removeSubtree (id : NodeId) : Narrows g (g.removeSubtree old id) := by
  constructor
  · intro x v hv
    rw [targetAt_removeSubtree] at hv
    split_ifs at hv
    exact hv
  · exact definitions_removeSubtree g old id

theorem removeAll (ids : List NodeId) :
    ∀ g : Graph, Narrows g (ids.foldl (fun h id => h.removeSubtree old id) g) := by
  induction ids with
  | nil => exact refl
  | cons id ids ih => exact fun g => (removeSubtree id).trans (ih _)

theorem ensureBranch {id key : NodeId} {target : Option NodeId} {kind : EdgeKind}
    {skip : Option Nat} (h : g.ensureBranch id key target kind skip = .ok g') : Narrows g g' := by
  rcases ensureBranch_ok h with ⟨_, rfl⟩ | ⟨t, _, ⟨_, _, _, _, rfl⟩ | ⟨_, hmove⟩⟩
  · exact refl _
  · exact refl _
  · exact move hmove

/-- Writing clauses after their branches were made sure of. -/
theorem written {id : NodeId} (h : g.ClausesWritten id g') : Narrows g g' := by
  obtain ⟨h₁, h₂, hm, cs⟩ := h
  exact ((ensureBranch h₁).trans (ensureBranch h₂)).trans (setClauses hm cs)

theorem pruneBranches {id : NodeId} (h : g.pruneBranches id = .ok g') : Narrows g g' := by
  obtain ⟨n, _, _, rfl | rfl⟩ := pruneBranches_ok h
  · exact refl _
  · rw [← List.foldl_map (f := Edge.target) (g := fun h id => Graph.removeSubtree h g id)]
    exact (removeAll _ g).trans ⟨fun h => h, rfl⟩

theorem removeClause {id : NodeId} {index : Int} {prune : Bool}
    (h : g.removeClause id index prune = .ok g') : Narrows g g' := by
  obtain ⟨n, g₁, hn, _, rfl, rfl | hprune⟩ := removeClause_ok h
  · exact setClauses hn _
  · exact (setClauses hn _).trans (pruneBranches hprune)

end Narrows

/-! ## Edits that make references or change the table -/

theorem Resolved.update (hr : Resolved g) {id : NodeId} {patch : Members}
    (h : g.update id patch = .ok g') : Resolved g' := by
  obtain ⟨n, n', hn, _, _, _, _, htarget, rfl⟩ := update_ok h
  rw [resolved_iff] at hr ⊢
  intro x v hv
  rw [targetAt_next, targetAt_putNode] at hv
  split_ifs at hv with hx
  · rcases htarget v hv with hv | hknown
    · exact hr (targetAt_eq_some_iff.2 ⟨n, hn, hv⟩)
    · exact hknown
  · exact hr hv

/-- A new node leaves all references resolved unless it is a stray reference itself. -/
theorem Resolved.addAs_iff (hr : Resolved g) {id parentId : NodeId} {draft : Draft}
    {edge : EdgeKind} {index : Option Int} (h : g.addAs id draft parentId edge index =
      .ok g') : Resolved g' ↔ draft.isStray g.definitions.has = false := by
  obtain ⟨_, _, key, es, _, _, _, _, _, _, rfl⟩ := addAs_ok h
  have htarget : ∀ x, ((g.putNode id (draft.build key)).wire ⟨parentId, id, edge⟩ es).next.targetAt
      x = if id = x then (draft.build key).target? else g.targetAt x := fun x => by
    rw [targetAt_next, targetAt_wire, targetAt_putNode]
  rw [resolved_iff] at hr ⊢
  rw [isStray_eq_false_iff]
  constructor
  · intro hall v hv
    refine hall (v := v) (?_ : targetAt _ id = some v)
    rw [htarget, if_pos rfl, hv]
  · intro hnew x v hv
    rw [htarget] at hv
    split_ifs at hv
    · exact hnew v hv
    · exact hr hv

/-- A new definition without content leaves all references resolved, and puts its name on the
table. -/
theorem Resolved.createDefinitionAs (hr : Resolved g) {id : NodeId} {name : String}
    (h : g.createDefinitionAs id name = .ok g') :
    Resolved g' ∧ g'.definitions.has = fun other => other = name || g.definitions.has other := by
  obtain ⟨_, _, rfl⟩ := createDefinitionAs_ok h
  have hhas : ((g.putNode id (Node.ofDefinition name)).define name id).next.definitions.has =
      fun other => other = name || g.definitions.has other := by
    funext other
    rw [Table.has_eq, definitions_next, find?_define, definitions_putNode]
    by_cases hother : name = other
    · simp [hother]
    · simp [hother, Ne.symm hother, Table.has_eq]
  refine ⟨?_, hhas⟩
  rw [resolved_iff] at hr ⊢
  intro x v hv
  rw [targetAt_next, targetAt_define, targetAt_putNode] at hv
  split_ifs at hv
  · simp [Node.target?, Node.ofDefinition] at hv
  · obtain ⟨other, rfl, hother⟩ := hr hv
    exact ⟨other, rfl, by rw [hhas]; simp [hother]⟩

/-- Promoting a node makes a reference to a definition that it makes too. -/
theorem Resolved.promoteAs (hr : Resolved g) {defId refId id : NodeId} {name : String}
    (h : g.promoteAs defId refId id name = .ok g') : Resolved g' := by
  obtain ⟨i⟩ := promoteAs_ok h
  have hback : ∀ {x v}, i.wired.targetAt x = some v →
      v = .str name ∨ ∃ y, g.targetAt y = some v := by
    intro x v hv
    obtain ⟨m, hm, hv⟩ := targetAt_eq_some_iff.1 hv
    rw [i.node?_wired] at hm
    split_ifs at hm
    · obtain rfl := Option.some.inj hm
      exact Or.inl (Option.some.inj hv).symm
    · obtain rfl := Option.some.inj hm
      exact Or.inr ⟨id, targetAt_eq_some_iff.2 ⟨i.node, i.node_eq, hv⟩⟩
    · obtain rfl := Option.some.inj hm
      simp [Node.target?, Node.ofDefinition] at hv
    · exact Or.inr ⟨x, targetAt_eq_some_iff.2 ⟨m, hm, hv⟩⟩
  have htable : ∀ other, i.wired.definitions.find? other =
      if name = other then some defId else g.definitions.find? other := by
    intro other
    rw [i.definitions_wired, Table.find?_put]
  have hresolved : Resolved i.wired := by
    rw [resolved_iff] at hr ⊢
    intro x v hv
    rcases hback hv with rfl | ⟨y, hy⟩
    · exact ⟨name, rfl, by rw [Table.has_eq, htable, if_pos rfl]; rfl⟩
    · obtain ⟨other, rfl, hother⟩ := hr hy
      refine ⟨other, rfl, ?_⟩
      rw [Table.has_eq, htable]
      split
      · rfl
      · exact hother
  have hstep : Narrows i.wired (if i.edge.kind.isBranch then
      i.wired.retarget i.edge.source id (some refId) else i.wired).next := by
    split
    · exact ⟨fun {x v} hv => by rwa [targetAt_next, targetAt_retarget] at hv, by simp⟩
    · exact ⟨fun h => h, rfl⟩
  rw [i.eq_wired]
  exact hstep.resolved hresolved

/-- References that are pointed elsewhere point there; the others point where they did. -/
theorem targetAt_pointAll (name : String) (refs : List NodeId) {x : NodeId} {v : Value} :
    ∀ {g : Graph}, (refs.foldl (fun h ref => h.pointAt name ref) g).targetAt x = some v →
      v = .str name ∨ x ∉ refs ∧ g.targetAt x = some v := by
  induction refs with
  | nil => exact fun hv => Or.inr ⟨List.not_mem_nil, hv⟩
  | cons ref refs ih =>
    intro g h
    rcases ih h with hv | ⟨hx, hv⟩
    · exact Or.inl hv
    · change (g.pointAt name ref).targetAt x = some v at hv
      cases hn : g.node? ref with
      | none =>
        have hsame : g.pointAt name ref = g := by rw [pointAt, hn]
        rw [hsame] at hv
        refine Or.inr ⟨?_, hv⟩
        rw [List.mem_cons, not_or]
        refine ⟨?_, hx⟩
        rintro rfl
        rw [targetAt_of_absent hn] at hv
        simp at hv
      | some n =>
        have hput : g.pointAt name ref = g.putNode ref { n with body := .reference (.str name) } := by
          rw [pointAt, hn]
        rw [hput, targetAt_putNode] at hv
        split_ifs at hv with href
        · exact Or.inl (Option.some.inj hv).symm
        · exact Or.inr ⟨by simp [Ne.symm href, hx], hv⟩

theorem definitions_pointAll (name : String) (refs : List NodeId) :
    ∀ g : Graph, (refs.foldl (fun h ref => h.pointAt name ref) g).definitions = g.definitions := by
  induction refs with
  | nil => exact fun _ => rfl
  | cons ref refs ih =>
    intro g
    rw [List.foldl_cons, ih, pointAt]
    split <;> rfl

/-- Renaming a definition takes its references along. -/
theorem Resolved.renameDefinition (hr : Resolved g) {oldName newName : String}
    (h : g.renameDefinition oldName newName = .ok g') : Resolved g' := by
  rcases renameDefinition_ok h with rfl | ⟨id, n, _, _, _, _, _, rfl⟩
  · exact hr
  rw [resolved_iff] at hr ⊢
  intro x v hv
  unfold Resolves
  rw [definitions_next, definitions_pointAll]
  rw [targetAt_next] at hv
  rcases targetAt_pointAll newName _ hv with rfl | ⟨hx, hv⟩
  · exact ⟨newName, rfl, by rw [Table.has_eq, find?_define, if_pos rfl]; rfl⟩
  · rw [targetAt_define, targetAt_undefine, targetAt_putNode] at hv
    split_ifs at hv
    · simp [Node.target?] at hv
    · obtain ⟨other, rfl, hother⟩ := hr hv
      refine ⟨other, rfl, ?_⟩
      have hne : oldName ≠ other := by
        rintro rfl
        exact hx (mem_referencesTo_iff.2 hv)
      rw [Table.has_eq, find?_define, find?_undefine, if_neg hne]
      split
      · rfl
      · exact hother

/-- Removing a definition leaves all references resolved unless it leaves references to it behind. -/
theorem Resolved.removeDefinition_iff (hr : Resolved g) (hs : Sound g) (hsup : Supplied g s)
    {name : String} {policy : RemovalPolicy} {r : (Graph × List String) × IdSupply}
    (h : (g.removeDefinition name policy).run s = .ok r) :
    Resolved r.1.1 ↔ g.strays name policy = false := by
  obtain ⟨defId, hremoved⟩ := removed_of_removeDefinition hs hsup h
  have hgone : r.1.1.definitions.has name = false := by
    rw [Table.has_eq, hremoved.table, if_pos rfl]
    rfl
  rw [resolved_iff] at hr ⊢
  rw [← Bool.not_eq_true, ← hremoved.strays_iff]
  constructor
  · rintro hall ⟨id, hid⟩
    obtain ⟨other, heq, hother⟩ := hall hid
    rw [← Value.str.inj heq, hgone] at hother
    simp at hother
  · intro hnone id v hv
    obtain ⟨x, hx⟩ := hremoved.back hv
    obtain ⟨other, rfl, hother⟩ := hr hx
    refine ⟨other, rfl, ?_⟩
    rw [Table.has_eq, hremoved.table, if_neg]
    · exact hother
    · rintro rfl
      exact hnone ⟨id, hv⟩

/-! ## All changes -/

/-- A node that is removed, a definition or another one. -/
theorem Resolved.remove_iff (hr : Resolved g) (hs : Sound g) (hsup : Supplied g s) {id : NodeId}
    {policy : RemovalPolicy} {r : Graph × IdSupply} (h : (g.remove id policy).run s = .ok r) :
    Resolved r.1 ↔ g.strands (.remove id policy) = false := by
  obtain ⟨n, _, hn, ⟨hk, hg⟩ | ⟨name, warnings, hbody, hdef⟩⟩ := remove_ok h
  · have hnone : g.strands (.remove id policy) = false := by
      simp only [strands, hn, Option.any_some]
      split
      · next heq =>
        rw [Node.kind, heq] at hk
        exact absurd rfl hk
      · rfl
    refine iff_of_true ?_ hnone
    rw [hg]
    exact ((Narrows.removeSubtree id).trans ⟨fun h => h, rfl⟩).resolved hr
  · have hstrands : g.strands (.remove id policy) = g.strays name policy := by
      simp only [strands, hn, Option.any_some, hbody]
    rw [hstrands]
    exact hr.removeDefinition_iff hs hsup hdef

/-- A definition that is created, and what is put into it. -/
theorem Resolved.createDefinition_iff (hr : Resolved g) {name : String} {content : Option Draft}
    {r : (Graph × NodeId) × IdSupply} (h : (g.createDefinition name content).run s = .ok r) :
    Resolved r.1.1 ↔ g.strands (.createDefinition name content) = false := by
  obtain ⟨bare, hbare, _, hcontent⟩ := createDefinition_ok h
  obtain ⟨hresolved, hhas⟩ := hr.createDefinitionAs hbare
  rcases hcontent with ⟨rfl, hmade, _⟩ | ⟨draft, rfl, _, hadd⟩
  · rw [hmade]
    exact iff_of_true hresolved rfl
  · have hiff := hresolved.addAs_iff hadd
    rw [hhas] at hiff
    exact hiff

/-- A change keeps all references resolved exactly when it does not strand any. -/
theorem Resolved.applied_iff (hr : Resolved g) (hs : Sound g) (hsup : Supplied g s) {c : Change}
    {t : IdSupply} (h : Applied g s c g' t) : Resolved g' ↔ g.strands c = false := by
  cases h with
  | add h => exact hr.addAs_iff (add_ok h).1
  | update h => exact iff_of_true (hr.update h) rfl
  | remove h => exact hr.remove_iff hs hsup h
  | move h => exact iff_of_true ((Narrows.move h).resolved hr) rfl
  | reorder h => exact iff_of_true ((Narrows.reorder h).resolved hr) rfl
  | @createGroup kind _ _ _ _ _ hgroup h =>
    refine iff_of_true ((hr.addAs_iff (add_ok h).1).2 ?_) rfl
    cases kind with
    | group k => rfl
    | _ => simp [NodeKind.isGroup] at hgroup
  | appendClause _ h =>
    exact iff_of_true ((Narrows.written (clausesWritten_of_appendClause h)).resolved hr) rfl
  | updateClause h =>
    exact iff_of_true ((Narrows.written (clausesWritten_of_updateClause h)).resolved hr) rfl
  | removeClause h => exact iff_of_true ((Narrows.removeClause h).resolved hr) rfl
  | synchronize h =>
    refine iff_of_true ?_ rfl
    rcases clausesWritten_of_synchronizeBranches h with rfl | hwritten
    · exact hr
    · exact (Narrows.written hwritten).resolved hr
  | prune h => exact iff_of_true ((Narrows.pruneBranches h).resolved hr) rfl
  | createDefinition h => exact hr.createDefinition_iff h
  | promote h => exact iff_of_true (hr.promoteAs (promote_ok h).1) rfl
  | renameDefinition h => exact iff_of_true (hr.renameDefinition h) rfl
  | removeDefinition h => exact hr.removeDefinition_iff hs hsup h

theorem Resolved.apply_iff (hr : Resolved g) (hs : Sound g) (hsup : Supplied g s) {c : Change}
    {r : Effect × IdSupply} (h : (g.apply c).run s = .ok r) :
    Resolved r.1.graph ↔ g.strands c = false :=
  hr.applied_iff hs hsup (applied_of_apply h)

/-- As long as no change strands a reference, every reference of every reachable graph points at a
definition; the first change that strands one ends that. -/
theorem resolved_iff_of_reachable (h : Reachable (fun g c => g.strands c = false) g s) :
    Resolved g ∧ ∀ {c : Change} {r : Effect × IdSupply}, (g.apply c).run s = .ok r →
      (Resolved r.1.graph ↔ g.strands c = false) := by
  have hr : Resolved g := by
    refine h.keeps (P := Resolved) (fun title description => ?_) (fun hp hread used => ?_)
      (fun hr hu => hr.update hu) fun hbefore hr hc happly =>
        (hr.apply_iff hbefore.sound.1 hbefore.sound.2 happly).2 hc
    · intro id n hn hk
      unfold Graph.empty node? at hn
      rw [Table.find?_put] at hn
      split_ifs at hn
      · rw [← Option.some.inj hn] at hk
        simp [Node.kind, Body.initial, Body.kind] at hk
      · simp at hn
    · have htidy := tidy_toGraph (fits_of_outlineOf hp hread) (tidy_of_outlineOf hp hread) used
      exact resolved_iff.2 fun hv => by
        obtain ⟨n, hn, hv⟩ := targetAt_eq_some_iff.1 hv
        exact htidy.target hn hv
  exact ⟨hr, fun happly => hr.apply_iff h.sound.1 h.sound.2 happly⟩

/-- A reference to a definition that does not exist is taken into an empty form. -/
theorem stranded_by_add :
    ∃ (g : Graph) (s : IdSupply) (r : Effect × IdSupply),
      Reachable (fun g c => g.strands c = false) g s ∧ Resolved g ∧
        (g.apply (.add { body := .reference (.str "address") } rootName .child none)).run s =
          .ok r ∧ ¬ Resolved r.1.graph := by
  have hempty : Reachable (fun g c => g.strands c = false) _ _ := .empty .null .null {}
  obtain ⟨hresolved, hiff⟩ := resolved_iff_of_reachable hempty
  have hadd : ((Graph.empty .null .null).apply (.add { body := .reference (.str "address") }
      rootName .child none)).run {} = .ok _ := rfl
  refine ⟨_, _, _, hempty, hresolved, hadd, fun hr => ?_⟩
  exact absurd ((hiff hadd).1 hr) (by decide)

end Graph

end FormGraph

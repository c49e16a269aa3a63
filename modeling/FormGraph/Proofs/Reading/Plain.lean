import FormGraph.Proofs.Imported

/-!
# What is read has no widgets

A document says nothing of widgets, and no node that is read of one has a widget
(`plain_of_outlineOf`). So in a graph that was read of a bundle a node has a widget only because the
UI document of the bundle dresses it.
-/

namespace FormGraph

/-- The node has neither a widget nor options for one. -/
def Node.Plain {ρ : Type} (n : Node ρ) : Prop := n.widget = .null ∧ n.widgetOptions = []

/-- No node of the outline has a widget. -/
inductive Outline.Plain : Outline → Prop where
  | mk {n : Node Nat} {bs : List (EdgeKind × Outline)} (node : n.Plain)
    (below : ∀ b ∈ bs, Outline.Plain b.2) : Outline.Plain (.mk n bs)

namespace Outline

theorem Plain.of_node {o : Outline} (h : o.Plain) : o.node.Plain := by
  cases h with
  | mk node _ => exact node

theorem hereditary_plain : Hereditary Plain := by
  intro o h
  cases h with
  | mk _ below => exact below

/-- A node without a widget has a plain outline when its children have. -/
theorem Plain.of_children {n : Node Nat} (hn : n.Plain) {children : List Outline}
    (h : ∀ o ∈ children, o.Plain) : (Outline.mk n (children.map fun o => (.child, o))).Plain := by
  refine .mk hn fun b hb => ?_
  obtain ⟨o, ho, rfl⟩ := List.mem_map.1 hb
  exact h o ho

end Outline

namespace Decompile

open Reading

variable {below : Reader}

theorem plain_nodeOf (key : String) (body : Body Nat) (schema : Members) (consumed : List String)
    (kept : Members) (required : Bool) (path : String) :
    (nodeOf key body schema consumed kept required path).value.Plain := ⟨rfl, rfl⟩

theorem plain_group (hb : ReadsOnly Outline.Plain below) : GroupsOnly Outline.Plain below := by
  intro kind schema taken path hp _ hc
  rw [group_eq] at hc ⊢
  have hparts := groupParts_holds hb hp (Noted.calm_bind_iff.1 hc).1
  exact .mk (plain_nodeOf _ _ _ _ _ _ _) fun b hb => (hparts b hb).2

theorem plain_typed (hb : ReadsOnly Outline.Plain below) {tupleItems : TupleItems} {inner : Inner}
    {schema : Members} (hp : (Value.obj schema).Proper)
    (hc : (typed below tupleItems inner schema).Calm) :
    (typed below tupleItems inner schema).value.Plain := by
  rw [typed_eq, Noted.calm_bind_iff] at hc
  rw [typed_eq]
  simp only [Noted.calm_bind_iff] at hc
  exact .of_children (plain_nodeOf _ _ _ _ _ _ _) (partsOf_holds hb (plain_group hb) hp hc.2.2.1)

theorem plain_reader (tupleItems : TupleItems) (names : List String) (depth : Nat) :
    ReadsOnly Outline.Plain (reader tupleItems names depth) := by
  induction depth with
  | zero => exact fun inner o _ _ h => by simp [reader] at h
  | succ depth ih =>
    exact schema_holds (plain_group ih)
      (fun _ _ _ _ => .mk (plain_nodeOf _ _ _ _ _ _ _) fun _ hb => absurd hb List.not_mem_nil)
      fun _ _ hc hp _ => plain_typed ih hp hc

end Decompile

/-- No node of the outline of a document that was read calmly has a widget. -/
theorem Decompile.plain_outline (tupleItems : TupleItems) {document : Members}
    (hp : (Value.obj document).Proper) (hc : (outline tupleItems document).Calm) :
    (outline tupleItems document).value.root.Plain ∧
      ∀ e ∈ (outline tupleItems document).value.definitions, ∀ o, e.content = some o → o.Plain := by
  have hb := plain_reader tupleItems (Entries.names (definitionTable document).value)
    (Value.obj document).depth
  refine ⟨?_, contents_hold hp hc hb⟩
  rw [outline_eq] at hc ⊢
  simp only [Noted.calm_bind_iff] at hc
  exact .of_children (plain_nodeOf _ _ _ _ _ _ _) (objectParts_holds hb (plain_group hb) hp hc.2.2.2.1)

namespace Graph

theorem plain_of_outlineOf {document : Value} (hp : document.Proper) {cfg : DocumentConfig}
    {r : DocumentOutline × List String} (h : outlineOf document cfg = .ok r) (used : Nat)
    {x : NodeId} {n : Node NodeId} (hn : (r.1.toGraph used).node? x = some n) : n.Plain := by
  obtain ⟨members, rfl, hcalm, hvalue⟩ := calm_of_outlineOf h
  obtain ⟨hroot, hcontent⟩ := Decompile.plain_outline cfg.tupleItems hp hcalm
  rw [← hvalue] at hroot hcontent
  obtain ⟨s, hs, -, rfl⟩ := (r.1.laidOut used).node.1 hn
  rcases DocumentOutline.spot_cases Outline.hereditary_plain hroot hcontent hs with
    rfl | ⟨i, e, u, _, rfl⟩ | ⟨p, rfl, h⟩
  · exact hroot.of_node
  · exact ⟨rfl, rfl⟩
  · exact h.of_node

end Graph

end FormGraph

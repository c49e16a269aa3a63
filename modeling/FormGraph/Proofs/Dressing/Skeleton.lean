import FormGraph.Proofs.Dressing.Worn
import FormGraph.Proofs.Reread.Determined

/-!
# What is written alike has the same properties

Two graphs that show objects that are written alike have a property at the same paths, of the same
kind (`exists_propertyAt`): the properties of an object can be told from what is written of it.
-/

namespace FormGraph

namespace Outline

open Decompile

variable {cfg : DocumentConfig} {names names' : List String} {o o' : Outline}

/-- Two objects that can be read back and are written alike. -/
structure SameObject (cfg : DocumentConfig) (names names' : List String) (o o' : Outline) : Prop where
  /-- The first one is an object. -/
  left : ∃ own, o.node.body = .object own
  /-- So is the second one. -/
  right : ∃ own, o'.node.body = .object own
  /-- The first one can be read back. -/
  left_reads : ObjectReads o.node o.hanging
  /-- So can the second one. -/
  right_reads : ObjectReads o'.node o'.hanging
  /-- So can what hangs below the first one. -/
  left_below : ∀ b ∈ o.hanging, b.2.Readable names
  /-- So can what hangs below the second one. -/
  right_below : ∀ b ∈ o'.hanging, b.2.Readable names'
  /-- They are written alike. -/
  alike : Value.Alike (o.written cfg) (o'.written cfg)

theorem SameObject.symm (h : SameObject cfg names names' o o') : SameObject cfg names' names o' o where
  left := h.right
  right := h.left
  left_reads := h.right_reads
  right_reads := h.left_reads
  left_below := h.right_below
  right_below := h.left_below
  alike := h.alike.symm

theorem Readable.objectReads (h : o.Readable names) {own : ObjectAttributes}
    (hb : o.node.body = .object own) : ObjectReads o.node o.hanging := by
  cases h with
  | mk _ _ own _ =>
    unfold OwnReads at own
    rw [node] at hb
    rw [hb] at own
    exact own

theorem exists_object {n : Node Nat} (h : n.kind = .object) : ∃ own, n.body = .object own := by
  unfold Node.kind at h
  cases hb : n.body with
  | object own => exact ⟨own, rfl⟩
  | string | number | boolean | enum | array | group | definition | reference =>
    rw [hb] at h
    cases h

/-- Each field of the first object is there in the second one, under the same key and of the same
kind. -/
theorem SameObject.exists_field (h : SameObject cfg names names' o o') {b : EdgeKind × Outline}
    (hb : b ∈ o.hanging) (hg : b.2.node.kind.isGroup = false) :
    ∃ b' ∈ o'.hanging, b'.1 = .child ∧ b'.2.node.key = b.2.node.key ∧
      b'.2.node.kind = b.2.node.kind ∧
      (b.2.node.kind = .object → SameObject cfg names names' b.2 b'.2) := by
  obtain ⟨own, hleft⟩ := h.left
  obtain ⟨own', hright⟩ := h.right
  have halike := h.alike
  rw [← mk_node_hanging o, ← mk_node_hanging o'] at halike
  have hfield : b.2 ∈ fieldsOf o.hanging :=
    List.mem_map_of_mem (List.mem_filter.2 ⟨hb, by simpa using hg⟩)
  obtain ⟨p, hp, hkey, hpalike⟩ :=
    exists_field_of_alike hleft hright h.right_reads halike h.left_reads hfield
  obtain ⟨b', hb', rfl, hg'⟩ := mem_fieldsOf hp
  have hreads := h.left_below b hb
  have hreads' := h.right_below b' hb'
  have hkind := kind_eq_of_alike_field hreads hreads' hg hg' hpalike
  refine ⟨b', hb', h.right_reads.children b' hb', hkey, hkind, fun hobject => ?_⟩
  obtain ⟨inner, hinner⟩ := exists_object hobject
  obtain ⟨inner', hinner'⟩ := exists_object (hkind.trans hobject)
  exact ⟨⟨inner, hinner⟩, ⟨inner', hinner'⟩, hreads.objectReads hinner,
    hreads'.objectReads hinner', hreads.hanging, hreads'.hanging, hpalike⟩

end Outline

namespace Graph

open Outline

variable {g g' : Graph} {cfg : DocumentConfig} {names names' : List String} {o o' : Outline}

theorem Shows.exists_below {p : NodeId} (h : g.Shows p o) {b : EdgeKind × Outline}
    (hb : b ∈ o.hanging) : ∃ x, g.Shows x b.2 ∧ (⟨p, x, b.1⟩ : Edge) ∈ g.edgesFrom p := by
  cases h with
  | mk hs node edges below =>
    obtain ⟨h, hh, rfl⟩ := List.mem_map.1 hb
    exact ⟨h.1, below h hh, edges ▸ List.mem_map_of_mem (f := fun h => (⟨p, h.1, h.2.1⟩ : Edge)) hh⟩

theorem Shows.exists_hanging {p : NodeId} (h : g.Shows p o) {e : Edge} (he : e ∈ g.edgesFrom p) :
    ∃ b ∈ o.hanging, g.Shows e.target b.2 := by
  cases h with
  | mk hs node edges below =>
    rw [edges] at he
    obtain ⟨h, hh, rfl⟩ := List.mem_map.1 he
    exact ⟨h.2, List.mem_map_of_mem hh, below h hh⟩

/-- Where the roots are written alike, a property of the first graph is one of the second graph at
the same path, of the same kind. -/
theorem exists_propertyAt (hf : Forest g) (hf' : Forest g') (hroot : g.Shows g.rootId o)
    (hroot' : g'.Shows g'.rootId o') (hsame : SameObject cfg names names' o o') {path : List String}
    {x : NodeId} (hx : g.PropertyAt path x) :
    ∃ x' q q', g'.PropertyAt path x' ∧ g.Shows x q ∧ g'.Shows x' q' ∧
      q'.node.kind = q.node.kind ∧ (q.node.kind = .object → SameObject cfg names names' q q') := by
  induction hx with
  | root =>
    obtain ⟨own, hleft⟩ := hsame.left
    obtain ⟨own', hright⟩ := hsame.right
    refine ⟨g'.rootId, o, o', .root, hroot, hroot', ?_, fun _ => hsame⟩
    rw [Node.kind, Node.kind, hleft, hright]
    rfl
  | @property path p x n m above object kind child node field ih =>
    obtain ⟨p', q, q', habove', hq, hq', hkind, hdeeper⟩ := ih
    have hobject : q.node.kind = .object := (hq.kind_eq object).1.symm.trans kind
    obtain ⟨b, hb, hshows⟩ := hq.exists_hanging (hf.listed child).2
    have hfield := hshows.kind_eq node
    obtain ⟨b', hb', hchild, hkey, hkind', hbelow⟩ :=
      (hdeeper hobject).exists_field hb (hfield.1 ▸ field)
    obtain ⟨x', hshows', hedge⟩ := hq'.exists_below hb'
    obtain ⟨f, hp'⟩ := hq'.node?
    obtain ⟨f', hx'⟩ := hshows'.node?
    have hproperty : g'.PropertyAt (b'.2.node.key :: path) x' := by
      refine .property habove' hp' ?_ ?_ hx' ?_
      · rw [Node.kind_mapClauses, hkind, hobject]
      · rw [IsChild, hf'.owned hedge, hchild]
      · rw [Node.kind_mapClauses, hkind', ← hfield.1]
        exact field
    rw [hkey, ← hfield.2] at hproperty
    exact ⟨x', b.2, b'.2, hproperty, hshows, hshows', hkind', hbelow⟩

end Graph

end FormGraph

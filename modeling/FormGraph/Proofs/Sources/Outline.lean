import FormGraph.Proofs.Reading.Accounts
import FormGraph.Proofs.Reading.Branches
import FormGraph.Proofs.Reread.ReadSchema

/-!
# What the nodes of an outline are read from

Every edge below a node that was read stands for a part of what the node was read from: a property or
a group of an object, the items of an array, a branch of a group. `sources` lists these parts in the
order of the edges, and nothing else hangs below a node (`hanging_of_readFrom`).
-/

namespace FormGraph

open Noted

namespace Decompile

/-- What a branch says, without the property that a field is wrapped in. -/
def branchSchema (v : Value) : Value :=
  match v with
  | .obj members => (branchInner members .thenBranch "").schema
  | v => v

/-- What the edges below a node of the kind are read from, in order. -/
def sources (kind : NodeKind) (schema : Members) : List (EdgeKind × Value) :=
  match kind with
  | .object =>
    ((propertiesIn schema).map fun p => (.child, p.2)) ++
      (ownGroups schema).map fun c => (.child, .obj c.2)
  | .array => (itemIn? schema).toList.map fun v => (.child, v)
  | .group kind => (ownBranches kind schema).map fun b => (b.1, branchSchema b.2)
  | _ => []

/-- The outline is read from the value: as a schema, as a group, or as the root of a document with
definitions of the given names. -/
inductive ReadFrom (tupleItems : TupleItems) (names : List String) : Value → Outline → Prop where
  | schema {depth : Nat} {inner : Inner} {o : Outline}
    (h : (reader tupleItems names depth inner).Yields (some o)) :
    ReadFrom tupleItems names inner.schema o
  | group {depth : Nat} {kind : GroupKind} {members : Members} {taken : List String} {path : String}
    {o : Outline} (hkind : groupKind? (.obj members) = some kind)
    (h : (group (reader tupleItems names depth) kind members taken path).Yields o) :
    ReadFrom tupleItems names (.obj members) o
  | document {members : Members} {d : DocumentOutline}
    (hnames : Entries.names (definitionTable members).value = names)
    (h : (outline tupleItems members).Yields d) : ReadFrom tupleItems names (.obj members) d.root

variable {tupleItems : TupleItems} {names : List String} {schema : Members} {v : Value}
  {o : Outline}

/-! ## What a reader does with each kind of schema -/

/-- What is read of a schema is a group, a reference, or a node of the kind that it declares. -/
theorem cases_of_reader {depth : Nat} {inner : Inner}
    (h : (reader tupleItems names depth inner).Yields (some o)) :
    ∃ depth' members, depth = depth' + 1 ∧ inner.schema = .obj members ∧
      ((∃ kind, groupKind? (.obj members) = some kind ∧
          (group (reader tupleItems names depth') kind members [] inner.path).Yields o) ∨
        (pointing names inner members).Yields o ∨
        (typed (reader tupleItems names depth') tupleItems inner members).Yields o) := by
  cases depth with
  | zero => exact absurd h.value_eq (by simp [reader])
  | succ depth =>
    obtain ⟨hvalue, hc⟩ := h
    unfold reader Decompile.schema at hvalue hc
    cases hschema : inner.schema with
    | obj members =>
      refine ⟨depth, members, rfl, rfl, ?_⟩
      rw [hschema] at hvalue hc
      dsimp only at hvalue hc
      cases hkind : (if inner.role = .content then bareGroupKind? (.obj members) else none) with
      | some kind =>
        rw [hkind] at hvalue hc
        have hgroup : groupKind? (.obj members) = some kind := by
          split_ifs at hkind
          unfold bareGroupKind? at hkind
          dsimp only at hkind
          split_ifs at hkind
          exact hkind
        exact .inl ⟨kind, hgroup, Option.some.inj hvalue, (calm_bind_iff.1 hc).1⟩
      | none =>
        rw [hkind] at hvalue hc
        dsimp only at hvalue hc
        by_cases href : Entries.has members "$ref" = true
        · rw [if_pos href] at hvalue hc
          exact .inr (.inl ⟨Option.some.inj hvalue, (calm_bind_iff.1 hc).1⟩)
        · rw [if_neg href] at hvalue hc
          exact .inr (.inr ⟨Option.some.inj hvalue, (calm_bind_iff.1 hc).1⟩)
    | null | bool _ | int _ | float _ | str _ | list _ =>
      rw [hschema] at hc
      exact absurd hc (not_calm_issue_bind _ _)

theorem kind_of_pointing {inner : Inner} (h : (pointing names inner schema).Yields o) :
    o.node.kind = .reference := by
  rw [← h.value_eq]
  rfl

theorem kind_of_typed {below : Reader} {inner : Inner}
    (h : (typed below tupleItems inner schema).Yields o) :
    o.node.kind = (inferKind schema inner.path).value := by
  rw [← h.value_eq]
  exact (typed_value below tupleItems inner schema).2

theorem kind_of_outline {d : DocumentOutline} (h : (outline tupleItems schema).Yields d) :
    d.root.node.kind = .object := by
  rw [← h.value_eq, outline_eq]
  exact Body.kind_ofFragment .object schema

theorem hanging_of_typed {below : Reader} {inner : Inner}
    (h : (typed below tupleItems inner schema).Yields o) :
    (partsOf below tupleItems o.node.kind schema inner.path).Calm ∧
      o.hanging = (partsOf below tupleItems o.node.kind schema inner.path).value.children.map
        fun o => (.child, o) := by
  have hkind := kind_of_typed h
  obtain ⟨hvalue, hc⟩ := h
  rw [typed_eq] at hvalue hc
  simp only [value_bind, value_pure, calm_bind_iff] at hvalue hc
  rw [hkind]
  exact ⟨hc.2.2.1, by rw [← hvalue]; rfl⟩

/-! ## Groups of an object -/

/-- Each of the groups of an object has the form of its kind. -/
theorem groupKind?_of_mem_ownGroups {c : GroupKind × Members} (h : c ∈ ownGroups schema) :
    groupKind? (.obj c.2) = some c.1 := by
  have hlist : ∀ kind ∈ listGroups, c ∈ listGroup schema kind →
      groupKind? (.obj c.2) = some c.1 := by
    intro kind hkind h
    unfold listGroup at h
    split at h
    · cases h
    · split_ifs at h with hsome
      · rw [List.mem_singleton.1 h]
        exact groupKind?_lone hkind hsome
      · cases h
  unfold ownGroups at h
  simp only [List.mem_append] at h
  rcases h with ((h | h) | h) | h
  · unfold blockGroup at h
    split_ifs at h with hblock
    · rw [List.mem_singleton.1 h]
      exact hblock.2
    · cases h
  · unfold entryGroups at h
    split at h
    · obtain ⟨entry, _, hentry⟩ := List.mem_filterMap.1 h
      unfold entryGroup? at hentry
      split at hentry
      · next hkind =>
        obtain rfl := Option.some.inj hentry
        exact hkind
      · cases hentry
    · cases h
  · exact hlist .anyOf (by decide) h
  · exact hlist .oneOf (by decide) h

/-! ## What hangs below -/

theorem branchInner_schema (members : Members) (k : EdgeKind) (path : String) :
    (branchInner members k path).schema = branchSchema (.obj members) := by
  unfold branchSchema branchInner
  dsimp only
  split
  · split
    · split <;> rfl
    · rfl
  · rfl

theorem ReadFrom.of_branch {depth : Nat} {b : EdgeKind × Value} {p : EdgeKind × Outline}
    (h : ReadBranch (reader tupleItems names depth) b p) :
    p.1 = b.1 ∧ ReadFrom tupleItems names (branchSchema b.2) p.2 := by
  obtain ⟨hk, path, hread⟩ := h
  refine ⟨hk, ?_⟩
  generalize b.2 = v at hread ⊢
  cases v with
  | obj members =>
    rw [← branchInner_schema members b.1 path]
    exact .schema hread
  | null | bool _ | int _ | float _ | str _ | list _ =>
    exact absurd hread.calm (not_calm_issue_bind _ _)

/-- What an edge below a node stands for, and what hangs there. -/
def ReadEdge (tupleItems : TupleItems) (names : List String) (s : EdgeKind × Value)
    (p : EdgeKind × Outline) : Prop :=
  p.1 = s.1 ∧ ReadFrom tupleItems names s.2 p.2

theorem hanging_of_object {depth : Nat} {parts : ObjectParts}
    (h : ReadObject (reader tupleItems names depth) schema parts) :
    List.Forall₂ (ReadEdge tupleItems names) (sources .object schema)
      (parts.children.map fun o => (.child, o)) := by
  obtain ⟨fields, groups, hchildren, hfields, hgroups⟩ := h.children
  rw [hchildren, List.map_append]
  refine List.rel_append ?_ ?_
  · rw [List.forall₂_map_left_iff, List.forall₂_map_right_iff]
    exact hfields.imp fun p o ⟨_, _, ho⟩ => ⟨rfl, .schema ho⟩
  · rw [List.forall₂_map_left_iff, List.forall₂_map_right_iff]
    refine (forall₂_with_mem hgroups).imp fun c o ⟨hmem, _, _, _, ho⟩ => ⟨rfl, ?_⟩
    exact .group (groupKind?_of_mem_ownGroups hmem) ho

theorem hanging_of_group {depth : Nat} {kind : GroupKind} {taken : List String} {path : String}
    (hkind : groupKind? (.obj schema) = some kind)
    (h : (group (reader tupleItems names depth) kind schema taken path).Yields o) :
    o.node.kind = .group kind ∧
      List.Forall₂ (ReadEdge tupleItems names) (sources (.group kind) schema) o.hanging := by
  obtain ⟨parts, n, hvalue, hbody, hread⟩ :=
    group_of_calm (someReader_reader tupleItems names depth) hkind h.calm
  obtain rfl : o = .mk n parts.below := h.value_eq.symm.trans hvalue
  refine ⟨congrArg Body.kind hbody, ?_⟩
  unfold sources
  rw [List.forall₂_map_left_iff]
  exact hread.below.imp fun b p hb => ReadFrom.of_branch hb

/-- What hangs below a node is read from its sources. -/
theorem hanging_of_readFrom (h : ReadFrom tupleItems names v o) :
    ∃ members, v = .obj members ∧
      List.Forall₂ (ReadEdge tupleItems names) (sources o.node.kind members) o.hanging := by
  cases h with
  | @schema depth inner o h =>
    obtain ⟨depth, members, rfl, hschema, ⟨kind, hkind, hgroup⟩ | hpointing | htyped⟩ :=
      cases_of_reader h
    · obtain ⟨hk, hhanging⟩ := hanging_of_group hkind hgroup
      exact ⟨members, hschema, hk ▸ hhanging⟩
    · refine ⟨members, hschema, ?_⟩
      rw [kind_of_pointing hpointing, ← hpointing.value_eq]
      exact .nil
    · refine ⟨members, hschema, ?_⟩
      obtain ⟨hparts, hhanging⟩ := hanging_of_typed htyped
      have hmem := inferKind_cases members inner.path
      rw [← kind_of_typed htyped] at hmem
      rw [hhanging]
      have hs := someReader_reader tupleItems names depth
      generalize o.node.kind = kind at hparts hmem ⊢
      cases kind with
      | object => exact hanging_of_object (readObject_of_calm hs hparts)
      | array =>
        have hitem := item_of_calm hs (calm_bind_iff.1 hparts).1
        show List.Forall₂ _ ((itemIn? members).toList.map _)
          ((arrayItem _ tupleItems members inner.path).value.toList.map _)
        generalize itemIn? members = item at hitem
        generalize (arrayItem _ tupleItems members inner.path).value = child at hitem
        cases hitem with
        | none => exact .nil
        | some ho =>
          obtain ⟨_, _, ho⟩ := ho
          exact .cons ⟨rfl, .schema ho⟩ .nil
      | string | number | boolean | enum => exact .nil
      | group _ | definition | reference => simp at hmem
  | @group depth kind members taken path o hkind h =>
    obtain ⟨hk, hhanging⟩ := hanging_of_group hkind h
    exact ⟨members, rfl, hk ▸ hhanging⟩
  | @document members d hnames h =>
    refine ⟨members, rfl, ?_⟩
    obtain ⟨hvalue, hc⟩ := id h
    rw [outline_eq] at hvalue hc
    simp only [value_bind, value_pure, calm_bind_iff] at hvalue hc
    obtain ⟨_, _, _, hparts, _⟩ := hc
    have hread := readObject_of_calm (someReader_reader tupleItems _ _) hparts
    subst hnames
    rw [kind_of_outline h, ← hvalue]
    exact hanging_of_object hread

/-- What is read as a group has the form of one, and its clauses point at its branches. -/
theorem group_of_readFrom (h : ReadFrom tupleItems names (.obj schema) o) {kind : GroupKind}
    (hk : o.node.kind = .group kind) :
    groupKind? (.obj schema) = some kind ∧ ∃ depth parts,
      ReadGroupParts (reader tupleItems names depth) kind schema parts ∧
        o.node.body = .group kind parts.clauses ∧ o.hanging = parts.below := by
  have hgroup : ∃ depth kind' taken path, groupKind? (.obj schema) = some kind' ∧
      (group (reader tupleItems names depth) kind' schema taken path).Yields o := by
    generalize hv : Value.obj schema = v at h
    cases h with
    | @schema depth inner o h =>
      obtain ⟨depth, members, rfl, hschema, ⟨kind', hkind, hgroup⟩ | hpointing | htyped⟩ :=
        cases_of_reader h
      · cases hv.trans hschema
        rw [hschema]
        exact ⟨depth, kind', [], inner.path, hkind, hgroup⟩
      · rw [kind_of_pointing hpointing] at hk
        cases hk
      · have hmem := inferKind_cases members inner.path
        rw [← kind_of_typed htyped, hk] at hmem
        simp at hmem
    | @group depth kind' members taken path o hkind h =>
      obtain rfl := Value.obj.inj hv
      exact ⟨depth, kind', taken, path, hkind, h⟩
    | @document members d hnames h =>
      rw [kind_of_outline h] at hk
      cases hk
  obtain ⟨depth, kind', taken, path, hkind, hread⟩ := hgroup
  obtain ⟨parts, n, hvalue, hbody, hparts⟩ :=
    group_of_calm (someReader_reader tupleItems names depth) hkind hread.calm
  obtain rfl : o = .mk n parts.below := hread.value_eq.symm.trans hvalue
  obtain rfl : kind' = kind := by
    have heq := (congrArg Body.kind hbody).symm.trans hk
    exact NodeKind.group.inj heq
  exact ⟨hkind, depth, parts, hparts, hbody, rfl⟩

end Decompile

end FormGraph

import FormGraph.Proofs.Reread.Condition
import FormGraph.Proofs.Reread.Node

/-!
# The kind of a written node

A written node is read as one of its own kind: a reference by its pointer, an enumeration by its
values, anything else by its type, and a group by the keywords that it writes.
-/

namespace FormGraph

open Noted

namespace Outline

open Compile Decompile

variable {cfg : DocumentConfig} {n : Node Nat} {parts : List Part} {keywords : List String}

/-! ## Keywords that tell the kinds apart -/

theorem find?_members_of_free {k : String} (hfree : n.Free [k])
    (hinner : k ∉ innerKeywords n.kind) :
    Entries.find? (members cfg n parts) k = Entries.find? (fixed n) k := by
  have hnone : Entries.find? (inner cfg n parts) k = none :=
    Entries.find?_eq_none_iff.2 fun h => hinner (names_inner_subset h)
  rw [find?_members, hnone, hfree.find? (List.mem_singleton_self _), Option.none_or,
    Option.or_none]

theorem find?_members_eq_none {k : String} (hfree : n.Free [k]) (hinner : k ∉ innerKeywords n.kind)
    (hfixed : k ∉ fixedKeywords n.kind) (hannotated : k ∉ annotationKeywords) :
    Entries.find? (members cfg n parts) k = none := by
  rw [find?_members_of_free hfree hinner, Entries.find?_eq_none_iff]
  intro h
  rcases names_fixed_subset h with h | h
  · exact hannotated h
  · exact hfixed h

theorem Labelled.free_of_mem (hl : Labelled n keywords) {k : String} (hk : k ∈ keywords) :
    n.Free [k] := by
  intro k' hk'
  rw [List.mem_singleton.1 hk']
  exact hl.free k (List.mem_append_right _ hk)

/-- Only a reference has a pointer, only an enumeration lists values. -/
theorem find?_members_ref (hl : Labelled n (reserved n.kind)) (hg : n.kind.isGroup = false)
    (hr : n.kind ≠ .reference) : Entries.find? (members cfg n parts) "$ref" = none := by
  refine find?_members_eq_none (hl.free_of_mem ?_) ?_ ?_ (by decide)
  all_goals
    generalize n.kind = kind at hg hr
    cases kind with
    | group _ => simp [NodeKind.isGroup] at hg
    | reference => exact absurd rfl hr
    | string | number | boolean | enum | object | array | definition => decide

theorem find?_members_enum (hl : Labelled n (reserved n.kind)) (hg : n.kind.isGroup = false)
    (hr : n.kind ≠ .reference) (he : n.kind ≠ .enum) :
    Entries.find? (members cfg n parts) "enum" = none := by
  refine find?_members_eq_none (hl.free_of_mem ?_) ?_ ?_ (by decide)
  all_goals
    generalize n.kind = kind at hg hr he
    cases kind with
    | group _ => simp [NodeKind.isGroup] at hg
    | reference => exact absurd rfl hr
    | enum => exact absurd rfl he
    | string | number | boolean | object | array | definition => decide

theorem find?_members_type (hfree : n.Free ["type"]) (ht : n.kind.isTyped = true) :
    Entries.find? (members cfg n parts) "type" = some (.str n.kind.name) := by
  have hkinds : n.kind.isGroup = false ∧ n.kind ≠ .reference ∧
      "type" ∉ innerKeywords n.kind ∧ "type" ∉ Body.vocabulary n.kind := by
    generalize n.kind = kind at ht
    cases kind with
    | string | number | boolean | object | array => decide
    | enum | group _ | definition | reference => simp [NodeKind.isTyped] at ht
  obtain ⟨hg, hr, hinner, hvocabulary⟩ := hkinds
  rw [find?_members_of_free hfree hinner, find?_fixed hg hr,
    Body.find?_keywords_eq_none _ hvocabulary, find?_head, if_pos ⟨rfl, ht⟩, Option.none_or]

/-- A node that declares its type has no other one among its extras. -/
theorem Labelled.free_type (hl : Labelled n (reserved n.kind)) (ht : n.kind.isTyped = true) :
    n.Free ["type"] := by
  refine hl.free_of_mem ?_
  generalize n.kind = kind at ht
  cases kind with
  | string | number | boolean | object | array => decide
  | enum | group _ | definition | reference => simp [NodeKind.isTyped] at ht

/-- The values of an enumeration that is well typed are a list. -/
theorem values_of_types {a : EnumAttributes} (h : Check.attributeTypes (.enum a : Body Nat) = []) :
    ∃ vs, a.values = .list vs := by
  have hlist : Check.isList a.values = true := by
    by_contra hnot
    rw [Check.attributeTypes, if_neg hnot] at h
    simp at h
  unfold Check.isList Value.list? at hlist
  cases hv : a.values with
  | list vs => exact ⟨vs, rfl⟩
  | null | bool _ | int _ | float _ | str _ | obj _ =>
    rw [hv] at hlist
    simp at hlist

theorem has_members_enum (hl : Labelled n (reserved n.kind)) (he : n.kind = .enum)
    (ht : Check.attributeTypes n.body = []) :
    Entries.has (members cfg n parts) "enum" = true := by
  have hfree : n.Free ["enum"] := hl.free_of_mem (by rw [he]; decide)
  unfold Entries.has
  rw [find?_members_of_free hfree (by rw [he]; decide),
    find?_fixed (by rw [he]; rfl) (by rw [he]; decide)]
  unfold Node.kind at he
  cases hb : n.body with
  | enum a =>
    rw [hb] at ht
    obtain ⟨vs, hvs⟩ := values_of_types ht
    have hfind := EnumAttributes.set.find?_keywords a (by decide)
      (f := ⟨"values", "enum", (·.values), fun a v => { a with values := v }⟩)
      (by simp [EnumAttributes.set])
    dsimp only [Body.keywords] at hfind ⊢
    rw [hfind, hvs]
    rfl
  | string _ | number _ | boolean | object _ | array _ | group _ _ | definition _ | reference _ =>
    rw [hb] at he
    simp [Body.kind] at he

theorem find?_members_pointer (hl : Labelled n (reserved n.kind)) {target : Value}
    (hb : n.body = .reference target) :
    Entries.find? (members cfg n parts) "$ref" = some (.str (pointer target)) := by
  have hk : n.kind = .reference := by rw [Node.kind, hb]; rfl
  rw [find?_members_of_free (hl.free_of_mem (by rw [hk]; decide)) (by rw [hk]; decide)]
  unfold fixed
  rw [hb]
  rfl

/-! ## Kinds -/

/-- The kind of a typed node or an enumeration is read back. -/
theorem inferKind_yields (hl : Labelled n (reserved n.kind)) (hg : n.kind.isGroup = false)
    (hr : n.kind ≠ .reference) (hd : n.kind ≠ .definition) (ht : Check.attributeTypes n.body = [])
    (path : String) : (inferKind (members cfg n parts) path).Yields n.kind := by
  rw [inferKind_eq]
  by_cases he : n.kind = .enum
  · rw [if_pos (has_members_enum hl he ht), he]
    exact .pure _
  · have htyped : n.kind.isTyped = true ∧ kindOfType? n.kind.name = some n.kind := by
      generalize n.kind = kind at hg hr hd he
      cases kind with
      | string | number | boolean | object | array => exact ⟨rfl, rfl⟩
      | enum => exact absurd rfl he
      | group _ => simp [NodeKind.isGroup] at hg
      | definition => exact absurd rfl hd
      | reference => exact absurd rfl hr
    have hnone : Entries.has (members cfg n parts) "enum" = false := by
      rw [Entries.has, find?_members_enum hl hg hr he]
      rfl
    rw [if_neg (by rw [hnone]; decide)]
    have htype : Value.member (members cfg n parts) "type" = .str n.kind.name := by
      rw [Value.member, find?_members_type (hl.free_type htyped.1) htyped.1]
      rfl
    unfold declaredType kindOfDeclared
    rw [htype]
    dsimp only
    rw [pure_bind]
    dsimp only
    rw [htyped.2]
    exact .pure _

/-- A field is read as a field where it is the one property that a branch lists. -/
theorem isWrappable_members (hl : Labelled n (reserved n.kind)) (ha : n.isAddressable = true)
    (ht : Check.attributeTypes n.body = []) :
    isWrappable (.obj (members cfg n parts)) = true := by
  have hkinds : n.kind.isGroup = false ∧ n.kind ≠ .reference ∧
      (n.kind ≠ .enum → n.kind.isTyped = true ∧ kindOfType? n.kind.name = some n.kind) := by
    unfold Node.isAddressable at ha
    generalize n.kind = kind at ha
    cases kind with
    | string | number | boolean | enum | array => decide
    | object | group _ | definition | reference => simp [NodeKind.isAddressable] at ha
  obtain ⟨hg, hr, htyped⟩ := hkinds
  have href : Entries.has (members cfg n parts) "$ref" = false := by
    rw [Entries.has, find?_members_ref hl hg hr]
    rfl
  unfold isWrappable
  dsimp only
  rw [if_neg (by rw [href]; decide)]
  by_cases he : n.kind = .enum
  · rw [if_pos (has_members_enum hl he ht)]
  · have hnone : Entries.has (members cfg n parts) "enum" = false := by
      rw [Entries.has, find?_members_enum hl hg hr he]
      rfl
    have htype : Value.member (members cfg n parts) "type" = .str n.kind.name := by
      rw [Value.member, find?_members_type (hl.free_type (htyped he).1) (htyped he).1]
      rfl
    rw [if_neg (by rw [hnone]; decide), htype]
    dsimp only
    rw [(htyped he).2]
    exact ha

/-- A node that is no group says so by its keywords. -/
theorem hasAny_members (hl : Labelled n (reserved n.kind)) (hg : n.kind.isGroup = false)
    (hd : n.kind ≠ .definition) (ht : Check.attributeTypes n.body = []) :
    hasAny (members cfg n parts) ["type", "$ref", "enum", "properties", "items"] = true := by
  unfold hasAny
  rw [List.any_eq_true]
  cases hb : n.body with
  | string _ | number _ | boolean | object _ | array _ =>
    have htyped : n.kind.isTyped = true := by
      rw [Node.kind, hb]
      rfl
    refine ⟨"type", by decide, ?_⟩
    rw [Entries.has, find?_members_type (hl.free_type htyped) htyped]
    rfl
  | enum a => exact ⟨"enum", by decide, has_members_enum hl (by rw [Node.kind, hb]; rfl) ht⟩
  | reference target =>
    refine ⟨"$ref", by decide, ?_⟩
    rw [Entries.has, find?_members_pointer hl hb]
    rfl
  | group _ _ =>
    rw [Node.kind, hb] at hg
    simp [Body.kind, NodeKind.isGroup] at hg
  | definition _ => exact absurd (by rw [Node.kind, hb]; rfl) hd

/-- A field is never read as a group. -/
theorem bareGroupKind?_members_eq_none (hl : Labelled n (reserved n.kind))
    (hg : n.kind.isGroup = false) (hd : n.kind ≠ .definition)
    (ht : Check.attributeTypes n.body = []) :
    bareGroupKind? (.obj (members cfg n parts)) = none := by
  unfold bareGroupKind?
  dsimp only
  rw [if_pos (hasAny_members hl hg hd ht)]

end Outline

end FormGraph

import FormGraph.Proofs.Reading.Traverse
import FormGraph.Proofs.Reading.Usable

/-!
# What is read of the keywords of an object

An object's children are read from a handful of keywords. Each of these keywords is consumed, or it
stands for something that is no child: properties that are `null`, a test that cannot be read as one,
a list that cannot be read as a group. Of an `allOf` list what is kept are the entries that cannot be
read as groups.
-/

namespace FormGraph

open Noted

namespace Decompile

variable {below : Reader} {schema : Members} {path : String}

/-- How each keyword of an object's children was dealt with. -/
structure ObjectParts.Accounts (schema : Members) (parts : ObjectParts) : Prop where
  /-- The required keys are read. -/
  required : "required" ∈ Entries.names schema → "required" ∈ parts.consumed
  /-- The properties are read, or they are `null` and there are no fields. -/
  properties : ∀ v, Entries.find? schema "properties" = some v →
    "properties" ∈ parts.consumed ∨ v = .null ∧ ∀ o ∈ parts.children, o.node.kind.isGroup = true
  /-- The `if` block is read, or its test is none. -/
  block : ∀ test, Entries.find? schema "if" = some test →
    "if" ∈ parts.consumed ∨ isTest test = false
  /-- The `allOf` list is read. -/
  allOf : ∀ items, Entries.find? schema "allOf" = some (.list items) → "allOf" ∈ parts.consumed
  /-- Another list is read, or it is no group. -/
  lists : ∀ kind ∈ [GroupKind.anyOf, .oneOf], ∀ v, Entries.find? schema kind.name = some v →
    kind.name ∈ parts.consumed ∨ groupKind? (.obj [(kind.name, v)]) = none
  /-- What is kept are the entries of the `allOf` list that are no groups. -/
  kept : parts.kept = [] ∨ "allOf" ∈ parts.consumed ∧
    ∃ items others, Entries.find? schema "allOf" = some (.list items) ∧
      parts.kept = [("allOf", .list others)] ∧ others ≠ [] ∧
      ∀ v ∈ others, v ∈ items ∧ groupKind? v = none

/-- A step adds groups to the children, and keywords to those that are consumed. -/
structure ObjectParts.Grows (parts next : ObjectParts) : Prop where
  /-- What was consumed still is. -/
  consumed : parts.consumed ⊆ next.consumed
  /-- Groups come behind the children there are. -/
  children : ∃ groups, next.children = parts.children ++ groups ∧
    ∀ o ∈ groups, o.node.kind.isGroup = true

namespace ObjectParts

variable {parts next last : ObjectParts}

theorem Grows.refl (parts : ObjectParts) : parts.Grows parts :=
  ⟨List.Subset.refl _, [], (List.append_nil _).symm, fun _ h => absurd h List.not_mem_nil⟩

theorem Grows.trans (h : parts.Grows next) (h' : next.Grows last) : parts.Grows last := by
  obtain ⟨groups, hc, hg⟩ := h.children
  obtain ⟨more, hc', hg'⟩ := h'.children
  refine ⟨List.Subset.trans h.consumed h'.consumed, groups ++ more, ?_, ?_⟩
  · rw [hc', hc, List.append_assoc]
  · exact List.forall_mem_append.2 ⟨hg, hg'⟩

end ObjectParts

theorem isGroup_group (below : Reader) (kind : GroupKind) (schema : Members) (taken : List String)
    (path : String) : (group below kind schema taken path).value.node.kind.isGroup = true := by
  rw [group_eq]
  rfl

theorem grows_childGroup (below : Reader) (kind : GroupKind) (schema : Members) (path : String)
    (consumed : List String) (parts : ObjectParts) :
    parts.Grows (childGroup below kind schema path consumed parts).value :=
  ⟨List.subset_append_left _ _, [_], rfl, fun o ho => by
    rw [List.mem_singleton.1 ho]
    exact isGroup_group below kind schema _ path⟩

theorem groupKind?_of_if {members : Members} {test : Value}
    (hif : Entries.find? members "if" = some test) (htest : isTest test = true) :
    groupKind? (.obj members) = some .ifBlock := by
  unfold groupKind?
  dsimp only
  rw [hif]
  dsimp only
  rw [if_pos htest]

theorem ownBlock_accounts (below : Reader) (schema : Members) (path : String)
    (parts : ObjectParts) :
    parts.Grows (ownBlock below schema path parts).value ∧
      (ownBlock below schema path parts).value.kept = parts.kept ∧
      ∀ test, Entries.find? schema "if" = some test →
        "if" ∈ (ownBlock below schema path parts).value.consumed ∨ isTest test = false := by
  unfold ownBlock
  split
  · dsimp only
    have hblock : Entries.find? (clauseKeywords.filterMap fun k =>
        (Entries.find? schema k).map fun v => (k, v)) "if" = Entries.find? schema "if" :=
      find?_picked schema (by decide)
    generalize (clauseKeywords.filterMap fun k => (Entries.find? schema k).map fun v => (k, v)) =
      block at hblock ⊢
    split
    · refine ⟨grows_childGroup _ _ _ _ _ _, rfl, fun test htest => .inl ?_⟩
      refine List.mem_append_right _ (Entries.mem_names_iff.2 ?_)
      rw [hblock, htest]
      rfl
    · next hkind =>
      refine ⟨.refl _, rfl, fun test htest => .inr ?_⟩
      rw [← Bool.not_eq_true]
      exact fun h => hkind (groupKind?_of_if (hblock.trans htest) h)
  · next hnone =>
    refine ⟨.refl _, rfl, fun test htest => ?_⟩
    rw [Entries.has, htest] at hnone
    exact absurd rfl hnone

theorem ownListGroup_accounts (below : Reader) (schema : Members) (path : String)
    (parts : ObjectParts) (kind : GroupKind) :
    parts.Grows (ownListGroup below schema path parts kind).value ∧
      (ownListGroup below schema path parts kind).value.kept = parts.kept ∧
      ∀ v, Entries.find? schema kind.name = some v →
        kind.name ∈ (ownListGroup below schema path parts kind).value.consumed ∨
          groupKind? (.obj [(kind.name, v)]) = none := by
  unfold ownListGroup
  split
  · next hnone =>
    refine ⟨.refl _, rfl, fun v hv => ?_⟩
    rw [hnone] at hv
    cases hv
  · next entries hfind =>
    dsimp only
    split
    · exact ⟨grows_childGroup _ _ _ _ _ _, rfl, fun _ _ =>
        .inl (List.mem_append_right _ (List.mem_singleton_self _))⟩
    · next hkind =>
      refine ⟨.refl _, rfl, fun v hv => .inr ?_⟩
      rw [hfind] at hv
      obtain rfl := Option.some.inj hv
      exact Option.not_isSome_iff_eq_none.1 hkind

theorem allOfEntries_account (below : Reader) (path : String) {items : List Value}
    {entries : List (Value × Nat)} (hitems : ∀ p ∈ entries, p.1 ∈ items)
    (acc : ObjectParts × List Value) (h : ∀ v ∈ acc.2, v ∈ items ∧ groupKind? v = none) :
    acc.1.Grows (entries.foldlM (allOfEntry below path) acc).value.1 ∧
      (entries.foldlM (allOfEntry below path) acc).value.1.kept = acc.1.kept ∧
      ∀ v ∈ (entries.foldlM (allOfEntry below path) acc).value.2,
        v ∈ items ∧ groupKind? v = none := by
  induction entries generalizing acc with
  | nil => exact ⟨.refl _, rfl, h⟩
  | cons p entries ih =>
    have hstep : acc.1.Grows (allOfEntry below path acc p).value.1 ∧
        (allOfEntry below path acc p).value.1.kept = acc.1.kept ∧
        ∀ v ∈ (allOfEntry below path acc p).value.2, v ∈ items ∧ groupKind? v = none := by
      unfold allOfEntry
      split
      · exact ⟨grows_childGroup _ _ _ _ _ _, rfl, h⟩
      · next v kind hnot =>
        refine ⟨.refl _, rfl, List.forall_mem_append.2 ⟨h, ?_⟩⟩
        rw [List.forall_mem_singleton]
        refine ⟨hitems p List.mem_cons_self, ?_⟩
        cases hv : p.1 with
        | obj members =>
          cases hkind : groupKind? (.obj members) with
          | none => rfl
          | some kind => exact (hnot members kind hv (hv ▸ hkind)).elim
        | null | bool _ | int _ | float _ | str _ | list _ => rfl
    rw [List.foldlM_cons, value_bind]
    obtain ⟨hgrows, hkept, hothers⟩ :=
      ih (fun p hp => hitems p (List.mem_cons_of_mem _ hp)) _ hstep.2.2
    exact ⟨hstep.1.trans hgrows, hkept.trans hstep.2.1, hothers⟩

theorem ownAllOf_accounts (below : Reader) (schema : Members) (path : String)
    {parts : ObjectParts} (hnone : parts.kept = []) :
    parts.Grows (ownAllOf below schema path parts).value ∧
      (∀ items, Entries.find? schema "allOf" = some (.list items) →
        "allOf" ∈ (ownAllOf below schema path parts).value.consumed) ∧
      ((ownAllOf below schema path parts).value.kept = [] ∨
        "allOf" ∈ (ownAllOf below schema path parts).value.consumed ∧
          ∃ items others, Entries.find? schema "allOf" = some (.list items) ∧
            (ownAllOf below schema path parts).value.kept = [("allOf", .list others)] ∧
            others ≠ [] ∧ ∀ v ∈ others, v ∈ items ∧ groupKind? v = none) := by
  rw [ownAllOf_eq]
  cases hmember : Value.member schema "allOf" with
  | list items =>
    have hfind : Entries.find? schema "allOf" = some (.list items) := by
      unfold Value.member at hmember
      cases h : Entries.find? schema "allOf" with
      | none => simp [h] at hmember
      | some v =>
        rw [h] at hmember
        exact congrArg some hmember
    obtain ⟨hgrows, hkept, hothers⟩ := allOfEntries_account below path
      (fun p (hp : p ∈ items.zipIdx) => List.fst_mem_of_mem_zipIdx hp)
      ({ parts with consumed := parts.consumed ++ ["allOf"] }, []) (by simp)
    dsimp only
    rw [value_bind]
    generalize (items.zipIdx.foldlM (allOfEntry below path)
      ({ parts with consumed := parts.consumed ++ ["allOf"] }, [])).value = acc
      at hgrows hkept hothers ⊢
    have hmem : "allOf" ∈ acc.1.consumed :=
      hgrows.consumed (List.mem_append_right _ (List.mem_singleton_self _))
    have hgrows' : parts.Grows acc.1 :=
      ⟨List.Subset.trans (List.subset_append_left _ _) hgrows.consumed, hgrows.children⟩
    unfold keepOthers
    split
    · exact ⟨hgrows', fun _ _ => hmem, .inl (hkept.trans hnone)⟩
    · next hsome =>
      refine ⟨⟨hgrows'.consumed, hgrows'.children⟩, fun _ _ => hmem,
        .inr ⟨hmem, items, acc.2, hfind, rfl, ?_, hothers⟩⟩
      rwa [List.isEmpty_iff] at hsome
  | null | bool _ | int _ | float _ | str _ | obj _ =>
    refine ⟨.refl _, fun items hitems => ?_, .inl hnone⟩
    rw [Value.member, hitems] at hmember
    cases hmember

/-- `required` is dealt with where it is read calmly. -/
theorem mem_requiredOf (hc : (requiredOf schema path).Calm)
    (hmem : "required" ∈ Entries.names schema) :
    "required" ∈ (requiredOf schema path).value.2 := by
  unfold requiredOf at hc ⊢
  cases hfind : Entries.find? schema "required" with
  | none => exact absurd hmem (Entries.find?_eq_none_iff.1 hfind)
  | some v =>
    rw [hfind] at hc
    cases v with
    | list items =>
      dsimp only at hc ⊢
      split
      · exact List.mem_singleton_self _
      · next hnot =>
        rw [if_neg hnot] at hc
        exact absurd hc (not_calm_issue_bind _ _)
    | null | bool _ | int _ | float _ | str _ | obj _ =>
      exact absurd hc (not_calm_issue_bind _ _)

/-- So is `properties`, unless it is null. -/
theorem mem_propertiesOf (hc : (propertiesOf schema path).Calm) {v : Value}
    (hv : Entries.find? schema "properties" = some v) :
    "properties" ∈ (propertiesOf schema path).value.2 ∨
      v = .null ∧ (propertiesOf schema path).value.1 = [] := by
  have hmember : Value.member schema "properties" = v := by rw [Value.member, hv]; rfl
  unfold propertiesOf at hc ⊢
  rw [hmember] at hc ⊢
  cases v with
  | null => exact .inr ⟨rfl, rfl⟩
  | obj properties => exact .inl (List.mem_singleton_self _)
  | bool _ | int _ | float _ | str _ | list _ => exact absurd hc (not_calm_issue_bind _ _)

/-- Every keyword of an object's children is dealt with when the object is read calmly. -/
theorem accounts_objectParts (hc : (objectParts below schema path).Calm) :
    (objectParts below schema path).value.Accounts schema := by
  unfold objectParts at hc ⊢
  simp only [value_bind, calm_bind_iff] at hc ⊢
  obtain ⟨hrequired, hproperties, _⟩ := hc
  have hreq := mem_requiredOf hrequired
  have hprop := fun {v} => mem_propertiesOf (v := v) hproperties
  generalize (requiredOf schema path).value = req at hreq ⊢
  generalize (propertiesOf schema path).value = read at hprop ⊢
  generalize hstart : ({ children := _, consumed := req.2 ++ read.2 } : ObjectParts) = start
  have hconsumed : start.consumed = req.2 ++ read.2 := by rw [← hstart]
  have hkept₀ : start.kept = [] := by rw [← hstart]
  have hnofields : read.1 = [] → start.children = [] := by
    intro h
    rw [← hstart, h]
    rfl
  obtain ⟨hgrows₁, hkept₁, hblock⟩ := ownBlock_accounts below schema path start
  generalize (ownBlock below schema path start).value = parts₁ at hgrows₁ hkept₁ hblock ⊢
  obtain ⟨hgrows₂, hallOf, hkept₂⟩ := ownAllOf_accounts below schema path (hkept₁.trans hkept₀)
  generalize (ownAllOf below schema path parts₁).value = parts₂ at hgrows₂ hallOf hkept₂ ⊢
  obtain ⟨hgrows₃, hkept₃, hanyOf⟩ := ownListGroup_accounts below schema path parts₂ .anyOf
  generalize (ownListGroup below schema path parts₂ .anyOf).value = parts₃
    at hgrows₃ hkept₃ hanyOf ⊢
  obtain ⟨hgrows₄, hkept₄, honeOf⟩ := ownListGroup_accounts below schema path parts₃ .oneOf
  generalize (ownListGroup below schema path parts₃ .oneOf).value = parts₄
    at hgrows₄ hkept₄ honeOf ⊢
  have hgrows₂₄ := hgrows₃.trans hgrows₄
  have hgrows₁₄ := hgrows₂.trans hgrows₂₄
  have hgrows := hgrows₁.trans hgrows₁₄
  refine ⟨fun h => hgrows.consumed ?_, fun v hv => ?_, fun test htest => ?_,
    fun items hitems => hgrows₂₄.consumed (hallOf items hitems), ?_, ?_⟩
  · rw [hconsumed]
    exact List.mem_append_left _ (hreq h)
  · refine (hprop hv).imp (fun h => hgrows.consumed ?_) fun ⟨hnull, hnil⟩ => ⟨hnull, ?_⟩
    · rw [hconsumed]
      exact List.mem_append_right _ h
    · obtain ⟨groups, hchildren, hgroups⟩ := hgrows.children
      rw [hchildren, hnofields hnil, List.nil_append]
      exact hgroups
  · exact (hblock test htest).imp_left fun h => hgrows₁₄.consumed h
  · intro kind hkind v hv
    simp only [List.mem_cons, List.not_mem_nil, or_false] at hkind
    rcases hkind with rfl | rfl
    · exact (hanyOf v hv).imp_left fun h => hgrows₄.consumed h
    · exact honeOf v hv
  · rw [hkept₄, hkept₃]
    exact hkept₂.imp_right fun ⟨h, hothers⟩ => ⟨hgrows₂₄.consumed h, hothers⟩

end Decompile

end FormGraph

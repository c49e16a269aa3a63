import FormGraph.Proofs.Kept.Place
import FormGraph.Proofs.Reread.Document

/-!
# What a node keeps of its schema

Every keyword of a schema goes one of three ways into the node that is made of it: its title,
description and default are annotations, the keywords of its kind are attributes or a target, and what
is not read is left among the extras. Each way leads back into what is written of the node
(`find?_members_of_carries`). The schemas of properties and items are read as children where the kind
has such children, and left as they are where it has none; so when the readers of the children keep
their schemas, the reader of the whole schema does (`keepsReader_schema`).
-/

namespace FormGraph

open Noted Value

/-! ## Attributes -/

/-- What an attribute set reads of a schema it writes again. -/
theorem AttributeSet.find?_keywords_ofFragment {σ : Type} (s : AttributeSet σ)
    (hd : s.vocabulary.Nodup) {schema : Members} {k : String} {v : Value}
    (hget : ∀ f ∈ s.written, Entries.find? schema f.keyword = some v →
      f.get (s.ofFragment schema) = v)
    (hk : k ∈ s.vocabulary) (hfind : Entries.find? schema k = some v) (hv : v ≠ .null) :
    Entries.find? (s.keywords (s.ofFragment schema)) k = some v := by
  obtain ⟨f, hf, rfl⟩ := List.mem_map.1 hk
  rw [s.find?_keywords _ hd hf, hget f hf hfind]
  unfold Value.set?
  cases v with
  | null => exact absurd rfl hv
  | bool _ | int _ | float _ | str _ | list _ | obj _ => rfl

/-- The attributes that are read of a schema are written as they were. -/
theorem Body.find?_keywords_ofFragment {kind : NodeKind} {schema : Members} {k : String} {v : Value}
    (hk : k ∈ vocabulary kind) (hfind : Entries.find? schema k = some v) (hv : v ≠ .null) :
    Entries.find? (ofFragment kind schema : Body Nat).keywords k = some v := by
  have hmember : ∀ {name : String}, Entries.find? schema name = some v →
      Value.member schema name = v := fun h => by rw [Value.member, h, Option.getD_some]
  cases kind with
  | string =>
    refine StringAttributes.set.find?_keywords_ofFragment (by decide) ?_ hk hfind hv
    rw [StringAttributes.ofFragment_eq]
    simpa [StringAttributes.set] using ⟨hmember, hmember, hmember, hmember⟩
  | number =>
    refine NumberAttributes.set.find?_keywords_ofFragment (by decide) ?_ hk hfind hv
    rw [NumberAttributes.ofFragment_eq]
    simpa [NumberAttributes.set] using ⟨hmember, hmember, hmember, hmember, hmember⟩
  | enum =>
    refine EnumAttributes.set.find?_keywords_ofFragment (by decide) ?_ hk hfind hv
    rw [EnumAttributes.ofFragment_eq]
    have hvalues : Entries.find? schema "enum" = some v →
        (Entries.find? schema "enum").getD (.list []) = v := fun h => by rw [h, Option.getD_some]
    simpa [EnumAttributes.set] using ⟨hmember, hvalues, hmember⟩
  | object =>
    refine ObjectAttributes.set.find?_keywords_ofFragment (by decide) ?_ hk hfind hv
    rw [ObjectAttributes.ofFragment_eq]
    simpa [ObjectAttributes.set] using ⟨hmember, hmember, hmember⟩
  | array =>
    refine ArrayAttributes.set.find?_keywords_ofFragment (by decide) ?_ hk hfind hv
    rw [ArrayAttributes.ofFragment_eq]
    simpa [ArrayAttributes.set] using ⟨hmember, hmember, hmember, hmember⟩
  | boolean | group _ | definition | reference => exact absurd hk List.not_mem_nil

namespace Decompile

open Compile Outline

variable {cfg : DocumentConfig} {key : String} {body : Body Nat} {schema : Members}
  {consumed : List String} {kept : Members} {required : Bool} {parts : List Part}

/-! ## Keywords -/

/-- Every keyword that is read of a schema is interpreted, or is written again of the body alone. -/
structure Carries (schema : Members) (body : Body Nat) (consumed : List String) : Prop where
  /-- No other keyword is read. -/
  consumed : ∀ k ∈ consumed, k ∈ interpretedKeywords ∨ k ∈ fixedKeywords body.kind
  /-- What is written of the body alone was read of the schema. -/
  own : ∀ k ∈ fixedKeywords body.kind, k ∉ interpretedKeywords → ∀ v,
    Entries.find? schema k = some v → v ≠ .null →
    ∀ n : Node Nat, n.body = body → Entries.find? (fixed n) k = some v

theorem Carries.of_kind {kind : NodeKind} (hg : kind.isGroup = false) (hr : kind ≠ .reference)
    (h : ∀ k ∈ consumed, k ∈ interpretedKeywords ∨ k ∈ Body.vocabulary kind) :
    Carries schema (Body.ofFragment kind schema) consumed where
  consumed k hk := by
    refine (h k hk).imp_right fun hk => ?_
    rw [Body.kind_ofFragment]
    cases kind with
    | string | number | boolean | enum | object | array | definition =>
      exact List.mem_cons_of_mem _ hk
    | group _ => simp [NodeKind.isGroup] at hg
    | reference => exact absurd rfl hr
  own k hk hnot v hfind hv n hn := by
    have hkind : n.kind = kind := by rw [Node.kind, hn, Body.kind_ofFragment]
    have hvocabulary : k ∈ Body.vocabulary kind := by
      rw [Body.kind_ofFragment] at hk
      have htype : k ≠ "type" := by
        rintro rfl
        exact hnot (by decide)
      cases kind with
      | string | number | boolean | enum | object | array | definition =>
        exact (List.mem_cons.1 hk).resolve_left htype
      | group _ => simp [NodeKind.isGroup] at hg
      | reference => exact absurd rfl hr
    rw [find?_fixed (hkind ▸ hg) (hkind ▸ hr), hn,
      Body.find?_keywords_ofFragment hvocabulary hfind hv]
    rfl

theorem Carries.of_group {kind : GroupKind} {clauses : List (Clause Nat)} :
    Carries schema (.group kind clauses) (groupKeywords kind) where
  consumed k hk := .inl (by cases kind <;> revert k <;> decide)
  own k hk := absurd hk List.not_mem_nil

/-- A pointer that was read calmly is written as it was. -/
theorem pointer_of_calm {names : List String} {v : Value} {path : String}
    (hc : (targetOf names v path).Calm) :
    Value.str (pointer (.str (targetOf names v path).value)) = v := by
  cases v with
  | str p =>
    unfold targetOf at hc ⊢
    dsimp only at hc ⊢
    split
    · next hfront =>
      obtain ⟨rest, hrest⟩ := List.isPrefixOf_iff_prefix.1 hfront
      have hname : String.ofList (p.toList.drop pointerFront.length) = String.ofList rest := by
        rw [← hrest, ← String.length_toList, List.drop_left]
      have hp : p = pointerFront ++ String.ofList rest := by
        rw [← String.toList_inj, String.toList_append, String.toList_ofList, hrest]
      have hpointer : ∀ name, pointer (.str name) = pointerFront ++ name := fun _ => rfl
      rw [hname]
      split
      · rw [value_pure, hpointer, ← hp]
      · rw [value_bind, value_pure, hpointer, ← hp]
    · next hfront =>
      rw [if_neg hfront] at hc
      exact absurd hc (not_calm_issue_bind _ _)
  | null | bool _ | int _ | float _ | list _ | obj _ => exact absurd hc (not_calm_issue_bind _ _)

theorem Carries.of_reference {names : List String} {path : String}
    (hc : (targetOf names (Value.member schema "$ref") path).Calm) :
    Carries schema (.reference (.str (targetOf names (Value.member schema "$ref") path).value))
      ["$ref"] where
  consumed k hk := .inr hk
  own k hk _ v hfind _ n hn := by
    obtain rfl := List.mem_singleton.1 hk
    unfold fixed
    rw [hn]
    dsimp only
    rw [Entries.find?_cons, if_pos rfl, pointer_of_calm hc, Value.member, hfind, Option.getD_some]

theorem innerKeywords_subset (kind : NodeKind) : innerKeywords kind ⊆ interpretedKeywords := by
  cases kind with
  | group kind => cases kind <;> decide
  | string | number | boolean | enum | object | array | definition | reference => decide

/-- What is left of a schema is written as it was. -/
theorem find?_members_left {kind : NodeKind} (hkind : body.kind = kind) {k : String} {v : Value}
    (hfind : Entries.find? schema k = some v) (hinner : k ∉ innerKeywords kind)
    (hfixed : k ∉ fixedKeywords kind) (hannotated : k ∉ annotationKeywords)
    (hconsumed : k ∉ consumed) (hkept : k ∉ Entries.names kept) :
    Entries.find? (members cfg (madeOf key body schema consumed kept required) parts) k =
      some v := by
  subst hkind
  have hnot : Entries.find? (inner cfg (madeOf key body schema consumed kept required) parts) k =
      none := Entries.find?_eq_none_iff.2 fun h => hinner (names_inner_subset h)
  have hnone : Entries.find? (fixed (madeOf key body schema consumed kept required)) k = none :=
    Entries.find?_eq_none_iff.2 fun h => (names_fixed_subset h).elim hannotated hfixed
  have hreverse : Entries.find? kept.reverse k = none := by
    rw [Entries.find?_eq_none_iff, Entries.names, List.map_reverse, List.mem_reverse]
    exact hkept
  have hremaining : Entries.find? (remaining schema consumed) k = some v := by
    unfold remaining
    rw [Entries.find?_filter (fun k => !consumed.contains k && !annotationKeywords.contains k),
      if_pos, hfind]
    simpa using ⟨hconsumed, hannotated⟩
  rw [find?_members, hnot, hnone, Option.none_or, Option.none_or]
  show Entries.find? (Entries.putAll (remaining schema consumed) kept) k = some v
  rw [Entries.find?_putAll, hreverse, Option.none_or, hremaining]

/-- The annotations of a schema are those of the node that is made of it. -/
theorem find?_annotations_madeOf {k : String} {v : Value} (hk : k ∈ annotationKeywords)
    (hfind : Entries.find? schema k = some v) (hv : v ≠ .null) :
    Entries.find? (annotations (madeOf key body schema consumed kept required)) k = some v := by
  have hset : (Value.member schema k).set? = some v := by
    rw [Value.member, hfind, Option.getD_some]
    unfold Value.set?
    cases v with
    | null => exact absurd rfl hv
    | bool _ | int _ | float _ | str _ | list _ | obj _ => rfl
  simp only [annotationKeywords, List.mem_cons, List.not_mem_nil, or_false] at hk
  rw [find?_annotations]
  rcases hk with rfl | rfl | rfl
  · rw [if_pos rfl]
    exact hset
  · rw [if_neg (by decide), if_pos rfl]
    exact hset
  · rw [if_neg (by decide), if_neg (by decide), if_pos rfl]
    exact hfind

/-- Every keyword that is not interpreted is written as it was. -/
theorem find?_members_of_carries (hcarries : Carries schema body consumed)
    (hkept : Entries.names kept ⊆ ["allOf"]) {k : String} {v : Value}
    (hfind : Entries.find? schema k = some v) (hv : v ≠ .null) (hk : k ∉ interpretedKeywords) :
    Entries.find? (members cfg (madeOf key body schema consumed kept required) parts) k =
      some v := by
  have hinner : k ∉ innerKeywords body.kind := fun h => hk (innerKeywords_subset _ h)
  have hnot : Entries.find? (inner cfg (madeOf key body schema consumed kept required) parts) k =
      none := Entries.find?_eq_none_iff.2 fun h => hinner (names_inner_subset h)
  by_cases hannotated : k ∈ annotationKeywords
  · rw [find?_members, hnot, find?_fixed_annotated hannotated,
      find?_annotations_madeOf hannotated hfind hv]
    rfl
  by_cases hfixed : k ∈ fixedKeywords body.kind
  · rw [find?_members, hnot, hcarries.own k hfixed hk v hfind hv _ rfl]
    rfl
  · refine find?_members_left rfl hfind hinner hfixed hannotated
      (fun h => (hcarries.consumed k h).elim hk hfixed) fun h => hk ?_
    rw [List.mem_singleton.1 (hkept h)]
    decide

end Decompile

end FormGraph

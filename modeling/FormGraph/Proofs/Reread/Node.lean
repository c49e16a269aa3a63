import FormGraph.Proofs.Reread.Readable

/-!
# Reading a node back

The title, description, default and extras of a node are read back as they were; its key and
required mark come from where it stands.
-/

namespace FormGraph

open Noted

namespace Decompile

theorem textOf_yields {schema : Members} {keyword path : String}
    (h : (Value.member schema keyword).IsTextual) :
    (textOf schema keyword path).Yields (Value.member schema keyword) := by
  unfold textOf
  rcases h with h | ⟨s, h⟩
  · rw [h]
    exact .pure _
  · rw [h]
    exact .pure _

theorem isTextual_of_calm {schema : Members} {keyword path : String}
    (h : (textOf schema keyword path).Calm) :
    (Value.member schema keyword).IsTextual ∧
      (textOf schema keyword path).value = Value.member schema keyword := by
  unfold textOf at h ⊢
  cases hv : Value.member schema keyword with
  | null => exact ⟨.inl rfl, rfl⟩
  | str s => exact ⟨.inr ⟨s, rfl⟩, rfl⟩
  | bool _ | int _ | float _ | list _ | obj _ =>
    rw [hv] at h
    exact absurd h (not_calm_issue_bind _ _)

/-- What is left of a schema once the given keywords are taken out. -/
def remaining (schema : Members) (consumed : List String) : Members :=
  schema.filter fun e => !consumed.contains e.1 && !annotationKeywords.contains e.1

theorem leftovers_yields (kind : NodeKind) (schema : Members) (consumed : List String)
    (path : String) :
    (leftovers kind schema consumed path).Yields (remaining schema consumed) :=
  (Yields.forM fun _ _ => calm_warnIf _ _).bind (.pure _)

/-- The node that is made of a schema. -/
def madeOf (key : String) (body : Body Nat) (schema : Members) (consumed : List String)
    (kept : Members) (required : Bool) : Node Nat where
  key := key
  body := body
  title := Value.member schema "title"
  description := Value.member schema "description"
  required := required
  default := Entries.find? schema "default"
  extras := Entries.putAll (remaining schema consumed) kept

theorem nodeOf_yields (key : String) (body : Body Nat) {schema : Members}
    (consumed : List String) (kept : Members) (required : Bool) (path : String)
    (ht : (Value.member schema "title").IsTextual)
    (hd : (Value.member schema "description").IsTextual) :
    (nodeOf key body schema consumed kept required path).Yields
      (madeOf key body schema consumed kept required) :=
  (leftovers_yields _ _ _ _).bind ((textOf_yields ht).bind ((textOf_yields hd).bind (.pure _)))

theorem nodeOf_of_calm {key : String} {body : Body Nat} {schema : Members}
    {consumed : List String} {kept : Members} {required : Bool} {path : String}
    (h : (nodeOf key body schema consumed kept required path).Calm) :
    (Value.member schema "title").IsTextual ∧ (Value.member schema "description").IsTextual ∧
      (nodeOf key body schema consumed kept required path).value =
        madeOf key body schema consumed kept required := by
  unfold nodeOf at h
  obtain ⟨ht, h⟩ := calm_bind_iff.1 (calm_bind_iff.1 h).2
  have ht := (isTextual_of_calm ht).1
  have hd := (isTextual_of_calm (calm_bind_iff.1 h).1).1
  exact ⟨ht, hd, (nodeOf_yields key body consumed kept required path ht hd).value_eq⟩

end Decompile

namespace Outline

open Compile Decompile

variable {cfg : DocumentConfig} {n : Node Nat} {parts : List Part} {keywords : List String}

/-! ## The members of a written node -/

theorem not_mem_vocabulary {k : String} (hk : k ∈ annotationKeywords) (kind : NodeKind) :
    k ∉ Body.vocabulary kind := by
  intro h
  cases kind with
  | group _ => simp [Body.vocabulary] at h
  | string | number | boolean | enum | object | array | definition | reference =>
    revert k
    decide

theorem find?_fixed_annotated {k : String} (hk : k ∈ annotationKeywords) :
    Entries.find? (fixed n) k = Entries.find? (annotations n) k := by
  cases hb : n.body with
  | group _ _ =>
    unfold fixed
    rw [hb]
  | reference target =>
    unfold fixed
    rw [hb]
    have hne : "$ref" ≠ k := by
      rintro rfl
      exact absurd hk (by decide)
    simp [hne]
  | string _ | number _ | boolean | enum _ | object _ | array _ | definition _ =>
    have hkind : n.kind = n.body.kind := rfl
    have htype : "type" ≠ k := by
      rintro rfl
      exact absurd hk (by decide)
    rw [find?_fixed (by rw [hkind, hb]; rfl) (by rw [hkind, hb]; simp [Body.kind]),
      Body.find?_keywords_eq_none _ (not_mem_vocabulary hk _), find?_head,
      if_neg fun h => htype h.1,
      Option.none_or]

theorem not_mem_innerKeywords {k : String} (hk : k ∈ annotationKeywords) (kind : NodeKind) :
    k ∉ innerKeywords kind := by
  intro h
  cases kind with
  | group g =>
    cases g <;> revert k <;> decide
  | string | number | boolean | enum | object | array | definition | reference =>
    revert k
    decide

theorem find?_members_annotated (hl : Labelled n keywords) {k : String}
    (hk : k ∈ annotationKeywords) :
    Entries.find? (members cfg n parts) k = Entries.find? (annotations n) k := by
  have hinner : Entries.find? (inner cfg n parts) k = none :=
    Entries.find?_eq_none_iff.2 fun h => not_mem_innerKeywords hk _ (names_inner_subset h)
  rw [find?_members, hinner, find?_fixed_annotated hk, hl.free.find? (List.mem_append_left _ hk),
    Option.none_or, Option.or_none]

theorem member_title (hl : Labelled n keywords) :
    Value.member (members cfg n parts) "title" = n.title := by
  rw [Value.member, find?_members_annotated hl (by decide), find?_annotations, if_pos rfl,
    Value.getD_set?]

theorem member_description (hl : Labelled n keywords) :
    Value.member (members cfg n parts) "description" = n.description := by
  rw [Value.member, find?_members_annotated hl (by decide), find?_annotations, if_neg (by decide),
    if_pos rfl, Value.getD_set?]

theorem find?_default (hl : Labelled n keywords) :
    Entries.find? (members cfg n parts) "default" = n.default := by
  rw [find?_members_annotated hl (by decide), find?_annotations, if_neg (by decide),
    if_neg (by decide), if_pos rfl]

/-- What is left of a written node are its extras, where nothing of it is read as one. -/
theorem remaining_members (hl : Labelled n keywords) {consumed : List String}
    (hfixed : ∀ k ∈ fixedKeywords n.kind, k ∈ consumed)
    (hinner : ∀ k ∈ Entries.names (inner cfg n parts), k ∈ consumed) :
    remaining (members cfg n parts) consumed =
      n.extras.filter fun e => !consumed.contains e.1 := by
  unfold remaining
  rw [members_eq]
  rw [filter_withExtras (p := fun k => !consumed.contains k && !annotationKeywords.contains k)
    hl.nodup]
  · refine List.filter_congr fun e he => ?_
    have hfree : annotationKeywords.contains e.1 = false := by
      rw [Bool.eq_false_iff]
      intro h
      exact hl.free e.1 (List.mem_append_left _ (List.contains_iff_mem.1 h))
        (List.mem_map_of_mem he)
    rw [hfree]
    simp
  · intro k hk
    rcases Entries.names_putAll_subset hk with h | h
    · rcases names_fixed_subset h with h | h
      · simp only [Bool.and_eq_false_iff, Bool.not_eq_false']
        exact .inr (List.contains_iff_mem.2 h)
      · simp [hfixed k h]
    · simp [hinner k h]

/-- The node as it is read back: with another key and required mark, and without a widget. -/
def rebuilt (n : Node Nat) (key : String) (required : Bool) (body : Body Nat) (extras : Members) :
    Node Nat where
  key := key
  body := body
  title := n.title
  description := n.description
  required := required
  default := n.default
  extras := extras

theorem madeOf_members (hl : Labelled n keywords) {consumed : List String}
    (hfixed : ∀ k ∈ fixedKeywords n.kind, k ∈ consumed)
    (hinner : ∀ k ∈ Entries.names (inner cfg n parts), k ∈ consumed) (key : String)
    (body : Body Nat) (kept : Members) (required : Bool) :
    madeOf key body (members cfg n parts) consumed kept required = rebuilt n key required body
      (Entries.putAll (n.extras.filter fun e => !consumed.contains e.1) kept) := by
  unfold madeOf rebuilt
  rw [member_title hl, member_description hl, find?_default hl,
    remaining_members hl hfixed hinner]

/-- Where none of the keywords that are read is that of an extra, all extras are left. -/
theorem filter_of_free {consumed : List String} (h : n.Free consumed) :
    n.extras.filter (fun e => !consumed.contains e.1) = n.extras := by
  rw [List.filter_eq_self]
  intro e he
  rw [Bool.not_eq_true', Bool.eq_false_iff]
  intro hc
  exact h e.1 (List.contains_iff_mem.1 hc) (List.mem_map_of_mem he)

/-- A written node is read back as a node. -/
theorem nodeOf_members (cfg : DocumentConfig) (parts : List Part) (hl : Labelled n keywords)
    (consumed : List String)
    (hfixed : ∀ k ∈ fixedKeywords n.kind, k ∈ consumed)
    (hinner : ∀ k ∈ Entries.names (inner cfg n parts), k ∈ consumed) (key : String)
    (body : Body Nat) (kept : Members) (required : Bool) (path : String) :
    (nodeOf key body (members cfg n parts) consumed kept required path).Yields
      (rebuilt n key required body
        (Entries.putAll (n.extras.filter fun e => !consumed.contains e.1) kept)) := by
  rw [← madeOf_members hl hfixed hinner]
  refine nodeOf_yields _ _ _ _ _ _ ?_ ?_
  · rw [member_title hl]
    exact hl.title
  · rw [member_description hl]
    exact hl.description

/-- Nodes of which the same is written alone, and of which alike is written of what hangs below them,
are written alike when their extras are the same, as far as they are written. -/
theorem alike_members {n' : Node Nat} {parts' : List Part} (hfixed : fixed n' = fixed n)
    (hinner : ∀ k, Value.AlikeAt (Entries.find? (inner cfg n parts) k)
      (Entries.find? (inner cfg n' parts') k))
    (hextras : ∀ k, Entries.find? (inner cfg n parts) k = none →
      Entries.find? n'.extras k = Entries.find? n.extras k) :
    Value.Alike (.obj (members cfg n parts)) (.obj (members cfg n' parts')) := by
  rw [Value.alike_obj_iff]
  intro k
  rw [find?_members, find?_members, hfixed]
  have h := hinner k
  cases hk : Entries.find? (inner cfg n parts) k with
  | none =>
    cases hk' : Entries.find? (inner cfg n' parts') k with
    | none =>
      rw [hextras k hk]
      exact Value.AlikeAt.refl _
    | some w =>
      rw [hk, hk'] at h
      exact h.elim
  | some v =>
    cases hk' : Entries.find? (inner cfg n' parts') k with
    | none =>
      rw [hk, hk'] at h
      exact h.elim
    | some w =>
      rw [hk, hk'] at h
      exact h

end Outline

end FormGraph

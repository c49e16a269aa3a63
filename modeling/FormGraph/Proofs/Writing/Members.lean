import FormGraph.Proofs.Tables
import FormGraph.Proofs.Writing.Tree

/-!
# The members of what is written

What is found under a keyword of a written node, and what is left of it when keywords are taken out:
the extras, as far as nothing else was written in their place. The attributes of a node are read back
from the members as they were.
-/

namespace FormGraph

/-- A value that is not `null`. -/
def Value.set? (v : Value) : Option Value := if v.isNull then none else some v

theorem Value.getD_set? (v : Value) : v.set?.getD .null = v := by
  cases v <;> rfl

namespace Entries

variable {α : Type}

theorem find?_filter (p : String → Bool) (es : List (String × α)) (name : String) :
    find? (es.filter fun e => p e.1) name = if p name then find? es name else none := by
  induction es with
  | nil => simp
  | cons e es ih =>
    obtain ⟨n, v⟩ := e
    by_cases hp : p n = true
    · rw [List.filter_cons_of_pos (a := (n, v)) hp, find?_cons, find?_cons, ih]
      by_cases hn : n = name
      · simp [← hn, hp]
      · simp [hn]
    · rw [List.filter_cons_of_neg (a := (n, v)) hp, ih, find?_cons]
      by_cases hn : n = name
      · simp [← hn, hp]
      · simp [hn]

theorem find?_putNew (es : List (String × α)) (name : String) (v : α) (other : String) :
    find? (putNew es name v) other = (find? es other).or (find? [(name, v)] other) := by
  unfold putNew
  split
  · next h =>
    by_cases hn : name = other
    · subst hn
      obtain ⟨w, hw⟩ := Option.isSome_iff_exists.1 h
      rw [hw]
      rfl
    · simp [hn]
  · rw [find?_append]

/-- Adding entries where names are free: what was there is found first. -/
theorem find?_foldl_putNew (more es : List (String × α)) (name : String) :
    find? (more.foldl (fun f e => putNew f e.1 e.2) es) name =
      (find? es name).or (find? more name) := by
  induction more generalizing es with
  | nil => simp
  | cons e more ih =>
    obtain ⟨n, v⟩ := e
    rw [List.foldl_cons, ih, find?_putNew, Option.or_assoc]
    congr 1
    by_cases hn : n = name <;> simp [hn]

theorem names_putNew (es : List (String × α)) (name : String) (v : α) :
    names (putNew es name v) = if name ∈ names es then names es else names es ++ [name] := by
  unfold putNew
  by_cases h : name ∈ names es
  · rw [if_pos (has_eq_true_iff.2 h), if_pos h]
  · rw [if_neg (fun h' => h (has_eq_true_iff.1 h')), if_neg h, names, List.map_append]
    rfl

/-- Taking out names that were there already leaves what was added of the others. -/
theorem filter_foldl_putNew {p : String → Bool} {more : List (String × α)}
    (hd : (names more).Nodup) : ∀ {es : List (String × α)},
      (∀ n ∈ names es, n ∈ names more → p n = false) →
      (more.foldl (fun f e => putNew f e.1 e.2) es).filter (fun e => p e.1) =
        es.filter (fun e => p e.1) ++ more.filter fun e => p e.1 := by
  induction more with
  | nil => simp
  | cons e more ih =>
    intro es hes
    obtain ⟨n, v⟩ := e
    rw [names, List.map_cons, List.nodup_cons] at hd
    rw [List.foldl_cons, ih hd.2]
    · by_cases hn : n ∈ names es
      · have hp : p n = false := hes n hn List.mem_cons_self
        have hput : putNew es n v = es := if_pos (has_eq_true_iff.2 hn)
        rw [hput, List.filter_cons_of_neg (by simp [hp])]
      · have hput : putNew es n v = es ++ [(n, v)] := if_neg fun h => hn (has_eq_true_iff.1 h)
        rw [hput, List.filter_append, List.append_assoc]
        by_cases hp : p n = true <;> simp [hp]
    · intro m hm hmore
      rw [names_putNew] at hm
      split_ifs at hm with hn
      · exact hes m hm (List.mem_cons_of_mem _ hmore)
      · rcases List.mem_append.1 hm with hm | hm
        · exact hes m hm (List.mem_cons_of_mem _ hmore)
        · rw [List.mem_singleton] at hm
          exact absurd (hm ▸ hmore) hd.1

theorem names_putAll_subset {es more : List (String × α)} {n : String}
    (h : n ∈ names (putAll es more)) : n ∈ names es ∨ n ∈ names more := by
  rw [mem_names_iff, find?_putAll, Option.isSome_or, Bool.or_eq_true, ← mem_names_iff,
    ← mem_names_iff] at h
  rw [names, List.map_reverse, List.mem_reverse] at h
  exact h.symm

end Entries

namespace Compile

variable {ρ : Type}

theorem find?_withExtras (n : Node ρ) (fragment : Members) (name : String) :
    Entries.find? (withExtras n fragment) name =
      (Entries.find? fragment name).or (Entries.find? n.extras name) :=
  Entries.find?_foldl_putNew _ _ _

/-- What is left of a node when everything that was written for it is taken out are its extras. -/
theorem filter_withExtras {p : String → Bool} {n : Node ρ} {fragment : Members}
    (hd : (Entries.names n.extras).Nodup) (h : ∀ k ∈ Entries.names fragment, p k = false) :
    (withExtras n fragment).filter (fun e => p e.1) = n.extras.filter fun e => p e.1 := by
  unfold withExtras
  rw [Entries.filter_foldl_putNew hd fun k hk _ => h k hk]
  have hnil : fragment.filter (fun e => p e.1) = [] := by
    rw [List.filter_eq_nil_iff]
    intro e he
    simp [h e.1 (List.mem_map_of_mem he)]
  rw [hnil, List.nil_append]

theorem find?_ifSet (keyword : String) (v : Value) (name : String) :
    Entries.find? (if v.isNull then [] else [(keyword, v)]) name =
      if keyword = name then v.set? else none := by
  unfold Value.set?
  cases v.isNull <;> simp

theorem find?_annotations (n : Node ρ) (name : String) :
    Entries.find? (annotations n) name =
      if "title" = name then n.title.set?
      else if "description" = name then n.description.set?
      else if "default" = name then n.default else none := by
  unfold annotations
  rw [Entries.find?_append, Entries.find?_append, find?_ifSet, find?_ifSet]
  have hdefault : Entries.find? (n.default.toList.map fun v => ("default", v)) name =
      if "default" = name then n.default else none := by
    cases n.default <;> simp
  rw [hdefault]
  by_cases h₁ : "title" = name
  · subst h₁
    simp
  · by_cases h₂ : "description" = name
    · subst h₂
      simp
    · simp [h₁, h₂]

end Compile

/-! ## Attributes -/

namespace AttributeSet

variable {σ : Type}

theorem find?_keywords (s : AttributeSet σ) (a : σ) (hd : s.vocabulary.Nodup) {f : Attribute σ}
    (hf : f ∈ s.written) : Entries.find? (s.keywords a) f.keyword = (f.get a).set? := by
  have hrows : (Entries.names (s.written.map fun f => (f.keyword, f.get a))).Nodup := by
    rw [Entries.names, List.map_map]
    exact hd
  have hmem : (f.keyword, f.get a) ∈ s.written.map fun f => (f.keyword, f.get a) :=
    List.mem_map_of_mem (f := fun f => (f.keyword, f.get a)) hf
  have hkeywords : (Entries.names (s.keywords a)).Nodup :=
    hrows.sublist (List.filter_sublist.map Prod.fst)
  unfold Value.set?
  split
  · next hnull =>
    rw [Entries.find?_eq_none_iff]
    intro h
    obtain ⟨⟨k, v⟩, he, rfl⟩ := List.mem_map.1 h
    obtain ⟨he, hv⟩ := List.mem_filter.1 he
    have hsame := Entries.find?_of_mem hrows he
    rw [Entries.find?_of_mem hrows hmem, Option.some.injEq] at hsame
    rw [← hsame, hnull] at hv
    simp at hv
  · next hnull => exact Entries.find?_of_mem hkeywords (List.mem_filter.2 ⟨hmem, by simp [hnull]⟩)

theorem names_keywords_subset (s : AttributeSet σ) (a : σ) {k : String}
    (h : k ∈ Entries.names (s.keywords a)) : k ∈ s.vocabulary := by
  obtain ⟨e, he, rfl⟩ := List.mem_map.1 h
  obtain ⟨f, hf, rfl⟩ := List.mem_map.1 (List.mem_filter.1 he).1
  exact List.mem_map_of_mem hf

/-- What an attribute is read back as. -/
theorem member_of_keywords (s : AttributeSet σ) (a : σ) (hd : s.vocabulary.Nodup) {ms : Members}
    (h : ∀ k ∈ s.vocabulary, Entries.find? ms k = Entries.find? (s.keywords a) k) :
    ∀ f ∈ s.written, Value.member ms f.keyword = f.get a := by
  intro f hf
  rw [Value.member, h f.keyword (List.mem_map_of_mem hf), find?_keywords s a hd hf,
    Value.getD_set?]

end AttributeSet

/-- Reading an attribute is replacing it where there is something to read. -/
theorem StringAttributes.ofFragment_eq (ms : Members) : StringAttributes.set.ofFragment ms =
    ⟨Value.member ms "minLength", Value.member ms "maxLength", Value.member ms "pattern",
      Value.member ms "format"⟩ := by
  unfold AttributeSet.ofFragment Value.member StringAttributes.set
  dsimp only [List.foldl]
  cases Entries.find? ms "minLength" <;> cases Entries.find? ms "maxLength" <;>
    cases Entries.find? ms "pattern" <;> cases Entries.find? ms "format" <;> rfl

theorem NumberAttributes.ofFragment_eq (ms : Members) : NumberAttributes.set.ofFragment ms =
    ⟨Value.member ms "minimum", Value.member ms "maximum", Value.member ms "multipleOf",
      Value.member ms "exclusiveMinimum", Value.member ms "exclusiveMaximum"⟩ := by
  unfold AttributeSet.ofFragment Value.member NumberAttributes.set
  dsimp only [List.foldl]
  cases Entries.find? ms "minimum" <;> cases Entries.find? ms "maximum" <;>
    cases Entries.find? ms "multipleOf" <;> cases Entries.find? ms "exclusiveMinimum" <;>
    cases Entries.find? ms "exclusiveMaximum" <;> rfl

theorem EnumAttributes.ofFragment_eq (ms : Members) : EnumAttributes.set.ofFragment ms =
    ⟨(Entries.find? ms "enum").getD (.list []), Value.member ms "enumNames",
      Value.member ms "type"⟩ := by
  unfold AttributeSet.ofFragment Value.member EnumAttributes.set
  dsimp only [List.foldl]
  cases Entries.find? ms "type" <;> cases Entries.find? ms "enum" <;>
    cases Entries.find? ms "enumNames" <;> rfl

theorem ObjectAttributes.ofFragment_eq (ms : Members) : ObjectAttributes.set.ofFragment ms =
    ⟨Value.member ms "minProperties", Value.member ms "maxProperties",
      Value.member ms "additionalProperties"⟩ := by
  unfold AttributeSet.ofFragment Value.member ObjectAttributes.set
  dsimp only [List.foldl]
  cases Entries.find? ms "minProperties" <;> cases Entries.find? ms "maxProperties" <;>
    cases Entries.find? ms "additionalProperties" <;> rfl

theorem ArrayAttributes.ofFragment_eq (ms : Members) : ArrayAttributes.set.ofFragment ms =
    ⟨Value.member ms "minItems", Value.member ms "maxItems", Value.member ms "uniqueItems",
      Value.member ms "additionalItems"⟩ := by
  unfold AttributeSet.ofFragment Value.member ArrayAttributes.set
  dsimp only [List.foldl]
  cases Entries.find? ms "minItems" <;> cases Entries.find? ms "maxItems" <;>
    cases Entries.find? ms "uniqueItems" <;> cases Entries.find? ms "additionalItems" <;> rfl

namespace Body

variable {ρ : Type}

theorem find?_keywords_eq_none (b : Body ρ) {k : String} (h : k ∉ vocabulary b.kind) :
    Entries.find? b.keywords k = none := by
  rw [Entries.find?_eq_none_iff]
  intro hk
  cases b with
  | string a | number a | enum a | object a | array a =>
    exact h (AttributeSet.names_keywords_subset _ a hk)
  | boolean | group _ _ | definition _ | reference _ => simp [keywords, Entries.names] at hk

/-- The attributes are read back from what is found under their keywords. -/
theorem ofFragment_eq (b : Body ρ) (hk : b.kind.isTyped = true ∨ b.kind = .enum)
    (hvalues : ∀ a, b = .enum a → a.values.isNull = false) {ms : Members}
    (h : ∀ k ∈ vocabulary b.kind, Entries.find? ms k = Entries.find? b.keywords k) :
    ofFragment b.kind ms = b := by
  cases b with
  | string a =>
    have hget := StringAttributes.set.member_of_keywords a (by decide) h
    simp only [StringAttributes.set, List.forall_mem_cons] at hget
    obtain ⟨h₁, h₂, h₃, h₄, _⟩ := hget
    exact congrArg _ ((StringAttributes.ofFragment_eq ms).trans (by rw [h₁, h₂, h₃, h₄]))
  | number a =>
    have hget := NumberAttributes.set.member_of_keywords a (by decide) h
    simp only [NumberAttributes.set, List.forall_mem_cons] at hget
    obtain ⟨h₁, h₂, h₃, h₄, h₅, _⟩ := hget
    exact congrArg _ ((NumberAttributes.ofFragment_eq ms).trans (by rw [h₁, h₂, h₃, h₄, h₅]))
  | boolean => rfl
  | enum a =>
    have hget := EnumAttributes.set.member_of_keywords a (by decide) h
    simp only [EnumAttributes.set, List.forall_mem_cons] at hget
    obtain ⟨h₁, h₂, h₃, _⟩ := hget
    have hset : (Entries.find? ms "enum").getD (.list []) = a.values := by
      have hfind := EnumAttributes.set.find?_keywords a (by decide)
        (f := ⟨"values", "enum", (·.values), fun a v => { a with values := v }⟩)
        (by simp [EnumAttributes.set])
      rw [h "enum" (show "enum" ∈ vocabulary .enum by decide)]
      show (Entries.find? (EnumAttributes.set.keywords a) "enum").getD _ = _
      rw [hfind, Value.set?, hvalues a rfl]
      rfl
    exact congrArg _ ((EnumAttributes.ofFragment_eq ms).trans (by rw [h₁, h₃, hset]))
  | object a =>
    have hget := ObjectAttributes.set.member_of_keywords a (by decide) h
    simp only [ObjectAttributes.set, List.forall_mem_cons] at hget
    obtain ⟨h₁, h₂, h₃, _⟩ := hget
    exact congrArg _ ((ObjectAttributes.ofFragment_eq ms).trans (by rw [h₁, h₂, h₃]))
  | array a =>
    have hget := ArrayAttributes.set.member_of_keywords a (by decide) h
    simp only [ArrayAttributes.set, List.forall_mem_cons] at hget
    obtain ⟨h₁, h₂, h₃, h₄, _⟩ := hget
    exact congrArg _ ((ArrayAttributes.ofFragment_eq ms).trans (by rw [h₁, h₂, h₃, h₄]))
  | group _ _ | definition _ | reference _ => simp [kind, NodeKind.isTyped] at hk

end Body

/-! ## The parts of a written node -/

namespace Outline

open Compile

variable {cfg : DocumentConfig} {n : Node Nat} {parts : List Part}

/-- What is written of a node whatever hangs below it. -/
def fixed (n : Node Nat) : Members :=
  match n.body with
  | .group _ _ => annotations n
  | .reference target => ("$ref", .str (pointer target)) :: annotations n
  | body => Entries.putAll (head n) body.keywords

/-- What is written of what hangs below a node. -/
def inner (cfg : DocumentConfig) (n : Node Nat) (parts : List Part) : Members :=
  match n.body with
  | .group kind clauses => groupMembers cfg kind clauses parts
  | .reference _ => []
  | _ => contents n parts

theorem members_eq (cfg : DocumentConfig) (n : Node Nat) (parts : List Part) :
    members cfg n parts = withExtras n (Entries.putAll (fixed n) (inner cfg n parts)) := by
  unfold members fixed inner
  cases n.body <;> rfl

theorem names_objectMembers_sublist (n : Node Nat) (parts : List Part) :
    (Entries.names (objectMembers n parts)).Sublist ["properties", "required", "allOf"] := by
  have h₁ : (Entries.names (if (properties parts).isEmpty then []
      else [("properties", Value.obj (properties parts))])).Sublist ["properties"] := by
    split
    · exact List.nil_sublist _
    · exact List.Sublist.refl _
  have h₂ : (Entries.names (if (requiredKeys parts).isEmpty then []
      else [("required", Value.ofStrings (requiredKeys parts))])).Sublist ["required"] := by
    split
    · exact List.nil_sublist _
    · exact List.Sublist.refl _
  have h₃ : (Entries.names (groupEntries n (groupValues parts))).Sublist ["allOf"] := by
    unfold groupEntries
    split
    · exact List.nil_sublist _
    · split <;> exact List.Sublist.refl _
  unfold objectMembers
  rw [Entries.names, List.map_append, List.map_append]
  exact (h₁.append h₂).append h₃

theorem names_under (keyword : String) (v : Option Value) :
    (Entries.names (under keyword v)).Sublist [keyword] := by
  cases v with
  | none => exact List.nil_sublist _
  | some v => exact List.Sublist.refl _

theorem names_groupMembers_sublist (cfg : DocumentConfig) (kind : GroupKind)
    (cs : List (Clause Nat)) (parts : List Part) :
    (Entries.names (groupMembers cfg kind cs parts)).Sublist
      (match kind with
        | .ifBlock => ["if", "then", "else"]
        | kind => [kind.name]) := by
  cases kind with
  | ifBlock =>
    unfold groupMembers blockMembers
    cases cs with
    | nil => exact List.Sublist.cons_cons _ (List.nil_sublist _)
    | cons c cs =>
      refine List.Sublist.cons_cons _ ?_
      change (List.map Prod.fst (under "then" _ ++ under "else" _)).Sublist _
      rw [List.map_append]
      exact (names_under "then" _).append (names_under "else" _)
  | allOf | anyOf | oneOf => exact List.Sublist.refl _

theorem nodup_names_inner (cfg : DocumentConfig) (n : Node Nat) (parts : List Part) :
    (Entries.names (inner cfg n parts)).Nodup := by
  unfold inner contents
  cases n.body with
  | group kind cs =>
    refine List.Nodup.sublist (names_groupMembers_sublist cfg kind cs parts) ?_
    cases kind <;> decide
  | object a => exact List.Nodup.sublist (names_objectMembers_sublist n parts) (by decide)
  | array a =>
    unfold arrayMembers
    cases parts.head? with
    | none => exact List.nodup_nil
    | some p => exact List.nodup_singleton _
  | string _ | number _ | boolean | enum _ | definition _ | reference _ => exact List.nodup_nil

/-- What is found under a keyword of a written node: what was written of what hangs below it, or else
what was written of it alone, or else what its extras say. -/
theorem find?_members (cfg : DocumentConfig) (n : Node Nat) (parts : List Part) (name : String) :
    Entries.find? (members cfg n parts) name =
      ((Entries.find? (inner cfg n parts) name).or (Entries.find? (fixed n) name)).or
        (Entries.find? n.extras name) := by
  rw [members_eq, find?_withExtras, Entries.find?_putAll,
    Entries.find?_reverse (nodup_names_inner cfg n parts)]

/-- The keywords that are written of a node alone, besides its title, description and default. -/
def fixedKeywords : NodeKind → List String
  | .group _ => []
  | .reference => ["$ref"]
  | kind => "type" :: Body.vocabulary kind

/-- The keywords that are written of what hangs below a node. -/
def innerKeywords : NodeKind → List String
  | .object => ["properties", "required", "allOf"]
  | .array => ["items"]
  | .group .ifBlock => ["if", "then", "else"]
  | .group kind => [kind.name]
  | _ => []

theorem names_inner_subset {k : String} (h : k ∈ Entries.names (inner cfg n parts)) :
    k ∈ innerKeywords n.kind := by
  unfold inner contents at h
  unfold Node.kind
  cases hb : n.body with
  | group kind cs =>
    rw [hb] at h
    have := (names_groupMembers_sublist cfg kind cs parts).subset h
    cases kind <;> exact this
  | object a =>
    rw [hb] at h
    exact (names_objectMembers_sublist n parts).subset h
  | array a =>
    rw [hb] at h
    obtain ⟨e, he, rfl⟩ := List.mem_map.1 h
    obtain ⟨p, _, rfl⟩ := List.mem_map.1 he
    exact List.mem_singleton_self _
  | string _ | number _ | boolean | enum _ | definition _ | reference _ =>
    rw [hb] at h
    simp [Entries.names] at h

theorem find?_head (n : Node Nat) (name : String) : Entries.find? (head n) name =
    if "type" = name ∧ n.kind.isTyped = true then some (.str n.kind.name)
    else Entries.find? (annotations n) name := by
  unfold head
  rw [Entries.find?_append]
  by_cases ht : n.kind.isTyped = true <;> by_cases hn : "type" = name <;> simp [ht, hn]

/-- What is written of a node alone, except for a group or a reference. -/
theorem find?_fixed (hg : n.kind.isGroup = false) (hr : n.kind ≠ .reference) (name : String) :
    Entries.find? (fixed n) name =
      (Entries.find? n.body.keywords name).or (Entries.find? (head n) name) := by
  have hfixed : fixed n = Entries.putAll (head n) n.body.keywords := by
    unfold fixed
    unfold Node.kind at hg hr
    cases hb : n.body with
    | group _ _ =>
      rw [hb] at hg
      simp [Body.kind, NodeKind.isGroup] at hg
    | reference _ =>
      rw [hb] at hr
      simp [Body.kind] at hr
    | string _ | number _ | boolean | enum _ | object _ | array _ | definition _ => rfl
  have hnodup : (Entries.names n.body.keywords).Nodup := by
    have hset : ∀ {σ : Type} (s : AttributeSet σ) (a : σ), s.vocabulary.Nodup →
        (Entries.names (s.keywords a)).Nodup := by
      intro σ s a hd
      refine List.Nodup.sublist (List.filter_sublist.map Prod.fst) ?_
      rw [List.map_map]
      exact hd
    cases n.body with
    | string a | number a | enum a | object a | array a => exact hset _ a (by decide)
    | boolean | group _ _ | definition _ | reference _ => exact List.nodup_nil
  rw [hfixed, Entries.find?_putAll, Entries.find?_reverse hnodup]

theorem find?_annotations_eq_none {name : String} (h : name ∉ ["title", "description", "default"]) :
    Entries.find? (annotations n) name = none := by
  simp only [List.mem_cons, List.not_mem_nil, or_false, not_or] at h
  rw [find?_annotations, if_neg (Ne.symm h.1), if_neg (Ne.symm h.2.1), if_neg (Ne.symm h.2.2)]

theorem names_fixed_subset {k : String} (h : k ∈ Entries.names (fixed n)) :
    k ∈ ["title", "description", "default"] ∨ k ∈ fixedKeywords n.kind := by
  by_contra hnot
  rw [not_or] at hnot
  obtain ⟨hannotated, hown⟩ := hnot
  rw [Entries.mem_names_iff] at h
  have hnone := @find?_annotations_eq_none n k hannotated
  cases hb : n.body with
  | group _ _ =>
    unfold fixed at h
    rw [hb, hnone] at h
    simp at h
  | reference target =>
    unfold fixed at h
    unfold Node.kind at hown
    rw [hb] at h hown
    have hne : "$ref" ≠ k := fun heq => hown (by rw [← heq]; exact List.mem_singleton_self _)
    simp [hne, hnone] at h
  | string _ | number _ | boolean | enum _ | object _ | array _ | definition _ =>
    have hkind : n.kind = n.body.kind := rfl
    rw [find?_fixed (by rw [hkind, hb]; rfl) (by rw [hkind, hb]; simp [Body.kind])] at h
    rw [hkind] at hown
    have hvocabulary : k ∉ "type" :: Body.vocabulary n.body.kind := by
      rw [hb] at hown ⊢
      exact hown
    rw [List.mem_cons, not_or] at hvocabulary
    rw [Body.find?_keywords_eq_none _ hvocabulary.2, find?_head,
      if_neg fun h => hvocabulary.1 h.1.symm, hnone] at h
    simp at h

end Outline

end FormGraph

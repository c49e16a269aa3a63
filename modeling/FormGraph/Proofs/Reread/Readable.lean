import FormGraph.Proofs.Alike
import FormGraph.Proofs.Describing.Tree
import FormGraph.Proofs.Inside
import FormGraph.Proofs.Reading.Calm
import FormGraph.Proofs.Writing.Members

/-!
# Outlines that can be read back

`Outline.Readable names` says of an outline what makes its written form readable as the same kind of
outline, where `names` are the definitions there are: texts where texts are asked for, well-typed
attributes, and extras that do not get in the way of what is written or interpreted. Everything that
is read calmly is readable, and so is what a sound graph shows when it meets the conditions of a
round trip.

`Outline.Mirrors` compares an outline with what it is read back as.
-/

namespace FormGraph

/-- The value is a text or says nothing. -/
def Value.IsTextual (v : Value) : Prop := v = .null ∨ ∃ s, v = .str s

/-- No extra stands under any of the keywords. -/
def Node.Free {ρ : Type} (n : Node ρ) (keywords : List String) : Prop :=
  ∀ k ∈ keywords, k ∉ Entries.names n.extras

theorem Node.Free.find? {ρ : Type} {n : Node ρ} {keywords : List String} (h : n.Free keywords)
    {k : String} (hk : k ∈ keywords) : Entries.find? n.extras k = none :=
  Entries.find?_eq_none_iff.2 (h k hk)

theorem Node.Free.mono {ρ : Type} {n : Node ρ} {keywords fewer : List String}
    (h : n.Free keywords) (hsub : fewer ⊆ keywords) : n.Free fewer := fun k hk => h k (hsub hk)

namespace Outline

open Decompile

/-- The keywords that the extras of a node of a kind cannot have. -/
def reserved : NodeKind → List String
  | .group .ifBlock => ["if", "then", "else"]
  | .group _ => ["if", "allOf", "anyOf", "oneOf", "properties", "type", "$ref"]
  | .reference => ["$ref"]
  | .object => ["$ref", "enum", "type", "required"] ++ Body.vocabulary .object
  | .array => ["$ref", "enum", "type", "items"] ++ Body.vocabulary .array
  | kind => ["$ref", "enum", "type"] ++ Body.vocabulary kind

/-- The outline can stand where a schema is read as a group only when it is nothing else. -/
def Bare (o : Outline) : Prop :=
  o.node.kind.isGroup = true → o.node.Free ["type", "$ref", "enum", "properties", "items"]

/-- What is asked of an object and what hangs below it: fields with different keys, and extras that
are not interpreted. -/
structure ObjectReads (n : Node Nat) (bs : List (EdgeKind × Outline)) : Prop where
  /-- Everything hangs below it as a child. -/
  children : ∀ b ∈ bs, b.1 = .child
  /-- Fields have different keys. -/
  keys : ((bs.filter fun b => !b.2.node.kind.isGroup).map fun b => b.2.node.key).Nodup
  /-- Properties that are kept are `null`, and then there are no fields. -/
  properties : ∀ v, Entries.find? n.extras "properties" = some v →
    v = .null ∧ ∀ b ∈ bs, b.2.node.kind.isGroup = true
  /-- A test that is kept cannot be read as one. -/
  block : ∀ test, Entries.find? n.extras "if" = some test → isTest test = false
  /-- Of a list that is kept no entry can be read as a group. -/
  allOf : ∀ items, Entries.find? n.extras "allOf" = some (.list items) →
    items ≠ [] ∧ ∀ v ∈ items, groupKind? v = none
  /-- A list of another kind that is kept cannot be read as a group. -/
  lists : ∀ kind ∈ [GroupKind.anyOf, .oneOf], ∀ v, Entries.find? n.extras kind.name = some v →
    groupKind? (.obj [(kind.name, v)]) = none

end Outline

/-- Whether the operator looks into a text. -/
def Operator.isPattern : Operator → Bool
  | .contains | .startsWith | .endsWith => true
  | _ => false

/-- What is asked of a condition: it tests a field, and what is looked for in a text is a text. -/
structure Condition.Reads (c : Condition) : Prop where
  /-- The field is a key. -/
  field : ∃ key, c.field = .str key
  /-- What is looked for in a text is a text. -/
  operand : c.operator.isPattern = true → ∃ s, c.operand = .str s

namespace Outline

open Decompile

/-- What is asked of a clause: a condition that can be read, and branches that hang over edges of the
right kind. -/
structure ClauseReads (bs : List (EdgeKind × Outline)) (c : Clause Nat) : Prop where
  /-- The condition can be read. -/
  condition : c.condition.Reads
  /-- The branches hang below the group. -/
  target : ∀ (k : EdgeKind) (i : Nat), c.target k = some i → ∃ o, bs[i]? = some (k, o) ∧ o.Bare

/-- What is asked of a node for what it says as a node of its kind. -/
def OwnReads (names : List String) (n : Node Nat) (bs : List (EdgeKind × Outline)) : Prop :=
  match n.body with
  | .object _ => ObjectReads n bs
  | .array _ => ∀ b ∈ bs, b.2.Bare
  | .reference target => ∃ name ∈ names, target = .str name
  | .group _ clauses => ∀ c ∈ clauses, ClauseReads bs c
  | .definition _ => False
  | _ => True

/-- What is asked of any node: texts, and extras under different keywords that are free. -/
structure Labelled {ρ : Type} (n : Node ρ) (keywords : List String) : Prop where
  /-- The title is a text. -/
  title : n.title.IsTextual
  /-- The description is a text. -/
  description : n.description.IsTextual
  /-- Extras have different keywords. -/
  nodup : (Entries.names n.extras).Nodup
  /-- They are none of those that are read. -/
  free : n.Free (annotationKeywords ++ keywords)

/-- The outline can be read back from what it is written as. -/
inductive Readable (names : List String) : Outline → Prop where
  | mk {n : Node Nat} {bs : List (EdgeKind × Outline)} (labelled : Labelled n (reserved n.kind))
    (types : Check.attributeTypes n.body = []) (own : OwnReads names n bs)
    (below : ∀ b ∈ bs, Readable names b.2) : Readable names (.mk n bs)

theorem Readable.hanging {names : List String} {o : Outline} (h : o.Readable names) :
    ∀ b ∈ o.hanging, b.2.Readable names := by
  cases h with
  | mk _ _ _ below => exact below

theorem Readable.types {names : List String} {o : Outline} (h : o.Readable names) :
    Check.attributeTypes o.node.body = [] := by
  cases h with
  | mk _ types _ _ => exact types

/-- The outline says the same when it has been written and read back: no list of other entries is
kept, an array has one item, the clauses of an `if` block have the same branches, and branches of a
group that are written alike say the same. -/
inductive Clean (cfg : DocumentConfig) : Outline → Prop where
  | mk {n : Node Nat} {bs : List (EdgeKind × Outline)} (kept : n.kind = .object → n.Free ["allOf"])
    (item : n.kind = .array → bs.length ≤ 1)
    (block : n.kind = .group .ifBlock → ∀ c ∈ n.clauses, ∀ c' ∈ n.clauses, c.branches = c'.branches)
    (shared : n.kind ≠ .group .ifBlock → ∀ c ∈ n.clauses, ∀ c' ∈ n.clauses,
      ∀ (k : EdgeKind) (i j : Nat), c.target k = some i → c'.target k = some j →
      ∀ v w, branchAt (parts cfg bs) (some i) = some v → branchAt (parts cfg bs) (some j) = some w →
        v.canonicalJson = w.canonicalJson →
        sayBranch (sayings bs) (some i) = sayBranch (sayings bs) (some j))
    (below : ∀ b ∈ bs, Clean cfg b.2) : Clean cfg (.mk n bs)

/-- What an outline is read back as: it is of the same kind, is written alike, and, where the outline
is clean, says the same. -/
structure Mirrors (cfg : DocumentConfig) (o o' : Outline) : Prop where
  /-- The kind is the same. -/
  kind : o'.node.kind = o.node.kind
  /-- It is written alike. -/
  alike : (o.written cfg).Proper → Value.Alike (o.written cfg) (o'.written cfg)
  /-- It says the same. -/
  said : o.Clean cfg → o'.description = o.description

/-- The pointers in a readable outline point at the definitions there are. -/
theorem Readable.references {names : List String} {o : Outline} (h : o.Readable names) :
    ∀ t ∈ o.references, ∃ name ∈ names, t = .str name := by
  induction h with
  | @mk n bs labelled types own below ih =>
    have hbelow : ∀ ts ∈ bs.map (fun b => b.2.references), ∀ t ∈ ts, ∃ name ∈ names,
        t = .str name := by
      intro ts hts
      obtain ⟨b, hb, rfl⟩ := List.mem_map.1 hts
      exact ih b hb
    have hat : ∀ i, ∀ t ∈ referencesAt (bs.map fun b => b.2.references) i, ∃ name ∈ names,
        t = .str name := by
      intro i t ht
      unfold referencesAt at ht
      cases hi : i.bind fun i => (bs.map fun b => b.2.references)[i]? with
      | none =>
        rw [hi] at ht
        exact absurd ht List.not_mem_nil
      | some ts =>
        rw [hi] at ht
        obtain ⟨j, _, hj⟩ := Option.bind_eq_some_iff.1 hi
        exact hbelow ts (List.mem_of_getElem? hj) t ht
    have hclause : ∀ c : Clause Nat, ∀ t ∈ clauseReferences (bs.map fun b => b.2.references) c,
        ∃ name ∈ names, t = .str name := by
      intro c t ht
      rcases List.mem_append.1 ht with ht | ht
      · exact hat _ t ht
      · exact hat _ t ht
    intro t ht
    rw [Outline.references, referencesBelow_eq] at ht
    unfold nodeReferences at ht
    unfold OwnReads at own
    cases hb : n.body with
    | group kind cs =>
      rw [hb] at ht
      cases kind with
      | ifBlock | allOf | anyOf | oneOf =>
        obtain ⟨c, _, hc⟩ := List.mem_flatMap.1 ht
        exact hclause c t hc
    | reference target =>
      rw [hb] at ht own
      obtain ⟨name, hname, rfl⟩ := own
      exact ⟨name, hname, List.mem_singleton.1 ht⟩
    | object a =>
      rw [hb] at ht
      obtain ⟨ts, hts, ht⟩ := List.mem_flatten.1 ht
      exact hbelow ts hts t ht
    | array a =>
      rw [hb] at ht
      cases hhead : (bs.map fun b => b.2.references).head? with
      | none => simp [hhead] at ht
      | some ts =>
        rw [hhead] at ht
        exact hbelow ts (List.mem_of_mem_head? hhead) t ht
    | string _ | number _ | boolean | enum _ | definition _ =>
      rw [hb] at ht
      exact absurd ht List.not_mem_nil

end Outline

end FormGraph

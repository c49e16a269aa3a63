import FormGraph.Proofs.Reread.ReadSchema

/-!
# Written documents are proper

In what is read of a proper schema no value has an object with two members of one name, and neither
has what is written of it: what is written consists of these values, under names that differ.
-/

namespace FormGraph

namespace Entries

variable {α : Type}

theorem nodup_names_putAll {es : List (String × α)} (h : (names es).Nodup)
    (more : List (String × α)) : (names (putAll es more)).Nodup := by
  unfold putAll
  induction more generalizing es with
  | nil => exact h
  | cons e more ih => exact ih (nodup_names_put h e.1 e.2)

theorem nodup_names_foldl_putNew {es : List (String × α)} (h : (names es).Nodup)
    (more : List (String × α)) :
    (names (more.foldl (fun f e => putNew f e.1 e.2) es)).Nodup := by
  induction more generalizing es with
  | nil => exact h
  | cons e more ih =>
    refine ih ?_
    rw [names_putNew]
    split
    · exact h
    · next hnot =>
      exact List.nodup_append.2 ⟨h, List.nodup_singleton _, fun a ha b hb heq =>
        hnot (List.mem_singleton.1 hb ▸ heq ▸ ha)⟩

theorem mem_putAll {es more : List (String × α)} {e : String × α} (h : e ∈ putAll es more) :
    e ∈ es ∨ e ∈ more := by
  unfold putAll at h
  induction more generalizing es with
  | nil => exact .inl h
  | cons f more ih =>
    rcases ih h with h | h
    · rcases mem_put h with h | rfl
      · exact .inl h
      · exact .inr List.mem_cons_self
    · exact .inr (List.mem_cons_of_mem _ h)

theorem mem_foldl_putNew {es more : List (String × α)} {e : String × α}
    (h : e ∈ more.foldl (fun f e => putNew f e.1 e.2) es) : e ∈ es ∨ e ∈ more := by
  induction more generalizing es with
  | nil => exact .inl h
  | cons f more ih =>
    rcases ih h with h | h
    · change e ∈ putNew es f.1 f.2 at h
      unfold putNew at h
      split at h
      · exact .inl h
      · rcases List.mem_append.1 h with h | h
        · exact .inl h
        · rw [List.mem_singleton.1 h]
          exact .inr List.mem_cons_self
    · exact .inr (List.mem_cons_of_mem _ h)

end Entries

namespace Value

theorem proper_ofStrings (texts : List String) : (ofStrings texts).Proper := by
  refine .list fun v hv => ?_
  obtain ⟨s, _, rfl⟩ := List.mem_map.1 hv
  exact .str s

theorem proper_singleton {v : Value} (h : v.Proper) (k : String) : (obj [(k, v)]).Proper :=
  .obj (List.nodup_singleton k) fun m hm => by
    rw [List.mem_singleton.1 hm]
    exact h

end Value

/-- No value that the node has holds an object with two members of one name. -/
structure Node.Proper {ρ : Type} (n : Node ρ) : Prop where
  /-- The title. -/
  title : n.title.Proper
  /-- The description. -/
  description : n.description.Proper
  /-- The default. -/
  default : ∀ v, n.default = some v → v.Proper
  /-- The attributes. -/
  attributes : ∀ e ∈ n.body.keywords, e.2.Proper
  /-- The extras. -/
  extras : ∀ e ∈ n.extras, e.2.Proper
  /-- What fields are compared with. -/
  conditions : ∀ c ∈ n.clauses, c.condition.field.Proper ∧ c.condition.operand.Proper

/-- No value in the outline holds an object with two members of one name. -/
inductive Outline.Proper : Outline → Prop where
  | mk {n : Node Nat} {bs : List (EdgeKind × Outline)} (node : n.Proper)
    (below : ∀ b ∈ bs, Outline.Proper b.2) : Outline.Proper (.mk n bs)

/-! ## What is written -/

theorem Condition.proper_written {c : Condition} (hfield : c.field.Proper)
    (hoperand : c.operand.Proper) : (Value.obj c.written).Proper := by
  have hcomparison : (Value.obj c.comparison).Proper := by
    unfold comparison comparisonOf
    cases c.operator with
    | equals | greaterThan | lessThan | greaterEqual | lessEqual =>
      exact Value.proper_singleton hoperand _
    | notEquals => exact Value.proper_singleton (Value.proper_singleton hoperand _) _
    | contains | startsWith | endsWith => exact Value.proper_singleton (.str _) _
    | empty => exact Value.proper_of_everywhere (v := .obj emptyComparison) (by decide)
    | notEmpty => exact Value.proper_of_everywhere (v := .obj notEmptyComparison) (by decide)
  refine .obj (show ["properties", "required"].Nodup by decide) fun m hm => ?_
  rcases List.mem_cons.1 hm with rfl | hm
  · exact Value.proper_singleton hcomparison _
  · rw [List.mem_singleton.1 hm]
    exact .list fun v hv => List.mem_singleton.1 hv ▸ hfield

namespace Outline

open Compile

variable {cfg : DocumentConfig} {bs : List (EdgeKind × Outline)} {n : Node Nat}

theorem proper_wrapped {m : Node Nat} {v : Value} (h : v.Proper) : (wrapped m v).Proper := by
  unfold wrapped
  split
  · split
    · refine .obj (show ["properties", "required"].Nodup by decide) fun e he => ?_
      rcases List.mem_cons.1 he with rfl | he
      · exact Value.proper_singleton h _
      · rw [List.mem_singleton.1 he]
        exact Value.proper_ofStrings [m.key]
    · exact Value.proper_singleton (Value.proper_singleton h _) _
  · exact h

theorem proper_branchAt {ps : List Part} (h : ∀ p ∈ ps, p.2.Proper) {i : Option Nat} {v : Value}
    (hv : branchAt ps i = some v) : v.Proper := by
  obtain ⟨p, hp, rfl⟩ := Option.map_eq_some_iff.1 hv
  obtain ⟨j, _, hj⟩ := Option.bind_eq_some_iff.1 hp
  exact proper_wrapped (h p (List.mem_of_getElem? hj))

theorem mem_under {keyword : String} {v? : Option Value} {e : String × Value}
    (h : e ∈ under keyword v?) : v? = some e.2 := by
  obtain ⟨v, hv, rfl⟩ := List.mem_map.1 h
  exact Option.mem_toList.1 hv

theorem proper_failingBranch : failingBranch.Proper :=
  Value.proper_of_everywhere (by decide)

theorem proper_clauseMembers {ps : List Part} (h : ∀ p ∈ ps, p.2.Proper) (kind : GroupKind)
    {c : Clause Nat} (hc : c.condition.field.Proper ∧ c.condition.operand.Proper) :
    (Value.obj (clauseMembers cfg kind ps c)).Proper := by
  have hnodup : (Entries.names (clauseMembers cfg kind ps c)).Nodup := by
    refine List.Nodup.sublist ?_ (show ["if", "then", "else"].Nodup by decide)
    unfold clauseMembers failing Entries.names
    rw [List.append_assoc, List.append_assoc, List.map_append]
    refine List.Sublist.append (List.Sublist.refl _) ?_
    rw [List.map_append]
    refine List.Sublist.append (names_under "then" _) ?_
    rw [List.map_append]
    cases c.onFalse with
    | none =>
      rw [branchAt, Option.bind_none, Option.map_none]
      split
      · exact List.Sublist.refl _
      · exact List.nil_sublist _
    | some i =>
      rw [if_neg (by simp), List.map_nil, List.append_nil]
      exact names_under "else" _
  refine .obj hnodup fun e he => ?_
  unfold clauseMembers failing at he
  simp only [List.mem_append] at he
  rcases he with ((he | he) | he) | he
  · rw [List.mem_singleton.1 he]
    exact Condition.proper_written hc.1 hc.2
  · exact proper_branchAt h (mem_under he)
  · exact proper_branchAt h (mem_under he)
  · split at he
    · rw [List.mem_singleton.1 he]
      exact proper_failingBranch
    · exact absurd he List.not_mem_nil

/-- The branches of a group are written properly where its conditions and its children are. -/
theorem proper_groupMembers {ps : List Part} (h : ∀ p ∈ ps, p.2.Proper) (kind : GroupKind)
    {clauses : List (Clause Nat)}
    (hc : ∀ c ∈ clauses, c.condition.field.Proper ∧ c.condition.operand.Proper) :
    ∀ e ∈ groupMembers cfg kind clauses ps, e.2.Proper := by
  unfold groupMembers
  cases kind with
  | ifBlock =>
    unfold blockMembers
    cases clauses with
    | nil =>
      intro e he
      rw [List.mem_singleton.1 he]
      exact .obj List.nodup_nil fun m hm => absurd hm List.not_mem_nil
    | cons first rest =>
      have htests : ∀ v ∈ (first :: rest).map (fun c => Value.obj c.condition.written),
          v.Proper := by
        intro v hv
        obtain ⟨c, hmem, rfl⟩ := List.mem_map.1 hv
        exact Condition.proper_written (hc c hmem).1 (hc c hmem).2
      intro e he
      simp only [List.mem_append, List.mem_cons] at he
      rcases he with (rfl | he) | he
      · unfold testOf
        split
        · next test heq => exact htests test (heq ▸ List.mem_singleton_self _)
        · exact Value.proper_singleton (.list htests) _
      · exact proper_branchAt h (mem_under he)
      · exact proper_branchAt h (mem_under he)
  | allOf | anyOf | oneOf =>
    intro e he
    rw [List.mem_singleton.1 he]
    refine .list fun v hv => ?_
    obtain ⟨c, hmem, rfl⟩ := List.mem_map.1 hv
    exact proper_clauseMembers h _ (hc c hmem)

/-- What an object keeps of its `allOf` comes after the groups. -/
theorem proper_groupEntries (hn : n.Proper) {groups : List Value} (hgroups : ∀ v ∈ groups, v.Proper) :
    ∀ e ∈ groupEntries n groups, e.2.Proper := by
  intro e he
  unfold groupEntries at he
  split at he
  · exact absurd he List.not_mem_nil
  split at he
  · next kept hkept =>
    rw [List.mem_singleton.1 he]
    refine .list fun v hv => ?_
    rcases List.mem_append.1 hv with hv | hv
    · exact hgroups v hv
    · cases hfind : Entries.find? n.extras "allOf" with
      | none =>
        rw [hfind] at hkept
        obtain rfl := Value.list.inj hkept
        exact absurd hv List.not_mem_nil
      | some w =>
        rw [hfind] at hkept
        obtain rfl : w = .list kept := hkept
        exact (hn.extras _ (Entries.mem_of_find? hfind)).items v hv
  · rw [List.mem_singleton.1 he]
    exact .list hgroups

theorem proper_objectMembers (hn : n.Proper) {ps : List Part} (h : ∀ p ∈ ps, p.2.Proper)
    (hkeys : (Entries.names (properties ps)).Nodup) : ∀ e ∈ objectMembers n ps, e.2.Proper := by
  intro e he
  unfold objectMembers at he
  simp only [List.mem_append] at he
  rcases he with (he | he) | he
  · split at he
    · exact absurd he List.not_mem_nil
    · rw [List.mem_singleton.1 he]
      refine .obj hkeys fun m hm => ?_
      obtain ⟨p, hp, rfl⟩ := List.mem_map.1 hm
      exact h p (List.mem_filter.1 hp).1
  · split at he
    · exact absurd he List.not_mem_nil
    · rw [List.mem_singleton.1 he]
      exact Value.proper_ofStrings _
  · refine proper_groupEntries hn (fun v hv => ?_) e he
    obtain ⟨p, hp, rfl⟩ := List.mem_map.1 hv
    exact h p (List.mem_filter.1 hp).1

theorem proper_inner (hn : n.Proper) {ps : List Part} (h : ∀ p ∈ ps, p.2.Proper)
    (hkeys : n.kind = .object → (Entries.names (properties ps)).Nodup) :
    ∀ e ∈ inner cfg n ps, e.2.Proper := by
  have hconditions := hn.conditions
  unfold inner contents
  cases hb : n.body with
  | group kind clauses =>
    unfold Node.clauses at hconditions
    rw [hb] at hconditions
    exact proper_groupMembers h kind hconditions
  | object own => exact proper_objectMembers hn h (hkeys (by rw [Node.kind, hb]; rfl))
  | array own =>
    intro e he
    obtain ⟨p, hp, rfl⟩ := List.mem_map.1 he
    exact h p (List.mem_of_mem_head? (Option.mem_toList.1 hp))
  | string _ | number _ | boolean | enum _ | definition _ | reference _ =>
    exact fun e he => absurd he List.not_mem_nil

theorem proper_annotations (hn : n.Proper) : ∀ e ∈ annotations n, e.2.Proper := by
  intro e he
  unfold annotations at he
  simp only [List.mem_append] at he
  rcases he with (he | he) | he
  · split at he
    · exact absurd he List.not_mem_nil
    · rw [List.mem_singleton.1 he]
      exact hn.title
  · split at he
    · exact absurd he List.not_mem_nil
    · rw [List.mem_singleton.1 he]
      exact hn.description
  · obtain ⟨v, hv, rfl⟩ := List.mem_map.1 he
    exact hn.default v (Option.mem_toList.1 hv)

theorem nodup_names_annotations (n : Node Nat) : (Entries.names (annotations n)).Nodup := by
  refine List.Nodup.sublist ?_ (show ["title", "description", "default"].Nodup by decide)
  have hset : ∀ (keyword : String) (v : Value),
      (Entries.names (if v.isNull then [] else [(keyword, v)])).Sublist [keyword] := by
    intro keyword v
    split
    · exact List.nil_sublist _
    · exact List.Sublist.refl _
  unfold annotations
  rw [Entries.names, List.map_append, List.map_append, List.append_assoc]
  refine (hset "title" _).append ((hset "description" _).append ?_)
  cases n.default with
  | none => exact List.nil_sublist _
  | some v => exact List.Sublist.refl _

/-- What is written of a node whatever hangs below it is proper. -/
theorem proper_fixed (hn : n.Proper) : (Value.obj (fixed n)).Proper := by
  have hannotations := nodup_names_annotations n
  have hcons : ∀ {k : String} {v : Value}, k ∉ ["title", "description", "default"] → v.Proper →
      (Value.obj ((k, v) :: annotations n)).Proper := by
    intro k v hk hv
    refine .obj (List.nodup_cons.2 ⟨fun h => ?_, hannotations⟩) fun e he => ?_
    · change k ∈ Entries.names (annotations n) at h
      rw [Entries.mem_names_iff, find?_annotations_eq_none hk] at h
      exact Bool.false_ne_true h
    · rcases List.mem_cons.1 he with rfl | he
      · exact hv
      · exact proper_annotations hn e he
  have hhead : (Value.obj (head n)).Proper := by
    unfold head
    split
    · exact hcons (by decide) (.str _)
    · exact .obj hannotations (proper_annotations hn)
  unfold fixed
  cases hb : n.body with
  | group _ _ => exact .obj hannotations (proper_annotations hn)
  | reference target => exact hcons (by decide) (.str _)
  | string _ | number _ | boolean | enum _ | object _ | array _ | definition _ =>
    cases hhead with
    | obj hnodup hvalues =>
      refine .obj (Entries.nodup_names_putAll hnodup _) fun e he => ?_
      rcases Entries.mem_putAll he with he | he
      · exact hvalues e he
      · exact hn.attributes e (hb ▸ he)

/-- What is written of an outline is proper when its values are. -/
theorem Proper.written {o : Outline} (hp : o.Proper) (hw : o.Writable) (cfg : DocumentConfig) :
    (o.written cfg).Proper := by
  induction hp with
  | @mk n bs hn below ih =>
    obtain ⟨_, _, _, _, _, hkeys, hbelow⟩ := hw
    have hparts : ∀ p ∈ parts cfg bs, p.2.Proper := by
      intro p hp
      rw [parts_eq] at hp
      obtain ⟨b, hb, rfl⟩ := List.mem_map.1 hp
      exact ih b hb (hbelow b hb)
    have hproperties : n.kind = .object → (Entries.names (properties (parts cfg bs))).Nodup := by
      intro hobject
      rw [properties_parts, fieldsOf, Entries.names, List.map_map, List.map_map]
      exact hkeys hobject
    rw [Outline.written, members_eq]
    cases proper_fixed hn with
    | obj hnodup hvalues =>
      refine .obj (Entries.nodup_names_foldl_putNew (Entries.nodup_names_putAll hnodup _) _)
        fun e he => ?_
      rcases Entries.mem_foldl_putNew he with he | he
      · rcases Entries.mem_putAll he with he | he
        · exact hvalues e he
        · exact proper_inner hn hparts hproperties e he
      · exact hn.extras e he

end Outline

/-! ## What is read -/

namespace Condition

theorem proper_readComparison? {comparison : Value} (hp : comparison.Proper)
    {r : Operator × Value} (h : readComparison? comparison = some r) : r.2.Proper := by
  unfold readComparison? at h
  split at h
  · next members =>
    split at h
    · next v hfind =>
      obtain rfl := Option.some.inj h
      exact hp.of_find? hfind
    · split at h
      · next v hnegated =>
        obtain rfl := Option.some.inj h
        unfold negatedConst? at hnegated
        have hmember := hp.member "not"
        split at hnegated
        · next negated heq => exact (heq ▸ hmember).of_find? hnegated
        · cases hnegated
      · split at h
        · next hbound =>
          obtain rfl := Option.some.inj h
          unfold readBound? at hbound
          obtain ⟨b, _, hv⟩ := List.exists_of_findSome?_eq_some hbound
          obtain ⟨v, hfind, rfl⟩ := Option.map_eq_some_iff.1 hv
          exact hp.of_find? hfind
        · split_ifs at h
          · obtain rfl := Option.some.inj h
            exact .null
          · obtain rfl := Option.some.inj h
            exact .null
          · split at h
            · obtain rfl := Option.some.inj h
              obtain ⟨s, hs⟩ := operand_readPattern ‹_›
              rw [hs]
              exact .str s
            · cases h
  · cases h

theorem proper_of {field operand : Value} (hfield : field.Proper) (hoperand : operand.Proper)
    (operator : Operator) :
    (of field operator operand).field.Proper ∧ (of field operator operand).operand.Proper := by
  refine ⟨hfield, ?_⟩
  cases operator <;> first | exact hoperand | exact .null

/-- A condition that is read of a proper test has a proper operand. -/
theorem proper_parse {fragment : Value} (hp : fragment.Proper) {path : String} {c : Condition}
    (h : (parse fragment path).1 = some c) : c.field.Proper ∧ c.operand.Proper := by
  unfold parse at h
  split at h
  · cases h
  · cases h
  · next field comparison others htested =>
    obtain rfl := Option.some.inj h
    have hcomparison : comparison.Proper := by
      unfold testedProperties? at htested
      split at htested
      · next members =>
        have hmember := hp.member "properties"
        split at htested
        · next p ps heq =>
          obtain ⟨rfl, rfl⟩ := List.cons.inj (Option.some.inj htested)
          exact (heq ▸ hmember).of_mem List.mem_cons_self
        · cases htested
      · cases htested
    unfold read
    split
    · next hread => exact proper_of (.str _) (proper_readComparison? hcomparison hread) _
    · exact proper_of (.str _) (.str _) _

end Condition

/-- The attributes that are read of a proper schema are proper. -/
theorem Body.proper_ofFragment {schema : Members} (hp : (Value.obj schema).Proper)
    (kind : NodeKind) : ∀ e ∈ (ofFragment kind schema : Body Nat).keywords, e.2.Proper := by
  have hmember : ∀ {rows : Members}, (∀ e ∈ rows, e.2.Proper) →
      ∀ e ∈ rows.filter fun r => !r.2.isNull, e.2.Proper :=
    fun h e he => h e (List.mem_filter.1 he).1
  have henum : ((Entries.find? schema "enum").getD (.list [])).Proper := by
    cases hfind : Entries.find? schema "enum" with
    | none => exact .list fun v hv => absurd hv List.not_mem_nil
    | some v => exact hp.of_find? hfind
  cases kind with
  | string =>
    refine hmember (?_ : ∀ e ∈ StringAttributes.set.written.map _, _)
    rw [StringAttributes.ofFragment_eq]
    simpa [StringAttributes.set] using ⟨hp.member _, hp.member _, hp.member _, hp.member _⟩
  | number =>
    refine hmember (?_ : ∀ e ∈ NumberAttributes.set.written.map _, _)
    rw [NumberAttributes.ofFragment_eq]
    simpa [NumberAttributes.set] using
      ⟨hp.member _, hp.member _, hp.member _, hp.member _, hp.member _⟩
  | enum =>
    refine hmember (?_ : ∀ e ∈ EnumAttributes.set.written.map _, _)
    rw [EnumAttributes.ofFragment_eq]
    simpa [EnumAttributes.set] using ⟨hp.member _, henum, hp.member _⟩
  | object =>
    refine hmember (?_ : ∀ e ∈ ObjectAttributes.set.written.map _, _)
    rw [ObjectAttributes.ofFragment_eq]
    simpa [ObjectAttributes.set] using ⟨hp.member _, hp.member _, hp.member _⟩
  | array =>
    refine hmember (?_ : ∀ e ∈ ArrayAttributes.set.written.map _, _)
    rw [ArrayAttributes.ofFragment_eq]
    simpa [ArrayAttributes.set] using ⟨hp.member _, hp.member _, hp.member _, hp.member _⟩
  | boolean | group _ | definition | reference => exact fun e he => absurd he List.not_mem_nil

namespace Decompile

variable {below : Reader}

theorem proper_textOf (schema : Members) (keyword path : String) :
    (textOf schema keyword path).value.Proper := by
  unfold textOf
  split
  · exact .null
  · exact .str _
  · exact .null

/-- A node that is read of a proper schema is proper when its body and what is kept are. -/
theorem proper_nodeOf {key : String} {body : Body Nat} {schema : Members}
    (hp : (Value.obj schema).Proper) (consumed : List String) {kept : Members} (required : Bool)
    (path : String) (hbody : ∀ e ∈ body.keywords, e.2.Proper) (hkept : ∀ e ∈ kept, e.2.Proper)
    (hconditions : ∀ kind clauses, body = .group kind clauses →
      ∀ c ∈ clauses, c.condition.field.Proper ∧ c.condition.operand.Proper) :
    (nodeOf key body schema consumed kept required path).value.Proper := by
  have heq := body_nodeOf key body schema consumed kept required path
  refine ⟨proper_textOf .., proper_textOf .., fun v hv => hp.of_find? hv, heq.symm ▸ hbody,
    fun e he => ?_, fun c hc => ?_⟩
  · rw [extras_nodeOf] at he
    rcases Entries.mem_putAll he with he | he
    · cases hp with
      | obj _ hmembers => exact hmembers e (List.mem_filter.1 he).1
    · exact hkept e he
  · unfold Node.clauses at hc
    rw [heq] at hc
    cases body with
    | group kind clauses => exact hconditions kind clauses rfl c hc
    | string _ | number _ | boolean | enum _ | object _ | array _ | definition _ | reference _ =>
      exact absurd hc List.not_mem_nil

theorem proper_group (hb : ReadsOnly Outline.Proper below) :
    GroupsOnly Outline.Proper below := by
  intro kind schema taken path hp _ hc
  rw [group_eq] at hc ⊢
  have hparts := groupParts_holds hb hp (Noted.calm_bind_iff.1 hc).1
  refine .mk (proper_nodeOf hp _ _ _ (fun e he => absurd he List.not_mem_nil)
    (fun e he => absurd he List.not_mem_nil) fun kind' clauses heq => ?_) fun b hb => (hparts b hb).2
  cases heq
  exact conditions_groupParts (fun hp h => Condition.proper_parse hp h) below kind hp path

/-- What is kept of a list that was read in part stood in it. -/
theorem ObjectParts.Accounts.proper_kept {parts : ObjectParts} {schema : Members}
    (h : parts.Accounts schema) (hp : (Value.obj schema).Proper) :
    ∀ e ∈ parts.kept, e.2.Proper := by
  intro e he
  rcases h.kept with hnil | ⟨_, items, others, hitems, heq, _, hothers⟩
  · rw [hnil] at he
    exact absurd he List.not_mem_nil
  · rw [heq] at he
    rw [List.mem_singleton.1 he]
    exact .list fun v hv => (hp.of_find? hitems).items v (hothers v hv).1

theorem proper_typed (hb : ReadsOnly Outline.Proper below) {tupleItems : TupleItems}
    {inner : Inner} {schema : Members} (hp : (Value.obj schema).Proper)
    (hc : (typed below tupleItems inner schema).Calm) :
    (typed below tupleItems inner schema).value.Proper := by
  rw [typed_eq, Noted.calm_bind_iff] at hc
  rw [typed_eq, Noted.value_bind]
  simp only [Noted.calm_bind_iff] at hc
  obtain ⟨_, _, hparts, _, _⟩ := hc
  have hchildren := partsOf_holds hb (proper_group hb) hp hparts
  obtain ⟨hobject, hrest, _⟩ := accounts_partsOf hparts
  simp only [Noted.value_bind, Noted.value_pure]
  refine .mk (proper_nodeOf hp _ _ _ (Body.proper_ofFragment hp _) ?_ fun kind clauses heq => ?_)
    fun b hmem => ?_
  · by_cases h : (inferKind schema inner.path).value = .object
    · exact (hobject h).proper_kept hp
    · rw [hrest h]
      exact fun e he => absurd he List.not_mem_nil
  · have hgroup := inferKind_isGroup schema inner.path
    have hkind : (Body.ofFragment (inferKind schema inner.path).value schema : Body Nat).kind = _ :=
      Body.kind_ofFragment ..
    rw [heq] at hkind
    rw [← hkind] at hgroup
    cases hgroup
  · obtain ⟨o, ho, rfl⟩ := List.mem_map.1 hmem
    exact hchildren o ho

/-- Everything that is read calmly of a proper schema is proper. -/
theorem proper_reader (tupleItems : TupleItems) (names : List String) (depth : Nat) :
    ReadsOnly Outline.Proper (reader tupleItems names depth) := by
  induction depth with
  | zero => exact fun inner o _ _ h => by simp [reader] at h
  | succ depth ih =>
    refine schema_holds (proper_group ih) (fun inner members _ hp => ?_)
      fun inner members hc hp _ => proper_typed ih hp hc
    exact .mk (proper_nodeOf hp _ _ _ (fun e he => absurd he List.not_mem_nil)
      (fun e he => absurd he List.not_mem_nil) fun kind clauses heq => by cases heq)
      fun b hb => absurd hb List.not_mem_nil

end Decompile

/-- No value in the document holds an object with two members of one name. -/
structure DocumentOutline.Proper (d : DocumentOutline) : Prop where
  /-- None in the root. -/
  root : d.root.Proper
  /-- None in the contents of the definitions. -/
  content : ∀ e ∈ d.definitions, ∀ o, e.content = some o → o.Proper

/-- A proper document that is read calmly is read as a proper outline. -/
theorem Decompile.proper_outline (tupleItems : TupleItems) {document : Members}
    (hp : (Value.obj document).Proper) (hc : (outline tupleItems document).Calm) :
    (outline tupleItems document).value.Proper := by
  have hb := proper_reader tupleItems (Entries.names (definitionTable document).value)
    (Value.obj document).depth
  refine ⟨?_, contents_hold hp hc hb⟩
  rw [outline_eq] at hc ⊢
  simp only [Noted.value_bind, Noted.value_pure, Noted.calm_bind_iff] at hc ⊢
  obtain ⟨_, _, _, hparts, _, _⟩ := hc
  have hchildren := objectParts_holds hb (proper_group hb) hp hparts
  refine .mk (proper_nodeOf hp _ _ _ (Body.proper_ofFragment hp _)
    ((accounts_objectParts hparts).proper_kept hp) fun kind clauses heq => by cases heq)
    fun b hmem => ?_
  obtain ⟨o, ho, rfl⟩ := List.mem_map.1 hmem
  exact hchildren o ho

/-- A proper outline of a document is written as a proper document. -/
theorem DocumentOutline.Proper.written {d : DocumentOutline} (hp : d.Proper) (hw : d.Writable)
    (cfg : DocumentConfig) (keep : String → Bool) : (d.written cfg keep).Proper := by
  have hroot : (Value.obj (d.rootMembers cfg)).Proper := by
    have h := hp.root.written hw.root cfg
    rw [Readable.written_root] at h
    rwa [Readable.rootMembers_eq]
  have htable : (Value.obj (d.table cfg keep)).Proper := by
    refine .obj ?_ fun e he => ?_
    · rw [names_table]
      exact hw.names.sublist (List.filter_sublist.map _)
    · obtain ⟨e, hkept, rfl⟩ := List.mem_map.1 he
      have hmem := (List.mem_filter.1 hkept).1
      dsimp only
      unfold DefinitionOutline.written
      cases hc : e.content with
      | none => exact .obj List.nodup_nil fun m hm => absurd hm List.not_mem_nil
      | some o => exact (hp.content e hmem o hc).written (hw.content e hmem o hc) cfg
  rw [written_eq]
  unfold members
  split
  · exact hroot
  · cases hroot with
    | obj hnodup hvalues =>
      refine .obj (Entries.nodup_names_put hnodup _ _) fun e he => ?_
      rcases Entries.mem_put he with he | rfl
      · exact hvalues e he
      · exact htable

end FormGraph

import FormGraph.Proofs.Reading.Tidy
import FormGraph.Proofs.Reading.Usable
import FormGraph.Proofs.Reread.Node

/-!
# What was read once can be read back

Everything that is read calmly of a proper schema meets what is asked of an outline that is to be
read back: its texts are texts, its attributes well typed and its conditions conditions, and nothing
that is left of a schema stands under a keyword that is read. For an object that takes a look at how
each of the keywords of its children is dealt with (`ObjectParts.Accounts`).
-/

namespace FormGraph

open Noted

/-! ## Conditions -/

namespace Condition

theorem reads_of {key : String} {operator : Operator} {operand : Value}
    (h : operator.isPattern = true → ∃ s, operand = .str s) :
    (of (.str key) operator operand).Reads where
  field := ⟨key, rfl⟩
  operand hp := by
    obtain ⟨s, rfl⟩ := h hp
    refine ⟨s, ?_⟩
    cases operator <;> first | rfl | cases hp

theorem operand_readPattern (pattern : String) : ∃ s, (readPattern pattern).2 = .str s := by
  unfold readPattern
  dsimp only
  split
  · exact ⟨_, rfl⟩
  · split
    · exact ⟨_, rfl⟩
    · split <;> exact ⟨_, rfl⟩

theorem isPattern_of_mem_bounds {b : Operator × String} (h : b ∈ bounds) :
    b.1.isPattern = false := by
  revert b
  decide

/-- What is looked for in a text is a text. -/
theorem operand_readComparison? {comparison : Value} {r : Operator × Value}
    (h : readComparison? comparison = some r) (hp : r.1.isPattern = true) : ∃ s, r.2 = .str s := by
  unfold readComparison? at h
  split at h
  · split at h
    · obtain rfl := Option.some.inj h
      cases hp
    · split at h
      · obtain rfl := Option.some.inj h
        cases hp
      · split at h
        · next hbound =>
          obtain rfl := Option.some.inj h
          unfold readBound? at hbound
          obtain ⟨b, hb, hv⟩ := List.exists_of_findSome?_eq_some hbound
          obtain ⟨v, _, rfl⟩ := Option.map_eq_some_iff.1 hv
          rw [isPattern_of_mem_bounds hb] at hp
          cases hp
        · split_ifs at h
          · obtain rfl := Option.some.inj h
            cases hp
          · obtain rfl := Option.some.inj h
            cases hp
          · split at h
            · obtain rfl := Option.some.inj h
              exact operand_readPattern _
            · cases h
  · cases h

/-- A condition that was read can be read again. -/
theorem reads_parse {fragment : Value} {path : String} {c : Condition}
    (h : (parse fragment path).1 = some c) : c.Reads := by
  unfold parse at h
  split at h
  · cases h
  · cases h
  · next field comparison others _ =>
    obtain rfl := Option.some.inj h
    unfold read
    split
    · next hread => exact reads_of (operand_readComparison? hread)
    · exact reads_of fun hp => by cases hp

end Condition

namespace Decompile

open Outline

variable {below : Reader} {names : List String}

theorem reads_conditionOf {test : Value} {path : String} {c : Condition}
    (h : (conditionOf test path).value = some c) : c.Reads :=
  Condition.reads_parse h

/-- What holds of every condition that is read of a proper test holds of those of a list of
clauses. -/
theorem conditions_clausesOf {Q : Condition → Prop} (hQ : ∀ {test : Value} {path : String}
      {c : Condition}, test.Proper → (conditionOf test path).value = some c → Q c)
    (below : Reader) (kind : GroupKind) {entries : List Value} (hp : ∀ v ∈ entries, v.Proper)
    (path : String) : ∀ c ∈ (clausesOf below kind entries path).value.clauses, Q c.condition := by
  have hstep : ∀ (parts : GroupParts) (entry : Members) (path : String),
      (Value.obj entry).Proper → (∀ c ∈ parts.clauses, Q c.condition) →
      ∀ c ∈ (clauseOf below kind path parts entry).value.clauses, Q c.condition := by
    intro parts entry path hproper h
    unfold clauseOf
    simp only [value_bind]
    have hclauses := clauses_sharedBranch below .thenBranch (path ++ "/then")
      (Entries.find? entry "then") parts
    generalize (sharedBranch below .thenBranch (path ++ "/then") (Entries.find? entry "then")
      parts).value = first at hclauses ⊢
    obtain ⟨next, i⟩ := first
    have hclauses' := clauses_sharedBranch below .elseBranch (path ++ "/else")
      (if (Value.member entry "else").same Compile.failingBranch && kind ≠ .allOf then none
        else Entries.find? entry "else") next
    dsimp only at hclauses ⊢
    generalize (sharedBranch below .elseBranch (path ++ "/else") _ next).value = second
      at hclauses' ⊢
    obtain ⟨last, j⟩ := second
    dsimp only at hclauses' ⊢
    split
    · rw [value_pure, hclauses', hclauses]
      exact h
    · next c hc =>
      intro c' hc'
      rcases List.mem_append.1 hc' with hc' | hc'
      · rw [hclauses', hclauses] at hc'
        exact h c' hc'
      · rw [List.mem_singleton.1 hc']
        exact hQ (hproper.member "if") hc
  rw [clausesOf_eq]
  have hitems : ∀ item ∈ entries.zipIdx, item.1.Proper :=
    fun item hitem => hp _ (List.fst_mem_of_mem_zipIdx hitem)
  generalize entries.zipIdx = items at hitems
  have hstart : ∀ c ∈ ({} : GroupParts).clauses, Q c.condition := by simp
  generalize ({} : GroupParts) = parts at hstart
  induction items generalizing parts with
  | nil => exact hstart
  | cons item items ih =>
    rw [List.foldlM_cons, value_bind]
    refine ih (fun item hitem => hitems item (List.mem_cons_of_mem _ hitem)) _ ?_
    have hproper := hitems item List.mem_cons_self
    obtain ⟨v, i⟩ := item
    cases v with
    | obj entry => exact hstep parts entry _ hproper hstart
    | null | bool _ | int _ | float _ | str _ | list _ => exact hstart

/-- The conditions of an `if` block are read of tests that stand in its test. -/
theorem value_testsOf {test : Members} (hp : (Value.obj test).Proper) (path : String) :
    ∃ tests : List Value, (∀ t ∈ tests, t.Proper) ∧ (testsOf test path).value =
      List.filterMap id (tests.map fun t => (conditionOf t (path ++ "/if")).value) := by
  suffices h : ∃ tests : List Value, (∀ t ∈ tests, t.Proper) ∧ (testsOf test path).value =
      List.filterMap id (tests.mapM fun t => conditionOf t (path ++ "/if")).value by
    obtain ⟨tests, hproper, h⟩ := h
    exact ⟨tests, hproper, by rw [h, value_mapM]⟩
  have hnone : ∀ t ∈ ([] : List Value), t.Proper := by simp
  unfold testsOf
  cases hfind : Entries.find? test "allOf" with
  | none =>
    refine ⟨_, fun t ht => ?_, rfl⟩
    split at ht
    · exact absurd ht List.not_mem_nil
    · rw [List.mem_singleton.1 ht]
      exact hp
  | some v =>
    cases v with
    | list tests => exact ⟨tests, (hp.of_find? hfind).items, rfl⟩
    | null | bool _ | int _ | float _ | str _ | obj _ => exact ⟨[], hnone, rfl⟩

/-- What holds of every condition that is read of a proper test holds of those of a group. -/
theorem conditions_groupParts {Q : Condition → Prop} (hQ : ∀ {test : Value} {path : String}
      {c : Condition}, test.Proper → (conditionOf test path).value = some c → Q c)
    (below : Reader) (kind : GroupKind) {schema : Members} (hp : (Value.obj schema).Proper)
    (path : String) : ∀ c ∈ (groupParts below kind schema path).value.clauses, Q c.condition := by
  cases kind with
  | ifBlock =>
    intro c hc
    unfold groupParts blockOf at hc
    simp only [value_bind, value_pure] at hc
    obtain ⟨condition, hmem, rfl⟩ := List.mem_map.1 hc
    obtain ⟨tests, hproper, htests⟩ := value_testsOf (hp.fields "if") path
    rw [htests] at hmem
    obtain ⟨x, hx, rfl⟩ := List.mem_filterMap.1 hmem
    obtain ⟨test, hmem, htest⟩ := List.mem_map.1 hx
    exact hQ (hproper test hmem) htest
  | allOf | anyOf | oneOf => exact conditions_clausesOf hQ below _ (hp.entries _) _

/-! ## Texts and extras -/

theorem extras_nodeOf (key : String) (body : Body Nat) (schema : Members) (consumed : List String)
    (kept : Members) (required : Bool) (path : String) :
    (nodeOf key body schema consumed kept required path).value.extras =
      Entries.putAll (remaining schema consumed) kept := rfl

theorem names_remaining {schema : Members} {consumed : List String} {k : String} :
    k ∈ Entries.names (remaining schema consumed) ↔
      k ∈ Entries.names schema ∧ k ∉ consumed ∧ k ∉ annotationKeywords := by
  unfold remaining Entries.names
  simp only [List.mem_map, List.mem_filter, Bool.and_eq_true, Bool.not_eq_true',
    List.contains_eq_mem, decide_eq_false_iff_not]
  constructor
  · rintro ⟨e, ⟨he, hc, ha⟩, rfl⟩
    exact ⟨⟨e, he, rfl⟩, hc, ha⟩
  · rintro ⟨⟨e, he, rfl⟩, hc, ha⟩
    exact ⟨e, ⟨he, hc, ha⟩, rfl⟩

/-- What is left of a schema behind the keywords that are read, and what is kept of one that was read
in part, stand under different keywords. -/
theorem extras_disjoint {schema : Members} (hp : (Value.obj schema).Proper) {consumed : List String}
    {kept : Members} (hnodup : (Entries.names kept).Nodup)
    (hkept : ∀ k ∈ Entries.names kept, k ∈ consumed) :
    (Entries.names (remaining schema consumed ++ kept)).Nodup := by
  rw [Entries.names, List.map_append]
  refine List.nodup_append.2 ⟨hp.names.sublist (List.filter_sublist.map _), hnodup, ?_⟩
  rintro a ha b hb rfl
  exact (names_remaining.1 ha).2.1 (hkept a hb)

/-- A node that is read calmly has texts, and extras under keywords that are not read. -/
theorem labelled_nodeOf {key : String} {body : Body Nat} {schema : Members}
    {consumed : List String} {kept : Members} {required : Bool} {path : String}
    (hp : (Value.obj schema).Proper)
    (hc : (nodeOf key body schema consumed kept required path).Calm)
    (hnodup : (Entries.names kept).Nodup) (hkept : ∀ k ∈ Entries.names kept, k ∈ consumed)
    {keywords : List String}
    (hread : ∀ k ∈ keywords, k ∈ consumed ∨ k ∉ Entries.names schema)
    (hfree : ∀ k ∈ Entries.names kept, k ∉ annotationKeywords ++ keywords) :
    Labelled (nodeOf key body schema consumed kept required path).value keywords := by
  obtain ⟨htitle, hdescription, hvalue⟩ := nodeOf_of_calm hc
  have hdisjoint := extras_disjoint hp hnodup hkept
  rw [hvalue]
  refine ⟨htitle, hdescription, ?_, fun k hk hmem => ?_⟩
  · rw [madeOf, Entries.putAll_of_disjoint hdisjoint]
    exact hdisjoint
  · rw [madeOf, Entries.putAll_of_disjoint hdisjoint, Entries.names, List.map_append] at hmem
    rcases List.mem_append.1 hmem with hmem | hmem
    · obtain ⟨hschema, hconsumed, hannotated⟩ := names_remaining.1 hmem
      rcases List.mem_append.1 hk with hk | hk
      · exact hannotated hk
      · exact (hread k hk).elim hconsumed fun h => h hschema
    · exact hfree k hmem hk

theorem attributeTypes_of_calm {body : Body Nat} {path : String}
    (hc : (attributeIssues body path).Calm) : Check.attributeTypes body = [] := by
  unfold attributeIssues at hc
  rw [calm_forM_iff] at hc
  rw [List.eq_nil_iff_forall_not_mem]
  exact fun problem hmem => not_calm_issue _ (hc problem hmem)

/-! ## Groups -/

/-- What is read by itself is bare. -/
def BareReader (below : Reader) : Prop := ∀ inner o, (below inner).value = some o → o.Bare

theorem bareReader_schema (below : Reader) (tupleItems : TupleItems) (names : List String) :
    BareReader (schema below tupleItems names) := by
  intro inner o h hgroup
  unfold schema at h
  split at h
  · next members _ =>
    cases hkind : (if inner.role = .content then bareGroupKind? inner.schema else none) with
    | some kind =>
      next hschema =>
      simp only [hkind] at h
      obtain rfl := Option.some.inj h
      split at hkind
      · rw [hschema] at hkind
        unfold bareGroupKind? at hkind
        dsimp only at hkind
        split at hkind
        · cases hkind
        · next hnone =>
          intro k hk hmem
          have hextras : (group below kind members [] inner.path).value.node.extras =
              remaining members (groupKeywords kind) := by
            rw [group_eq]
            rfl
          rw [hextras] at hmem
          refine hnone ?_
          unfold hasAny
          rw [List.any_eq_true]
          exact ⟨k, hk, Entries.mem_names_iff.1 (names_remaining.1 hmem).1⟩
      · cases hkind
    | none =>
      simp only [hkind] at h
      by_cases href : Entries.has members "$ref" = true
      · rw [if_pos href] at h
        obtain rfl := Option.some.inj h
        cases hgroup
      · rw [if_neg href] at h
        obtain rfl := Option.some.inj h
        obtain ⟨_, hkind⟩ := typed_value below tupleItems inner members
        rw [hkind, inferKind_isGroup] at hgroup
        cases hgroup
  · simp at h

theorem bareReader_reader (tupleItems : TupleItems) (names : List String) (depth : Nat) :
    BareReader (reader tupleItems names depth) := by
  cases depth with
  | zero => exact fun _ _ h => by simp [reader] at h
  | succ depth => exact bareReader_schema _ tupleItems names

theorem BareReader.readsOnly (h : BareReader below) : ReadsOnly Bare below :=
  fun inner o _ _ ho => h inner o ho

/-- Of a schema of the form of a group, the keywords that its extras cannot have are read or are not
there. -/
theorem reserved_of_groupKind? {schema : Members} {kind : GroupKind}
    (h : groupKind? (.obj schema) = some kind) :
    ∀ k ∈ reserved (.group kind), k ∈ groupKeywords kind ∨ k ∉ Entries.names schema := by
  unfold groupKind? at h
  dsimp only at h
  split at h
  · split_ifs at h
    obtain rfl := Option.some.inj h
    exact fun k hk => .inl hk
  · next hif =>
    split at h
    · next kind' hlist =>
      split_ifs at h with hany
      split at h
      · split_ifs at h
        obtain rfl := Option.some.inj h
        have hmem : kind' ∈ listGroups.filter fun k => Entries.has schema k.name := by
          rw [hlist]
          exact List.mem_singleton_self kind'
        have hnone : ∀ k ∈ ["properties", "type", "$ref"], k ∉ Entries.names schema := by
          intro k hk hmem
          refine hany ?_
          unfold hasAny
          rw [List.any_eq_true]
          exact ⟨k, hk, Entries.mem_names_iff.1 hmem⟩
        have hothers : ∀ g ∈ listGroups, g ≠ kind' → g.name ∉ Entries.names schema := by
          intro g hg hne hmem
          have hin : g ∈ listGroups.filter fun k => Entries.has schema k.name :=
            List.mem_filter.2 ⟨hg, Entries.mem_names_iff.1 hmem⟩
          rw [hlist] at hin
          exact hne (List.mem_singleton.1 hin)
        have hif' : "if" ∉ Entries.names schema := Entries.find?_eq_none_iff.1 hif
        have hlisted := (List.mem_filter.1 hmem).1
        clear hmem hlist h hif
        intro k hk
        cases kind' with
        | ifBlock => exact absurd hlisted (by decide)
        | allOf | anyOf | oneOf =>
          simp only [reserved, List.mem_cons, List.not_mem_nil, or_false] at hk
          rcases hk with rfl | rfl | rfl | rfl | rfl | rfl | rfl
          · exact .inr hif'
          · first
            | exact .inl (List.mem_singleton_self _)
            | exact .inr (hothers .allOf (by decide) (by decide))
          · first
            | exact .inl (List.mem_singleton_self _)
            | exact .inr (hothers .anyOf (by decide) (by decide))
          · first
            | exact .inl (List.mem_singleton_self _)
            | exact .inr (hothers .oneOf (by decide) (by decide))
          · exact .inr (hnone _ (by decide))
          · exact .inr (hnone _ (by decide))
          · exact .inr (hnone _ (by decide))
      · cases h
    · cases h

theorem readable_group (hb : ReadsOnly (Outline.Readable names) below) (hf : FitReader below)
    (hbare : BareReader below) : GroupsOnly (Outline.Readable names) below := by
  intro kind schema taken path hp hkind hc
  have hfits := fits_group hf kind schema taken path
  rw [group_eq] at hc hfits ⊢
  have hcalm := calm_bind_iff.1 hc
  have hparts := groupParts_holds hb hp hcalm.1
  have hbares := groupParts_holds hbare.readsOnly hp hcalm.1
  have hconditions := conditions_groupParts (fun _ => reads_conditionOf) below kind hp path
  have hlabelled := labelled_nodeOf hp (calm_bind_iff.1 hcalm.2).1 List.nodup_nil
    (fun k hk => absurd hk List.not_mem_nil) (reserved_of_groupKind? hkind)
    fun k hk => absurd hk List.not_mem_nil
  simp only [value_bind, value_pure] at hfits ⊢
  generalize hn : (nodeOf (groupKey kind schema taken)
    (.group kind (groupParts below kind schema path).value.clauses) schema (groupKeywords kind) []
    false path).value = n at hlabelled hfits ⊢
  have hbody : n.body = .group kind (groupParts below kind schema path).value.clauses := by
    rw [← hn, body_nodeOf]
  have hnkind : n.kind = .group kind := by
    rw [Node.kind, hbody]
    rfl
  refine .mk (hnkind ▸ hlabelled) (by rw [hbody]; rfl) ?_ fun b hb => (hparts b hb).2
  unfold OwnReads
  rw [hbody]
  intro c hmem
  refine ⟨hconditions c hmem, fun k i hi => ?_⟩
  have hclause : c ∈ n.clauses := by
    rw [Node.clauses, hbody]
    exact hmem
  obtain ⟨o, ho⟩ := hfits.clauses c hclause k i hi
  exact ⟨o, ho, (hbares _ (List.mem_of_getElem? ho)).2⟩

end Decompile

end FormGraph

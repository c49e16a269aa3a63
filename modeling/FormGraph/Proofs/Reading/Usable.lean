import FormGraph.Proofs.Inside
import FormGraph.Proofs.Reading.Calm
import FormGraph.Value.Pairs

/-!
# Where reading breaks down

Reading goes on whatever it meets, with one exception: the test of an `if` block that tests a property
and has, beside it, an `allOf` in which there is nothing to go through (`BrokenBlock`). A reading
without such a block is usable: its notes are issues and warnings. The reader for the schemas within
a schema has enough depth left because what stands inside a value is less deep.
-/

namespace FormGraph

/-- A schema that is taken for an `if` block because its test tests a property, although the `allOf`
beside that property is no list, nor anything else that has items. -/
def BrokenBlock (v : Value) : Prop :=
  ∃ members test conditions, v = .obj members ∧ Entries.find? members "if" = some (.obj test) ∧
    Condition.isFragment (.obj test) = true ∧ Entries.find? test "allOf" = some conditions ∧
    Pairs.itemsOf? conditions = none

/-- Whether a schema is a broken block. -/
def isBrokenBlock : Value → Bool
  | .obj members =>
    match Entries.find? members "if" with
    | some (.obj test) =>
      Condition.isFragment (.obj test) &&
        ((Entries.find? test "allOf").any fun conditions => (Pairs.itemsOf? conditions).isNone)
    | _ => false
  | _ => false

theorem isBrokenBlock_of_brokenBlock {v : Value} (h : BrokenBlock v) : isBrokenBlock v = true := by
  obtain ⟨members, test, conditions, rfl, hif, hfragment, hconditions, hnone⟩ := h
  simp [isBrokenBlock, hif, hfragment, hconditions, hnone]

/-- No broken block stands in the value, nor is it one. -/
def Value.Unbroken (v : Value) : Prop := ∀ w, w = v ∨ Value.Inside w v → ¬ BrokenBlock w

theorem Value.Unbroken.inside {v w : Value} (hv : v.Unbroken) (h : Value.Inside w v) :
    w.Unbroken := by
  intro u hu
  refine hv u (Or.inr ?_)
  rcases hu with rfl | hu
  · exact h
  · exact hu.trans h

namespace Noted

variable {α β : Type}

/-- Nothing in a reading was met that it cannot deal with. -/
def Usable (x : Reading α) : Prop := x.All (· ≠ .unusable)

theorem usable_pure (a : α) : Usable (pure a : Reading α) := all_pure a

theorem usable_bind_iff {x : Reading α} {f : α → Reading β} :
    Usable (x >>= f) ↔ x.Usable ∧ (f x.value).Usable := all_bind_iff

theorem usable_issue (text : String) : (Reading.issue text).Usable :=
  all_tell_iff.2 (by simp)

theorem usable_warn (text : String) : (Reading.warn text).Usable :=
  all_tell_iff.2 (by simp)

theorem usable_warnIf (reason : Bool) (text : String) : (Reading.warnIf reason text).Usable := by
  unfold Reading.warnIf
  split
  · exact usable_warn text
  · exact usable_pure ()

theorem usable_forM {f : α → Reading PUnit} {as : List α} (h : ∀ a ∈ as, (f a).Usable) :
    Usable (as.forM f) := all_forM_iff.2 h

theorem usable_mapM {f : α → Reading β} {as : List α} (h : ∀ a ∈ as, (f a).Usable) :
    Usable (as.mapM f) := all_mapM_iff.2 h

theorem usable_foldlM {f : β → α → Reading β} {as : List α} (b : β)
    (h : ∀ b, ∀ a ∈ as, (f b a).Usable) : Usable (as.foldlM f b) := by
  induction as generalizing b with
  | nil => exact usable_pure b
  | cons a as ih =>
    rw [List.foldlM_cons, usable_bind_iff]
    exact ⟨h b a List.mem_cons_self, ih _ fun b' a' ha' => h b' a' (List.mem_cons_of_mem _ ha')⟩

/-- A reading that begins with an issue is as usable as what follows. -/
theorem usable_issue_bind {text : String} {f : Unit → Reading β} (h : (f ()).Usable) :
    Usable (Reading.issue text >>= f) := usable_bind_iff.2 ⟨usable_issue text, h⟩

/-- A reading that begins with a warning is as usable as what follows. -/
theorem usable_warn_bind {text : String} {f : Unit → Reading β} (h : (f ()).Usable) :
    Usable (Reading.warn text >>= f) := usable_bind_iff.2 ⟨usable_warn text, h⟩

end Noted

namespace Decompile

open Reading Noted

variable {below : Reader} {depth : Nat}

/-- A value that a reader of the given depth can deal with. -/
structure Readable (depth : Nat) (v : Value) : Prop where
  /-- The names in an object differ. -/
  proper : v.Proper
  /-- The reader gets to the bottom of it. -/
  depth_lt : v.depth < depth
  /-- No broken block stands in it. -/
  unbroken : v.Unbroken

theorem Readable.inside {v w : Value} (hv : Readable depth v) (h : Value.Inside w v) :
    Readable depth w :=
  ⟨h.proper hv.proper, Nat.lt_trans h.depth_lt hv.depth_lt, hv.unbroken.inside h⟩

theorem Readable.of_mem {members : Members} (h : Readable depth (.obj members))
    {m : String × Value} (hm : m ∈ members) : Readable depth m.2 :=
  h.inside (.member (Entries.find?_of_mem h.proper.names hm))

/-- A schema whose members a reader of the given depth can deal with, and that is no broken block. -/
structure Within (depth : Nat) (schema : Members) : Prop where
  /-- The reader can deal with the members. -/
  members : ∀ {name : String} {v : Value}, Entries.find? schema name = some v → Readable depth v
  /-- The schema is no broken block. -/
  block : ¬ BrokenBlock (.obj schema)

theorem Readable.within {schema : Members} (h : Readable depth (.obj schema)) :
    Within depth schema :=
  ⟨fun hv => h.inside (.member hv), h.unbroken _ (Or.inl rfl)⟩

/-- One level more is needed for a schema than for its members. -/
theorem Readable.within_succ {schema : Members} (h : Readable (depth + 1) (.obj schema)) :
    Within depth schema :=
  ⟨fun hv => ⟨h.proper.of_find? hv, Nat.lt_of_lt_of_le (Value.Inside.member hv).depth_lt
    (Nat.le_of_lt_succ h.depth_lt), h.unbroken.inside (.member hv)⟩, h.unbroken _ (Or.inl rfl)⟩

/-- A member of a schema that is there is one that the reader can deal with. -/
theorem Within.member {schema : Members} (h : Within depth schema) {name : String} {v : Value}
    (hv : Value.member schema name = v) (hne : v ≠ .null) : Readable depth v := by
  unfold Value.member at hv
  cases hfind : Entries.find? schema name with
  | none =>
    rw [hfind] at hv
    exact absurd hv.symm hne
  | some w =>
    rw [hfind] at hv
    have hw : w = v := hv
    exact hw ▸ h.members hfind

/-- The reader deals with everything that is not too deep and holds no broken block. -/
def UsableReader (depth : Nat) (below : Reader) : Prop :=
  ∀ inner, Readable depth inner.schema → (below inner).Usable

/-! ## Parts of a node -/

theorem usable_textOf (schema : Members) (keyword path : String) :
    (textOf schema keyword path).Usable := by
  unfold textOf
  split
  · exact usable_pure _
  · exact usable_pure _
  · exact usable_issue_bind (usable_pure _)

theorem usable_leftovers (kind : NodeKind) (schema : Members) (consumed : List String)
    (path : String) : (leftovers kind schema consumed path).Usable :=
  usable_bind_iff.2 ⟨usable_forM fun _ _ => usable_warnIf _ _, usable_pure _⟩

theorem usable_nodeOf (key : String) (body : Body Nat) (schema : Members) (consumed : List String)
    (kept : Members) (required : Bool) (path : String) :
    (nodeOf key body schema consumed kept required path).Usable := by
  unfold nodeOf
  simp only [usable_bind_iff]
  exact ⟨usable_leftovers _ _ _ _, usable_textOf _ _ _, usable_textOf _ _ _, usable_pure _⟩

theorem usable_inferKind (schema : Members) (path : String) : (inferKind schema path).Usable := by
  rw [inferKind_eq]
  split
  · exact usable_pure _
  · rw [usable_bind_iff]
    constructor
    · unfold declaredType
      split
      · exact usable_warn_bind (usable_pure _)
      · exact usable_pure _
    · unfold kindOfDeclared
      split
      · exact usable_pure _
      · split
        · exact usable_pure _
        · exact usable_warn_bind (usable_pure _)
      · exact usable_issue_bind (usable_pure _)

theorem usable_targetOf (names : List String) (pointer : Value) (path : String) :
    (targetOf names pointer path).Usable := by
  unfold targetOf
  split
  · split
    · dsimp only
      split
      · exact usable_pure _
      · exact usable_issue_bind (usable_pure _)
    · exact usable_issue_bind (usable_pure _)
  · exact usable_issue_bind (usable_pure _)

/-! ## Groups -/

theorem readable_branchInner {schema : Members} (h : Readable depth (.obj schema)) (kind : EdgeKind)
    (path : String) : Readable depth (branchInner schema kind path).schema := by
  unfold branchInner
  dsimp only
  split
  · split
    · next key sub hprops =>
      split
      · have hproperties := h.within.member hprops (by simp)
        have hfind : Entries.find? [(key, sub)] key = some sub := by simp
        exact hproperties.inside (.member hfind)
      · exact h
    · exact h
  · exact h

theorem usable_branch (hb : UsableReader depth below) {schema : Value} (h : Readable depth schema)
    (kind : EdgeKind) (path : String) : (branch below schema kind path).Usable := by
  cases schema with
  | obj members => exact hb _ (readable_branchInner h kind path)
  | null | bool _ | int _ | float _ | str _ | list _ => exact usable_issue_bind (usable_pure _)

theorem usable_sharedBranch (hb : UsableReader depth below) {schema : Option Value}
    (h : ∀ v, schema = some v → Readable depth v) (kind : EdgeKind) (path : String)
    (parts : GroupParts) : (sharedBranch below kind path schema parts).Usable := by
  cases schema with
  | none => exact usable_pure _
  | some schema =>
    unfold sharedBranch
    dsimp only
    split
    · exact usable_pure _
    · exact usable_bind_iff.2 ⟨usable_branch hb (h schema rfl) kind path, usable_pure _⟩

theorem usable_conditionOf (test : Value) (path : String) : (conditionOf test path).Usable :=
  usable_bind_iff.2 ⟨usable_forM fun _ _ => usable_warn _, usable_pure _⟩

theorem usable_clauseOf (hb : UsableReader depth below) {entry : Members} (h : Within depth entry)
    (kind : GroupKind) (path : String) (parts : GroupParts) :
    (clauseOf below kind path parts entry).Usable := by
  unfold clauseOf
  simp only [usable_bind_iff]
  refine ⟨usable_conditionOf _ _, usable_warnIf _ _, ?_⟩
  refine ⟨usable_sharedBranch hb (fun v hv => h.members hv) _ _ _, ?_⟩
  generalize (sharedBranch below .thenBranch (path ++ "/then") (Entries.find? entry "then")
    parts).value = first
  refine ⟨usable_sharedBranch hb (fun v hv => ?_) _ _ _, ?_⟩
  · split at hv
    · cases hv
    · exact h.members hv
  · split
    · exact usable_pure _
    · exact usable_pure _

theorem usable_clausesOf (hb : UsableReader depth below) {entries : List Value}
    (h : ∀ v ∈ entries, Readable depth v) (kind : GroupKind) (path : String) :
    (clausesOf below kind entries path).Usable := by
  rw [clausesOf_eq]
  refine usable_foldlM _ fun parts p hp => ?_
  obtain ⟨v, i⟩ := p
  have hv := h v (List.fst_mem_of_mem_zipIdx hp)
  cases v with
  | obj entry => exact usable_clauseOf hb hv.within kind _ parts
  | null | bool _ | int _ | float _ | str _ | list _ => exact usable_pure _

theorem find?_of_member {schema : Members} {name : String} {v : Value} (hv : v ≠ .null)
    (h : Value.member schema name = v) : Entries.find? schema name = some v := by
  unfold Value.member at h
  cases hfind : Entries.find? schema name with
  | none =>
    rw [hfind] at h
    exact absurd h.symm hv
  | some w =>
    rw [hfind] at h
    exact congrArg some h

theorem member_of_find? {schema : Members} {name : String} {v : Value}
    (h : Entries.find? schema name = some v) : Value.member schema name = v := by
  unfold Value.member
  rw [h]
  rfl

/-- The conditions of a test can be read unless its `allOf` has no items. -/
theorem usable_testsOf_iff (test : Members) (path : String) :
    (testsOf test path).Usable ↔
      ∀ conditions, Entries.find? test "allOf" = some conditions →
        Pairs.itemsOf? conditions ≠ none := by
  have hrest : ∀ tests : List Value, Usable (do
      let conditions ← tests.mapM fun t => conditionOf t (path ++ "/if")
      return conditions.filterMap id) := fun tests =>
    usable_bind_iff.2 ⟨usable_mapM fun _ _ => usable_conditionOf _ _, usable_pure _⟩
  unfold testsOf
  cases hfind : Entries.find? test "allOf" with
  | none => simpa using hrest (if test.isEmpty then [] else [Value.obj test])
  | some conditions =>
    cases conditions with
    | list tests => simpa [Pairs.itemsOf?] using hrest tests
    | str _ | obj _ => simpa [Pairs.itemsOf?] using hrest []
    | null | bool _ | int _ | float _ =>
      have hbroken : ¬ Usable (Noted.tell [.unusable] : Reading Unit) := fun h =>
        all_tell_iff.1 h rfl
      simp only [usable_bind_iff, hbroken, false_and, false_iff]
      exact fun h => h _ rfl rfl

/-- A test that a block can have, but not a broken one. -/
theorem usable_tests {block : Members} (hblock : ¬ BrokenBlock (.obj block))
    (htest : isTest (Value.member block "if") = true) (path : String) :
    (testsOf ((Value.member block "if").obj?.getD []) path).Usable := by
  rw [usable_testsOf_iff]
  intro conditions hconditions hnone
  cases hmember : Value.member block "if" with
  | obj test =>
    rw [hmember] at htest hconditions
    simp only [Value.obj?, Option.getD_some] at hconditions
    have hfind := find?_of_member (by simp) hmember
    have hfragment : Condition.isFragment (.obj test) = true := by
      unfold isTest at htest
      dsimp only at htest
      rw [Bool.or_eq_true, Bool.or_eq_true] at htest
      rcases htest with (hempty | hfragment) | hlist
      · rw [List.isEmpty_iff.1 hempty] at hconditions
        cases hconditions
      · exact hfragment
      · split at hlist
        · simp only [Entries.find?_cons, if_true, Option.some.injEq] at hconditions
          rw [← hconditions] at hnone
          cases hnone
        · cases hlist
    exact hblock ⟨block, test, conditions, rfl, hfind, hfragment, hconditions, hnone⟩
  | null | bool _ | int _ | float _ | str _ | list _ =>
    rw [hmember] at htest
    cases htest

theorem usable_blockBranch (hb : UsableReader depth below) {block : Members}
    (h : Within depth block) (keyword : String) (kind : EdgeKind) (path : String) :
    (blockBranch below block keyword kind path).Usable := by
  unfold blockBranch
  split
  · exact usable_pure _
  · next schema hfind => exact usable_branch hb (h.members hfind) kind _

theorem usable_blockOf (hb : UsableReader depth below) {block : Members} (h : Within depth block)
    (htest : isTest (Value.member block "if") = true) (path : String) :
    (blockOf below block path).Usable := by
  rw [blockOf_eq]
  simp only [usable_bind_iff]
  exact ⟨usable_tests h.block htest path, usable_blockBranch hb h "then" .thenBranch path,
    usable_blockBranch hb h "else" .elseBranch path, usable_pure _⟩

theorem usable_group (hb : UsableReader depth below) {kind : GroupKind} {schema : Members}
    (h : Within depth schema)
    (htest : kind = .ifBlock → isTest (Value.member schema "if") = true) (taken : List String)
    (path : String) : (group below kind schema taken path).Usable := by
  have hentries : ∀ name, ∀ v ∈ (Value.member schema name).list?.getD [], Readable depth v := by
    intro name v hv
    cases hmember : Value.member schema name with
    | list items =>
      rw [hmember] at hv
      exact (h.member hmember (by simp)).inside (.item hv)
    | null | bool _ | int _ | float _ | str _ | obj _ => simp [hmember, Value.list?] at hv
  have hparts : (groupParts below kind schema path).Usable := by
    cases kind with
    | ifBlock => exact usable_blockOf hb h (htest rfl) path
    | allOf | anyOf | oneOf => exact usable_clausesOf hb (hentries _) _ _
  rw [group_eq, usable_bind_iff, usable_bind_iff]
  exact ⟨hparts, usable_nodeOf _ _ _ _ _ _ _, usable_pure _⟩

/-- A schema that is read as an `if` block has a test that can be read. -/
theorem isTest_of_groupKind? {schema : Members}
    (h : groupKind? (.obj schema) = some .ifBlock) :
    isTest (Value.member schema "if") = true := by
  unfold groupKind? at h
  dsimp only at h
  unfold Value.member
  cases hfind : Entries.find? schema "if" with
  | some test =>
    rw [hfind] at h
    dsimp only at h
    show isTest test = true
    by_contra hnot
    rw [if_neg hnot] at h
    cases h
  | none =>
    rw [hfind] at h
    dsimp only at h
    have hlisted : ∀ k ∈ listGroups, k ≠ .ifBlock := by decide
    split at h
    · next kind hkind =>
      have hmem : kind ∈ listGroups.filter fun k => Entries.has schema k.name := by
        rw [hkind]
        exact List.mem_singleton_self kind
      have hne := hlisted kind (List.mem_filter.1 hmem).1
      split_ifs at h
      split at h
      · split_ifs at h
        exact absurd (Option.some.inj h) hne
      · cases h
    · cases h

/-! ## Objects and arrays -/

theorem usable_childGroup (hb : UsableReader depth below) {kind : GroupKind} {schema : Members}
    (h : Within depth schema)
    (htest : kind = .ifBlock → isTest (Value.member schema "if") = true) (path : String)
    (consumed : List String) (parts : ObjectParts) :
    (childGroup below kind schema path consumed parts).Usable :=
  usable_bind_iff.2 ⟨usable_group hb h htest _ _, usable_pure _⟩

theorem usable_requiredOf (schema : Members) (path : String) :
    (requiredOf schema path).Usable := by
  unfold requiredOf
  split
  · exact usable_pure _
  · split
    · exact usable_pure _
    · exact usable_issue_bind (usable_pure _)
  · exact usable_issue_bind (usable_pure _)

theorem usable_propertiesOf (schema : Members) (path : String) :
    (propertiesOf schema path).Usable := by
  unfold propertiesOf
  split
  · exact usable_pure _
  · exact usable_pure _
  · exact usable_issue_bind (usable_pure _)

/-- The members that an `if` block is read from. -/
theorem find?_picked (schema : Members) {keywords : List String} {name : String}
    (hname : name ∈ keywords) :
    Entries.find? (keywords.filterMap fun k => (Entries.find? schema k).map fun v => (k, v)) name =
      Entries.find? schema name := by
  induction keywords with
  | nil => simp at hname
  | cons k ks ih =>
    cases hfind : Entries.find? schema k with
    | none =>
      rw [List.filterMap_cons_none (by rw [hfind]; rfl)]
      by_cases hk : k = name
      · subst hk
        rw [hfind, Entries.find?_eq_none_iff]
        intro hmem
        obtain ⟨e, he, heq⟩ := List.mem_map.1 hmem
        obtain ⟨k', _, hk'⟩ := List.mem_filterMap.1 he
        obtain ⟨v, hv, rfl⟩ := Option.map_eq_some_iff.1 hk'
        dsimp only at heq
        rw [heq, hfind] at hv
        cases hv
      · exact ih ((List.mem_cons.1 hname).resolve_left (Ne.symm hk))
    | some v =>
      rw [List.filterMap_cons_some (b := (k, v)) (by rw [hfind]; rfl), Entries.find?_cons]
      by_cases hk : k = name
      · rw [if_pos hk, ← hk, hfind]
      · rw [if_neg hk]
        exact ih ((List.mem_cons.1 hname).resolve_left (Ne.symm hk))

theorem usable_ownBlock (hb : UsableReader depth below) {schema : Members}
    (h : Within depth schema) (path : String) (parts : ObjectParts) :
    (ownBlock below schema path parts).Usable := by
  unfold ownBlock
  split
  · dsimp only
    split
    · next hkind =>
      refine usable_childGroup hb ⟨fun {name v} hv => ?_, ?_⟩
        (fun _ => isTest_of_groupKind? hkind) _ _ _
      · obtain ⟨k, _, hk⟩ := List.mem_filterMap.1 (Entries.mem_of_find? hv)
        obtain ⟨w, hw, heq⟩ := Option.map_eq_some_iff.1 hk
        cases heq
        exact h.members hw
      · rintro ⟨members, test, conditions, heq, hif, hrest⟩
        cases heq
        rw [find?_picked schema (by decide)] at hif
        exact h.block ⟨schema, test, conditions, rfl, hif, hrest⟩
    · exact usable_warn_bind (usable_pure _)
  · exact usable_pure _

theorem usable_ownAllOf (hb : UsableReader depth below) {schema : Members} (h : Within depth schema)
    (path : String) (parts : ObjectParts) : (ownAllOf below schema path parts).Usable := by
  rw [ownAllOf_eq]
  split
  · next items hitems =>
    have hlist := h.member hitems (by simp)
    refine usable_bind_iff.2 ⟨usable_foldlM _ fun acc p hp => ?_, ?_⟩
    · have hitem := hlist.inside (.item (List.fst_mem_of_mem_zipIdx hp))
      unfold allOfEntry
      split
      · next members kind hobj hkind =>
        rw [hobj] at hitem hkind
        refine usable_bind_iff.2 ⟨usable_childGroup hb hitem.within (fun heq => ?_) _ _ _,
          usable_pure _⟩
        exact isTest_of_groupKind? (heq ▸ hkind)
      · exact usable_pure _
    · unfold keepOthers
      split
      · exact usable_pure _
      · exact usable_warn_bind (usable_pure _)
  · exact usable_pure _
  · exact usable_warn_bind (usable_pure _)

theorem usable_ownListGroup (hb : UsableReader depth below) {schema : Members}
    (h : Within depth schema) {kind : GroupKind} (hk : kind ≠ .ifBlock) (path : String)
    (parts : ObjectParts) : (ownListGroup below schema path parts kind).Usable := by
  unfold ownListGroup
  split
  · exact usable_pure _
  · next entries hfind =>
    dsimp only
    split
    · refine usable_childGroup hb ⟨fun {name v} hv => ?_, ?_⟩ (fun heq => absurd heq hk) _ _ _
      · have hmem := Entries.mem_of_find? hv
        rw [List.mem_singleton] at hmem
        cases hmem
        exact h.members hfind
      · rintro ⟨members, test, conditions, heq, hif, _⟩
        cases heq
        have hname : kind.name = "if" := by
          by_contra hne
          rw [Entries.find?_cons, if_neg hne] at hif
          cases hif
        revert hname
        cases kind with
        | ifBlock => exact absurd rfl hk
        | allOf | anyOf | oneOf => decide
    · exact usable_warn_bind (usable_pure _)

theorem usable_property (hb : UsableReader depth below) (required : List String) (path : String)
    {p : String × Value} (h : Readable depth p.2) : (property below required path p).Usable :=
  usable_bind_iff.2 ⟨usable_warnIf _ _, hb _ h⟩

theorem usable_objectParts (hb : UsableReader depth below) {schema : Members}
    (h : Within depth schema) (path : String) : (objectParts below schema path).Usable := by
  have hproperties : ∀ p ∈ (propertiesOf schema path).value.1, Readable depth p.2 := by
    intro p hp
    unfold propertiesOf at hp
    split at hp
    · cases hp
    · next properties heq => exact (h.member heq (by simp)).of_mem hp
    · cases hp
  unfold objectParts
  simp only [usable_bind_iff]
  exact ⟨usable_requiredOf _ _, usable_propertiesOf _ _,
    usable_mapM fun p hp => usable_property hb _ _ (hproperties p hp), usable_warnIf _ _,
    usable_ownBlock hb h _ _, usable_ownAllOf hb h _ _, usable_ownListGroup hb h (by decide) _ _,
    usable_ownListGroup hb h (by decide) _ _⟩

theorem usable_arrayItem (hb : UsableReader depth below) {schema : Members}
    (h : Within depth schema) (tupleItems : TupleItems) (path : String) :
    (arrayItem below tupleItems schema path).Usable := by
  unfold arrayItem
  split
  · exact usable_pure _
  · next items hfind =>
    have hitems := h.members hfind
    have hread : ∀ v, (itemSchema tupleItems items (path ++ "/items")).value = some v →
        Readable depth v := by
      intro v hv
      unfold itemSchema at hv
      split at hv
      · split at hv
        · cases hv
        · exact hitems.inside (.item (List.mem_of_mem_head? hv))
      · cases hv
        exact hitems
    refine usable_bind_iff.2 ⟨?_, ?_⟩
    · unfold itemSchema
      split
      · split
        · exact usable_issue_bind (usable_pure _)
        · exact usable_warn_bind (usable_pure _)
      · exact usable_pure _
    · split
      · exact usable_pure _
      · next item heq => exact hb _ (hread _ heq)
      · exact usable_issue_bind (usable_pure _)

/-! ## Whole schemas -/

theorem usable_partsOf (hb : UsableReader depth below) {schema : Members} (h : Within depth schema)
    (tupleItems : TupleItems) (kind : NodeKind) (path : String) :
    (partsOf below tupleItems kind schema path).Usable := by
  cases kind with
  | object => exact usable_objectParts hb h path
  | array => exact usable_bind_iff.2 ⟨usable_arrayItem hb h tupleItems path, usable_pure _⟩
  | string | number | boolean | enum | group _ | definition | reference => exact usable_pure _

theorem usable_typed (hb : UsableReader depth below) {schema : Members} (h : Within depth schema)
    (tupleItems : TupleItems) (inner : Inner) : (typed below tupleItems inner schema).Usable := by
  rw [typed_eq]
  simp only [usable_bind_iff]
  exact ⟨usable_inferKind _ _, usable_forM fun _ _ => usable_issue _,
    usable_partsOf hb h _ _ _, usable_nodeOf _ _ _ _ _ _ _, usable_pure _⟩

theorem usable_pointing (names : List String) (inner : Inner) (schema : Members) :
    (pointing names inner schema).Usable := by
  unfold pointing
  simp only [usable_bind_iff]
  exact ⟨usable_targetOf _ _ _, usable_nodeOf _ _ _ _ _ _ _, usable_pure _⟩

theorem usable_schema (hb : UsableReader depth below) (tupleItems : TupleItems)
    (names : List String) : UsableReader (depth + 1) (schema below tupleItems names) := by
  intro inner h
  unfold schema
  split
  · next members hmembers =>
    rw [hmembers] at h
    have hwithin := h.within_succ
    split
    · next kind hkind =>
      refine usable_bind_iff.2 ⟨usable_group hb hwithin (fun heq => ?_) _ _, usable_pure _⟩
      rw [hmembers] at hkind
      split_ifs at hkind
      unfold bareGroupKind? at hkind
      dsimp only at hkind
      split_ifs at hkind
      exact isTest_of_groupKind? (heq ▸ hkind)
    · split
      · exact usable_bind_iff.2 ⟨usable_pointing _ _ _, usable_pure _⟩
      · exact usable_bind_iff.2 ⟨usable_typed hb hwithin _ _, usable_pure _⟩
  · exact usable_issue_bind (usable_pure _)

theorem usable_reader (tupleItems : TupleItems) (names : List String) (depth : Nat) :
    UsableReader depth (reader tupleItems names depth) := by
  induction depth with
  | zero => exact fun inner h => absurd h.depth_lt (Nat.not_lt_zero _)
  | succ depth ih => exact usable_schema ih tupleItems names

/-! ## Whole documents -/

/-- Whatever document is read, nothing is met in it that cannot be dealt with unless a broken block
stands in it. -/
theorem usable_outline (tupleItems : TupleItems) {document : Members}
    (hp : (Value.obj document).Proper) (hu : (Value.obj document).Unbroken) :
    (outline tupleItems document).Usable := by
  have hwithin : Within (Value.obj document).depth document :=
    ⟨fun hv => ⟨hp.of_find? hv, (Value.Inside.member hv).depth_lt, hu.inside (.member hv)⟩,
      hu _ (Or.inl rfl)⟩
  have htable : ∀ e ∈ (definitionTable document).value,
      Readable (Value.obj document).depth e.2 := by
    intro e he
    unfold definitionTable at he
    split at he
    · cases he
    · next table hfind => exact (hwithin.members hfind).of_mem he
    · cases he
  rw [outline_eq]
  simp only [usable_bind_iff]
  have hb := usable_reader tupleItems (Entries.names (definitionTable document).value)
    (Value.obj document).depth
  refine ⟨?_, ?_, usable_mapM fun e he => ?_, usable_objectParts hb hwithin _,
    usable_nodeOf _ _ _ _ _ _ _, usable_pure _⟩
  · unfold rootTypeIssue
    dsimp only
    split
    · exact usable_issue _
    · exact usable_pure _
  · unfold definitionTable
    split
    · exact usable_pure _
    · exact usable_pure _
    · exact usable_issue_bind (usable_pure _)
  · rw [definitionOf_eq]
    refine usable_bind_iff.2 ⟨?_, usable_pure _⟩
    unfold definitionContent
    split
    · exact usable_pure _
    · exact hb _ (htable e he)

/-! ## Broken blocks -/

/-- A broken block at the top of a document cannot be dealt with, whatever else the document says. -/
theorem not_usable_outline (tupleItems : TupleItems) {document : Members}
    (hbroken : BrokenBlock (.obj document)) : ¬ (outline tupleItems document).Usable := by
  obtain ⟨members, test, conditions, heq, hif, hfragment, hconditions, hnone⟩ := hbroken
  cases heq
  have hpicked : Entries.find? (clauseKeywords.filterMap fun k =>
      (Entries.find? document k).map fun v => (k, v)) "if" = some (.obj test) := by
    rw [find?_picked document (by decide), hif]
  have hkind : groupKind? (.obj (clauseKeywords.filterMap fun k =>
      (Entries.find? document k).map fun v => (k, v))) = some .ifBlock := by
    unfold groupKind?
    dsimp only
    rw [hpicked]
    dsimp only
    rw [if_pos]
    unfold isTest
    dsimp only
    rw [hfragment, Bool.or_true, Bool.true_or]
  have hhas : Entries.has document "if" = true := by
    rw [Entries.has, hif]
    rfl
  intro husable
  rw [outline_eq] at husable
  simp only [usable_bind_iff] at husable
  obtain ⟨_, _, _, hobject, _⟩ := husable
  unfold objectParts at hobject
  simp only [usable_bind_iff] at hobject
  obtain ⟨_, _, _, _, hblock, _⟩ := hobject
  unfold ownBlock at hblock
  rw [if_pos hhas] at hblock
  dsimp only at hblock
  rw [if_pos hkind] at hblock
  unfold childGroup at hblock
  rw [usable_bind_iff, group_eq, usable_bind_iff] at hblock
  have hparts := hblock.1.1
  unfold groupParts blockOf at hparts
  simp only [usable_bind_iff] at hparts
  have htests := hparts.1
  rw [member_of_find? hpicked, usable_testsOf_iff] at htests
  exact htests conditions hconditions hnone

end Decompile

end FormGraph

import FormGraph.Proofs.Reread.Conditional

/-!
# Reading an object back

A written group is told apart by its keywords, whatever stands beside them in the schema; where a
group is read only when the schema is nothing else, it has to be bare.

The fields of an object are read back in order, with their keys and required marks, and then its
groups; entries that were kept behind the groups are kept again. Every other keyword that the reader
of an object looks at is there only where it is not interpreted.
-/

namespace FormGraph

namespace Outline

open Compile Decompile

variable {cfg : DocumentConfig} {bs : List (EdgeKind × Outline)} {n : Node Nat}

/-- A keyword that a group neither writes nor has as an extra is not there. -/
theorem find?_group_eq_none {kind : GroupKind} {clauses : List (Clause Nat)} {ps : List Part}
    (hb : n.body = .group kind clauses) {k : String} (hfree : n.Free [k])
    (hinner : k ∉ innerKeywords (.group kind)) (ha : k ∉ annotationKeywords) :
    Entries.find? (members cfg n ps) k = none := by
  have hn : n.kind = .group kind := by
    rw [Node.kind, hb]
    rfl
  refine find?_members_eq_none hfree (by rwa [hn]) ?_ ha
  rw [hn]
  exact List.not_mem_nil

theorem groupKind?_of_block {ms : Members} {test : Value}
    (hif : Entries.find? ms "if" = some test) (htest : isTest test = true) :
    groupKind? (.obj ms) = some .ifBlock := by
  unfold groupKind?
  dsimp only
  rw [hif]
  dsimp only
  rw [if_pos htest]

theorem groupKind?_of_list {ms : Members} {kind : GroupKind} (hk : kind ≠ .ifBlock)
    {entries : List Value} (hif : Entries.find? ms "if" = none)
    (hlists : ∀ g ∈ listGroups, Entries.has ms g.name = decide (g = kind))
    (hnone : hasAny ms ["properties", "type", "$ref"] = false)
    (hlist : Value.member ms kind.name = .list entries) (hall : entries.all isClause = true) :
    groupKind? (.obj ms) = some kind := by
  have hfilter : (listGroups.filter fun g => Entries.has ms g.name) = [kind] := by
    rw [List.filter_congr hlists]
    cases kind with
    | ifBlock => exact absurd rfl hk
    | allOf | anyOf | oneOf => rfl
  unfold groupKind?
  dsimp only
  rw [hif]
  dsimp only
  rw [hfilter]
  dsimp only
  rw [if_neg (by rw [hnone]; decide), hlist]
  dsimp only
  rw [if_pos hall]

theorem hasAny_eq_false {ms : Members} {keywords : List String}
    (h : ∀ k ∈ keywords, Entries.find? ms k = none) : hasAny ms keywords = false := by
  unfold hasAny
  rw [List.any_eq_false]
  intro k hk
  rw [Entries.has, h k hk]
  decide

theorem isClause_clauseMembers (kind : GroupKind) (ps : List Part) (c : Clause Nat) :
    isClause (.obj (clauseMembers cfg kind ps c)) = true := by
  unfold isClause
  dsimp only
  rw [find?_clauseMembers, if_pos rfl]
  exact Condition.isFragment_written _

/-- A written group is read as a group of its kind. -/
theorem groupKind?_written (hl : Labelled n (reserved n.kind)) {kind : GroupKind}
    {clauses : List (Clause Nat)} (hb : n.body = .group kind clauses) :
    groupKind? (written cfg (mk n bs)) = some kind := by
  have hn : n.kind = .group kind := by
    rw [Node.kind, hb]
    rfl
  rw [written]
  by_cases hk : kind = .ifBlock
  · subst hk
    refine groupKind?_of_block (find?_members_of_inner ?_) (isTest_blockTest clauses)
    rw [inner_group hb]
    exact find?_blockMembers (parts cfg bs) clauses "if"
  · have hreserved : reserved (.group kind) =
        ["if", "allOf", "anyOf", "oneOf", "properties", "type", "$ref"] := by
      cases kind with
      | ifBlock => exact absurd rfl hk
      | allOf | anyOf | oneOf => rfl
    have hinner : innerKeywords (.group kind) = [kind.name] := by
      cases kind with
      | ifBlock => exact absurd rfl hk
      | allOf | anyOf | oneOf => rfl
    have hnames : "if" ≠ kind.name ∧ (∀ k ∈ ["properties", "type", "$ref"], k ≠ kind.name) ∧
        ∀ g ∈ listGroups, g ≠ kind → g.name ≠ kind.name := by
      cases kind with
      | ifBlock => exact absurd rfl hk
      | allOf | anyOf | oneOf => decide
    have hnone : ∀ k ∈ reserved (.group kind), k ≠ kind.name →
        Entries.find? (members cfg n (parts cfg bs)) k = none := by
      intro k hmem hne
      refine find?_group_eq_none hb (hl.free_of_mem (by rwa [hn])) ?_ ?_
      · rwa [hinner, List.mem_singleton]
      · rw [hreserved] at hmem
        clear hne
        revert k
        decide
    have hlist := find?_clauses cfg hk hb (parts cfg bs)
    refine groupKind?_of_list hk (hnone "if" ?_ ?_) (fun g hg => ?_)
      (hasAny_eq_false fun k hmem => hnone k ?_ ?_) (by rw [Value.member, hlist]; rfl) ?_
    · rw [hreserved]
      decide
    · exact hnames.1
    · by_cases hgk : g = kind
      · subst hgk
        rw [Entries.has, hlist]
        simp
      · rw [Entries.has, hnone g.name]
        · simp [hgk]
        · rw [hreserved]
          clear hgk
          revert g
          decide
        · exact hnames.2.2 g hg hgk
    · rw [hreserved]
      clear hnone
      revert k
      decide
    · exact hnames.2.1 k hmem
    · rw [List.all_eq_true]
      intro v hv
      obtain ⟨c, _, rfl⟩ := List.mem_map.1 hv
      exact isClause_clauseMembers kind _ c

/-- A written group that is bare is read as one where a schema has to be nothing else. -/
theorem bareGroupKind?_written (hl : Labelled n (reserved n.kind)) (hbare : (mk n bs).Bare)
    {kind : GroupKind} {clauses : List (Clause Nat)} (hb : n.body = .group kind clauses) :
    bareGroupKind? (written cfg (mk n bs)) = some kind := by
  have hn : n.kind = .group kind := by
    rw [Node.kind, hb]
    rfl
  have hfree := hbare (by rw [node, hn]; rfl)
  have hgroup : groupKind? (written cfg (mk n bs)) = some kind := groupKind?_written hl hb
  rw [written] at hgroup ⊢
  unfold bareGroupKind?
  dsimp only
  rw [if_neg, hgroup]
  rw [hasAny_eq_false]
  · decide
  · intro k hk
    refine find?_group_eq_none hb (hfree.mono fun k' hk' => List.mem_singleton.1 hk' ▸ hk) ?_ ?_
    · clear hgroup hn hb
      cases kind with
      | ifBlock | allOf | anyOf | oneOf =>
        revert k
        decide
    · revert k
      decide

end Outline

/-! ## Objects -/

open Noted

namespace Outline

open Compile Decompile

variable {cfg : DocumentConfig} {bs : List (EdgeKind × Outline)} {n : Node Nat} {below : Reader}

/-! ## Fields and groups -/

/-- The fields that hang below an object. -/
def fieldsOf (bs : List (EdgeKind × Outline)) : List Outline :=
  (bs.filter fun b => !b.2.node.kind.isGroup).map Prod.snd

/-- The groups that hang below an object. -/
def groupsOf (bs : List (EdgeKind × Outline)) : List Outline :=
  (bs.filter fun b => b.2.node.kind.isGroup).map Prod.snd

/-- A field as it is written among the properties. -/
def asProperty (cfg : DocumentConfig) (o : Outline) : String × Value := (o.node.key, o.written cfg)

theorem mem_fieldsOf {o : Outline} (h : o ∈ fieldsOf bs) :
    ∃ b ∈ bs, b.2 = o ∧ o.node.kind.isGroup = false := by
  obtain ⟨b, hb, rfl⟩ := List.mem_map.1 h
  obtain ⟨hb, hg⟩ := List.mem_filter.1 hb
  exact ⟨b, hb, rfl, by simpa using hg⟩

theorem mem_groupsOf {o : Outline} (h : o ∈ groupsOf bs) :
    ∃ b ∈ bs, b.2 = o ∧ o.node.kind.isGroup = true := by
  obtain ⟨b, hb, rfl⟩ := List.mem_map.1 h
  obtain ⟨hb, hg⟩ := List.mem_filter.1 hb
  exact ⟨b, hb, rfl, hg⟩

theorem filter_parts (p : Node Nat → Bool) :
    (parts cfg bs).filter (fun q => p q.1) =
      (bs.filter fun b => p b.2.node).map fun b => (b.2.node, b.2.written cfg) := by
  rw [parts_eq, List.filter_map]
  rfl

theorem properties_parts : properties (parts cfg bs) = (fieldsOf bs).map (asProperty cfg) := by
  unfold properties fieldParts fieldsOf
  rw [filter_parts fun m => !m.kind.isGroup, List.map_map, List.map_map]
  rfl

theorem requiredKeys_parts : requiredKeys (parts cfg bs) =
    ((fieldsOf bs).filter fun o => o.node.required).map fun o => o.node.key := by
  unfold requiredKeys fieldParts fieldsOf
  rw [filter_parts fun m => !m.kind.isGroup, List.filter_map, List.filter_map, List.map_map,
    List.map_map]
  rfl

theorem groupValues_parts :
    groupValues (parts cfg bs) = (groupsOf bs).map fun o => o.written cfg := by
  unfold groupValues groupsOf
  rw [filter_parts fun m => m.kind.isGroup, List.map_map, List.map_map]
  rfl

theorem sayChildren_sayings : sayChildren (sayings bs) =
    [("children", .list ((fieldsOf bs).map fun o =>
        o.description.value (some (o.node.key, o.node.required)))),
      ("conditionals", .list ((groupsOf bs).map fun o => o.description.value none))] := by
  unfold sayChildren fieldsOf groupsOf
  rw [sayings_eq, List.filter_map, List.filter_map, List.map_map, List.map_map, List.map_map,
    List.map_map]
  rfl

/-- Fields followed by groups are taken apart again. -/
theorem fieldsOf_children {fields groups : List Outline}
    (hf : ∀ o ∈ fields, o.node.kind.isGroup = false)
    (hg : ∀ o ∈ groups, o.node.kind.isGroup = true) :
    fieldsOf ((fields ++ groups).map fun o => (EdgeKind.child, o)) = fields := by
  unfold fieldsOf
  rw [List.filter_map, List.map_map, List.filter_append]
  have h₁ : fields.filter ((fun b : EdgeKind × Outline => !b.2.node.kind.isGroup) ∘
      fun o => (EdgeKind.child, o)) = fields :=
    List.filter_eq_self.2 fun o ho => by simp [hf o ho]
  have h₂ : groups.filter ((fun b : EdgeKind × Outline => !b.2.node.kind.isGroup) ∘
      fun o => (EdgeKind.child, o)) = [] :=
    List.filter_eq_nil_iff.2 fun o ho => by simp [hg o ho]
  rw [h₁, h₂, List.append_nil]
  exact List.map_id _

theorem groupsOf_children {fields groups : List Outline}
    (hf : ∀ o ∈ fields, o.node.kind.isGroup = false)
    (hg : ∀ o ∈ groups, o.node.kind.isGroup = true) :
    groupsOf ((fields ++ groups).map fun o => (EdgeKind.child, o)) = groups := by
  unfold groupsOf
  rw [List.filter_map, List.map_map, List.filter_append]
  have h₁ : fields.filter ((fun b : EdgeKind × Outline => b.2.node.kind.isGroup) ∘
      fun o => (EdgeKind.child, o)) = [] :=
    List.filter_eq_nil_iff.2 fun o ho => by simp [hf o ho]
  have h₂ : groups.filter ((fun b : EdgeKind × Outline => b.2.node.kind.isGroup) ∘
      fun o => (EdgeKind.child, o)) = groups :=
    List.filter_eq_self.2 fun o ho => by simp [hg o ho]
  rw [h₁, h₂, List.nil_append]
  exact List.map_id _

/-! ## What is found in a written object -/

/-- The entries that are kept of an `allOf` list. -/
def keptEntries (n : Node Nat) : List Value :=
  match Entries.find? n.extras "allOf" with
  | some (.list kept) => kept
  | _ => []

theorem groupEntries_eq (n : Node Nat) (groups : List Value) : groupEntries n groups =
    if groups.isEmpty then [] else [("allOf", .list (groups ++ keptEntries n))] := by
  unfold groupEntries keptEntries
  split
  · rfl
  · cases Entries.find? n.extras "allOf" with
    | none => rfl
    | some v => cases v <;> simp

theorem find?_ifNonempty {α : Type} (keyword : String) (as : List α) (v : Value) (k : String) :
    Entries.find? (if as.isEmpty then [] else [(keyword, v)]) k =
      if keyword = k ∧ as ≠ [] then some v else none := by
  cases as <;> simp

/-- What is found of what hangs below an object. -/
theorem find?_objectMembers (n : Node Nat) (bs : List (EdgeKind × Outline)) (k : String) :
    Entries.find? (objectMembers n (parts cfg bs)) k =
      if "properties" = k ∧ fieldsOf bs ≠ [] then
        some (.obj ((fieldsOf bs).map (asProperty cfg)))
      else if "required" = k ∧ requiredKeys (parts cfg bs) ≠ [] then
        some (Value.ofStrings (requiredKeys (parts cfg bs)))
      else if "allOf" = k ∧ groupsOf bs ≠ [] then
        some (.list ((groupsOf bs).map (fun o => o.written cfg) ++ keptEntries n))
      else none := by
  unfold objectMembers
  rw [groupEntries_eq, Entries.find?_append, Entries.find?_append, find?_ifNonempty,
    find?_ifNonempty, find?_ifNonempty, properties_parts, groupValues_parts]
  simp only [ne_eq, List.map_eq_nil_iff]
  split_ifs with h₁ h₂ h₃ <;> rfl

theorem inner_object {attributes : ObjectAttributes} (hb : n.body = .object attributes)
    (ps : List Part) : inner cfg n ps = objectMembers n ps := by
  unfold inner contents
  rw [hb]

/-- A keyword of an object that is no property, group or attribute is found among its extras. -/
theorem find?_object {attributes : ObjectAttributes} (hb : n.body = .object attributes) {k : String}
    (hk : k ∉ "type" :: Body.vocabulary .object) (ha : k ∉ annotationKeywords) :
    Entries.find? (members cfg n (parts cfg bs)) k =
      (Entries.find? (objectMembers n (parts cfg bs)) k).or (Entries.find? n.extras k) := by
  have hfixed : Entries.find? (fixed n) k = none := by
    rw [Entries.find?_eq_none_iff]
    intro h
    rcases names_fixed_subset h with h | h
    · exact ha h
    · rw [Node.kind, hb] at h
      exact hk h
  rw [find?_members, hfixed, Option.or_none, inner_object hb]

/-- The fields of an object are found among its properties. -/
theorem find?_properties {attributes : ObjectAttributes} (hb : n.body = .object attributes)
    {o : Outline} (ho : o ∈ fieldsOf bs) :
    Entries.find? (members cfg n (parts cfg bs)) "properties" =
      some (.obj ((fieldsOf bs).map (asProperty cfg))) := by
  rw [find?_object hb (by decide) (by decide), find?_objectMembers,
    if_pos ⟨rfl, List.ne_nil_of_mem ho⟩]
  rfl

/-- The groups of an object are found in front of the entries that are kept. -/
theorem find?_groups {attributes : ObjectAttributes} (hb : n.body = .object attributes)
    {o : Outline} (ho : o ∈ groupsOf bs) :
    Entries.find? (members cfg n (parts cfg bs)) "allOf" =
      some (.list ((groupsOf bs).map (fun o => o.written cfg) ++ keptEntries n)) := by
  rw [find?_object hb (by decide) (by decide), find?_objectMembers, if_neg (by simp),
    if_neg (by simp), if_pos ⟨rfl, List.ne_nil_of_mem ho⟩]
  rfl

/-! ## What stands inside a written object -/

theorem references_subset_of_object {attributes : ObjectAttributes} (hb : n.body = .object attributes)
    {b : EdgeKind × Outline} (h : b ∈ bs) : b.2.references ⊆ (mk n bs).references := by
  intro t ht
  rw [references, referencesBelow_eq, nodeReferences, hb]
  exact List.mem_flatten.2 ⟨_, List.mem_map_of_mem h, ht⟩

theorem keys_nodup (cfg : DocumentConfig) (h : ObjectReads n bs) :
    (Entries.names ((fieldsOf bs).map (asProperty cfg))).Nodup := by
  unfold fieldsOf Entries.names
  rw [List.map_map, List.map_map]
  exact h.keys

theorem field_partOf {attributes : ObjectAttributes} (hb : n.body = .object attributes)
    (h : ObjectReads n bs) {o : Outline} (ho : o ∈ fieldsOf bs) : PartOf cfg o (mk n bs) := by
  have hproperty : Entries.find? ((fieldsOf bs).map (asProperty cfg)) o.node.key =
      some (o.written cfg) :=
    Entries.find?_of_mem (keys_nodup cfg h) (List.mem_map.2 ⟨o, ho, rfl⟩)
  obtain ⟨b, hmem, heq, _⟩ := mem_fieldsOf ho
  refine ⟨?_, heq ▸ references_subset_of_object hb hmem⟩
  rw [written]
  exact .trans (.member hproperty) (.member (find?_properties hb ho))

theorem group_partOf {attributes : ObjectAttributes} (hb : n.body = .object attributes)
    {o : Outline} (ho : o ∈ groupsOf bs) : PartOf cfg o (mk n bs) := by
  obtain ⟨b, hmem, heq, _⟩ := mem_groupsOf ho
  refine ⟨?_, heq ▸ references_subset_of_object hb hmem⟩
  rw [written]
  exact .trans (.item (List.mem_append_left _ (List.mem_map_of_mem ho)))
    (.member (find?_groups hb ho))

end Outline

end FormGraph

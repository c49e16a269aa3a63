import FormGraph.Proofs.Reread.Object

/-!
# Reading the children of an object back

Each step of the reader of an object, on the members that are written of one: the properties and the
list of those that are required, the `allOf` list with the groups in front and the entries that are
kept behind them, and the keywords that are not interpreted.
-/

namespace FormGraph

open Noted

namespace Outline

open Compile Decompile

variable {cfg : DocumentConfig} {bs : List (EdgeKind × Outline)} {n : Node Nat} {below : Reader}

/-- A field and what it is read back as: with the same key and required mark. -/
structure FieldMirrors (cfg : DocumentConfig) (o o' : Outline) : Prop where
  /-- It is mirrored. -/
  mirrors : Mirrors cfg o o'
  /-- The key is the same. -/
  key : o'.node.key = o.node.key
  /-- The required mark is the same. -/
  required : o'.node.required = o.node.required

/-! ## Properties -/

theorem requiredOf_yields {ms : Members} {keys : List String}
    (h : Entries.find? ms "required" =
      if keys ≠ [] then some (Value.ofStrings keys) else none) (path : String) :
    (requiredOf ms path).Yields (keys, if keys ≠ [] then ["required"] else []) := by
  unfold requiredOf
  rw [h]
  by_cases hk : keys = []
  · subst hk
    exact .pure _
  · rw [if_pos hk, if_pos hk]
    unfold Value.ofStrings
    dsimp only
    have hall : (keys.map Value.str).all Value.isStr = true := by
      rw [List.all_map, List.all_eq_true]
      exact fun k _ => rfl
    have hback : (keys.map Value.str).filterMap Value.str? = keys := by
      rw [List.filterMap_map]
      exact (congrFun List.filterMap_eq_map keys).trans (List.map_id keys)
    rw [if_pos hall, hback]
    exact .pure _

theorem propertiesOf_yields {ms properties : Members}
    (h : Value.member ms "properties" = if properties ≠ [] then .obj properties else .null)
    (path : String) :
    (propertiesOf ms path).Yields (properties, if properties ≠ [] then ["properties"] else []) := by
  unfold propertiesOf
  rw [h]
  by_cases hp : properties = []
  · subst hp
    exact .pure _
  · rw [if_pos hp, if_pos hp]
    exact .pure _

/-- The fields of an object are read back. -/
theorem fields_yields {fields : List Outline} {required : List String} (path : String)
    (hreads : ∀ o ∈ fields, Reads below cfg o ∧ o.node.kind.isGroup = false)
    (hrequired : ∀ o ∈ fields, required.contains o.node.key = o.node.required) :
    ∃ fields', ((fields.map (asProperty cfg)).mapM (property below required path)).Yields
        (fields'.map some) ∧
      List.Forall₂ (FieldMirrors cfg) fields fields' := by
  induction fields with
  | nil => exact ⟨[], .pure _, .nil⟩
  | cons o fields ih =>
    obtain ⟨hread, hg⟩ := hreads o List.mem_cons_self
    obtain ⟨o', ho', hm, hkey⟩ := hread
      { role := .field, schema := o.written cfg, key := o.node.key,
        required := required.contains o.node.key, path := path ++ "/properties/" ++ o.node.key }
      rfl (fun h => absurd (hg.symm.trans h) (by decide)) (fun h => by cases h)
    obtain ⟨hk, hr⟩ := hkey hg
    obtain ⟨fields', hy, hf⟩ := ih (fun p hp => hreads p (List.mem_cons_of_mem _ hp))
      fun p hp => hrequired p (List.mem_cons_of_mem _ hp)
    refine ⟨o' :: fields', ?_,
      .cons ⟨hm, hk, hr.trans (hrequired o List.mem_cons_self)⟩ hf⟩
    rw [List.map_cons, List.mapM_cons, List.map_cons]
    exact ((Yields.warnIf _ _).bind ho').bind (hy.bind (.pure _))

theorem contains_requiredKeys (cfg : DocumentConfig) (h : ObjectReads n bs) {o : Outline} (ho : o ∈ fieldsOf bs) :
    (requiredKeys (parts cfg bs)).contains o.node.key = o.node.required := by
  have hkeys : ((fieldsOf bs).map fun o => o.node.key).Nodup := by
    have := keys_nodup cfg h
    unfold Entries.names at this
    rwa [List.map_map] at this
  rw [requiredKeys_parts, Bool.eq_iff_iff, List.contains_iff_mem, List.mem_map]
  constructor
  · rintro ⟨p, hp, hkey⟩
    obtain ⟨hp, hr⟩ := List.mem_filter.1 hp
    have : p = o := List.inj_on_of_nodup_map hkeys hp ho hkey
    rw [← this, hr]
  · exact fun hr => ⟨o, List.mem_filter.2 ⟨ho, hr⟩, rfl⟩

/-! ## Keywords that are not interpreted -/

theorem ownBlock_yields {ms : Members} (h : ∀ test, Entries.find? ms "if" = some test →
    isTest test = false) (path : String) (parts₀ : Decompile.ObjectParts) :
    (ownBlock below ms path parts₀).Yields parts₀ := by
  unfold ownBlock
  cases hif : Entries.find? ms "if" with
  | none =>
    rw [if_neg (by rw [Entries.has, hif]; decide)]
    exact .pure _
  | some test =>
    rw [if_pos (by rw [Entries.has, hif]; rfl)]
    have hblock : Entries.find? (clauseKeywords.filterMap fun k =>
        (Entries.find? ms k).map fun v => (k, v)) "if" = some test := by
      unfold clauseKeywords
      rw [List.filterMap_cons, hif]
      exact (Entries.find?_cons _ _ _ _).trans (if_pos rfl)
    have hnone : groupKind? (.obj (clauseKeywords.filterMap fun k =>
        (Entries.find? ms k).map fun v => (k, v))) = none := by
      unfold groupKind?
      dsimp only
      rw [hblock]
      dsimp only
      rw [h test hif]
      rfl
    dsimp only
    rw [hnone, if_neg (by decide)]
    exact (Yields.warn _).bind (.pure _)

theorem ownListGroup_yields {ms : Members} {kind : GroupKind}
    (h : ∀ v, Entries.find? ms kind.name = some v → groupKind? (.obj [(kind.name, v)]) = none)
    (path : String) (parts₀ : Decompile.ObjectParts) :
    (ownListGroup below ms path parts₀ kind).Yields parts₀ := by
  unfold ownListGroup
  cases hfind : Entries.find? ms kind.name with
  | none => exact .pure _
  | some v =>
    dsimp only
    rw [h v hfind]
    exact (Yields.warn _).bind (.pure _)

/-! ## Groups -/

/-- Groups that are listed are read back. -/
theorem foldlM_groups_yields {groups : List Outline} (path : String)
    (hgroups : ∀ o ∈ groups, ReadsGroup below cfg o ∧
      ∃ kind clauses, o.node.body = .group kind clauses ∧
        groupKind? (o.written cfg) = some kind) (start : Nat) (acc : Decompile.ObjectParts × List Value) :
    ∃ groups', (((groups.map fun o => o.written cfg).zipIdx start).foldlM
        (allOfEntry below path) acc).Yields
        ({ acc.1 with children := acc.1.children ++ groups' }, acc.2) ∧
      List.Forall₂ (Mirrors cfg) groups groups' := by
  induction groups generalizing start acc with
  | nil => exact ⟨[], by rw [List.append_nil]; exact .pure _, .nil⟩
  | cons o groups ih =>
    obtain ⟨hread, kind, clauses, hb, hkind⟩ := hgroups o List.mem_cons_self
    obtain ⟨o', ho', hm⟩ := hread kind clauses hb _ (written_eq o) acc.1.keys
      (path ++ "/allOf/" ++ toString start)
    have hentry : (allOfEntry below path acc (o.written cfg, start)).Yields
        ({ acc.1 with children := acc.1.children ++ [o'] }, acc.2) := by
      rw [written_eq] at hkind ⊢
      unfold allOfEntry
      dsimp only
      rw [hkind]
      dsimp only
      have hchild : (childGroup below kind (members cfg o.node (parts cfg o.hanging))
          (path ++ "/allOf/" ++ toString start) [] acc.1).Yields
          { acc.1 with children := acc.1.children ++ [o'] } := by
        unfold childGroup
        rw [List.append_nil]
        exact ho'.bind (.pure _)
      exact hchild.bind (.pure _)
    obtain ⟨groups', hy, hf⟩ := ih (fun p hp => hgroups p (List.mem_cons_of_mem _ hp)) (start + 1)
      ({ acc.1 with children := acc.1.children ++ [o'] }, acc.2)
    refine ⟨o' :: groups', ?_, .cons hm hf⟩
    rw [List.map_cons, List.zipIdx_cons, List.foldlM_cons]
    rw [List.append_assoc] at hy
    exact hentry.bind hy

/-- Entries that are no groups are put aside. -/
theorem foldlM_kept_yields (below : Reader) {kept : List Value} (path : String)
    (hkept : ∀ v ∈ kept, groupKind? v = none) (start : Nat) (acc : Decompile.ObjectParts × List Value) :
    ((kept.zipIdx start).foldlM (allOfEntry below path) acc).Yields (acc.1, acc.2 ++ kept) := by
  induction kept generalizing start acc with
  | nil =>
    rw [List.append_nil]
    exact .pure _
  | cons v kept ih =>
    have hentry : (allOfEntry below path acc (v, start)).Yields (acc.1, acc.2 ++ [v]) := by
      unfold allOfEntry
      dsimp only
      rw [hkept v List.mem_cons_self]
      cases v <;> exact .pure _
    have hy := ih (fun w hw => hkept w (List.mem_cons_of_mem _ hw)) (start + 1)
      (acc.1, acc.2 ++ [v])
    rw [List.zipIdx_cons, List.foldlM_cons]
    rw [List.append_assoc] at hy
    exact hentry.bind hy

/-- Whether the `allOf` list of a written object is read. -/
def listsAllOf (n : Node Nat) (bs : List (EdgeKind × Outline)) : Bool :=
  !(groupsOf bs).isEmpty || !(keptEntries n).isEmpty

/-- What is kept of the `allOf` list of a written object. -/
def keptMembers (n : Node Nat) : Members :=
  if (keptEntries n).isEmpty then [] else [("allOf", .list (keptEntries n))]

/-- The `allOf` list of a written object, when there is one. -/
theorem member_allOf {attributes : ObjectAttributes} (hb : n.body = .object attributes)
    (h : listsAllOf n bs = true) : Value.member (members cfg n (parts cfg bs)) "allOf" =
      .list ((groupsOf bs).map (fun o => o.written cfg) ++ keptEntries n) := by
  rw [Value.member, find?_object hb (by decide) (by decide), find?_objectMembers, if_neg (by simp),
    if_neg (by simp)]
  by_cases hg : groupsOf bs = []
  · rw [if_neg (fun h => h.2 hg), Option.none_or, hg, List.map_nil, List.nil_append]
    unfold listsAllOf keptEntries at h
    unfold keptEntries
    cases hv : Entries.find? n.extras "allOf" with
    | none => simp [hg, hv] at h
    | some v =>
      cases v with
      | list items => rfl
      | null | bool _ | int _ | float _ | str _ | obj _ => simp [hg, hv] at h
  · rw [if_pos ⟨rfl, hg⟩]
    rfl

/-- Otherwise what stands there is no list. -/
theorem member_allOf_ne (cfg : DocumentConfig) {attributes : ObjectAttributes} (hb : n.body = .object attributes)
    (hr : ObjectReads n bs) (h : listsAllOf n bs = false) (items : List Value) :
    Value.member (members cfg n (parts cfg bs)) "allOf" ≠ .list items := by
  unfold listsAllOf at h
  rw [Bool.or_eq_false_iff, Bool.not_eq_false', Bool.not_eq_false', List.isEmpty_iff,
    List.isEmpty_iff] at h
  rw [Value.member, find?_object hb (by decide) (by decide), find?_objectMembers, if_neg (by simp),
    if_neg (by simp), if_neg (fun h' => h'.2 h.1), Option.none_or]
  intro heq
  cases hv : Entries.find? n.extras "allOf" with
  | none => simp [hv] at heq
  | some v =>
    rw [hv, Option.getD_some] at heq
    subst heq
    have hkept := h.2
    unfold keptEntries at hkept
    rw [hv] at hkept
    exact (hr.allOf items hv).1 hkept

theorem groupKind?_keptEntries (hr : ObjectReads n bs) :
    ∀ v ∈ keptEntries n, groupKind? v = none := by
  intro v hv
  unfold keptEntries at hv
  cases hfind : Entries.find? n.extras "allOf" with
  | none => simp [hfind] at hv
  | some w =>
    cases w with
    | list items =>
      rw [hfind] at hv
      exact (hr.allOf items hfind).2 v hv
    | null | bool _ | int _ | float _ | str _ | obj _ => simp [hfind] at hv

/-- The groups among the children of an object are read back. -/
theorem ownAllOf_yields {attributes : ObjectAttributes} (hb : n.body = .object attributes)
    (hr : ObjectReads n bs) (hgroups : ∀ o ∈ groupsOf bs, ReadsGroup below cfg o ∧
      ∃ kind clauses, o.node.body = .group kind clauses ∧
        groupKind? (o.written cfg) = some kind) (path : String) (fields : List Outline)
    (consumed : List String) :
    ∃ groups, (ownAllOf below (members cfg n (parts cfg bs)) path
        { children := fields, consumed := consumed }).Yields
        { children := fields ++ groups
          consumed := consumed ++ if listsAllOf n bs then ["allOf"] else []
          kept := keptMembers n } ∧
      List.Forall₂ (Mirrors cfg) (groupsOf bs) groups := by
  rw [ownAllOf_eq]
  by_cases hl : listsAllOf n bs = true
  · rw [member_allOf hb hl, if_pos hl]
    dsimp only
    obtain ⟨groups, hy, hf⟩ := foldlM_groups_yields path hgroups 0
      ({ children := fields, consumed := consumed ++ ["allOf"] }, [])
    have hy' := foldlM_kept_yields below path (groupKind?_keptEntries hr)
      ((groupsOf bs).map fun o => o.written cfg).length
      ({ children := fields ++ groups, consumed := consumed ++ ["allOf"] }, [])
    refine ⟨groups, ?_, hf⟩
    rw [List.zipIdx_append, List.foldlM_append, Nat.zero_add]
    refine (hy.bind hy').bind ?_
    unfold keepOthers keptMembers
    dsimp only
    rw [List.nil_append]
    split
    · exact .pure _
    · exact (Yields.warn _).bind (.pure _)
  · rw [if_neg hl]
    rw [Bool.not_eq_true] at hl
    have hempty := hl
    unfold listsAllOf at hempty
    rw [Bool.or_eq_false_iff, Bool.not_eq_false', Bool.not_eq_false'] at hempty
    have hkept : keptMembers n = [] := if_pos hempty.2
    refine ⟨[], ?_, by rw [List.isEmpty_iff.1 hempty.1]; exact .nil⟩
    rw [hkept, List.append_nil, List.append_nil]
    have hne := member_allOf_ne cfg hb hr hl
    cases hv : Value.member (members cfg n (parts cfg bs)) "allOf" with
    | list items => exact absurd hv (hne items)
    | null => exact .pure _
    | bool _ | int _ | float _ | str _ | obj _ => exact (Yields.warn _).bind (.pure _)

/-! ## All children -/

/-- The keywords that are read of a written object for its children. -/
def readKeywords (cfg : DocumentConfig) (n : Node Nat) (bs : List (EdgeKind × Outline)) :
    List String :=
  (if requiredKeys (parts cfg bs) ≠ [] then ["required"] else []) ++
    (if (fieldsOf bs).map (asProperty cfg) ≠ [] then ["properties"] else []) ++
    if listsAllOf n bs then ["allOf"] else []

theorem find?_kept {attributes : ObjectAttributes} (hb : n.body = .object attributes) {k : String}
    (hk : k ∉ "type" :: Body.vocabulary .object) (ha : k ∉ annotationKeywords)
    (hinner : k ∉ innerKeywords .object) :
    Entries.find? (members cfg n (parts cfg bs)) k = Entries.find? n.extras k := by
  have hnone : Entries.find? (objectMembers n (parts cfg bs)) k = none :=
    Entries.find?_eq_none_iff.2 fun h => hinner ((names_objectMembers_sublist _ _).subset h)
  rw [find?_object hb hk ha, hnone, Option.none_or]

/-- The children of an object are read back: its fields, and then its groups. -/
theorem objectParts_yields {attributes : ObjectAttributes} (hb : n.body = .object attributes)
    (hfree : n.Free ["required"]) (hr : ObjectReads n bs)
    (hfields : ∀ o ∈ fieldsOf bs, Reads below cfg o)
    (hgroups : ∀ o ∈ groupsOf bs, ReadsGroup below cfg o ∧
      ∃ kind clauses, o.node.body = .group kind clauses ∧
        groupKind? (o.written cfg) = some kind) (path : String) :
    ∃ fields groups, (objectParts below (members cfg n (parts cfg bs)) path).Yields
        { children := fields ++ groups, consumed := readKeywords cfg n bs, kept := keptMembers n } ∧
      List.Forall₂ (FieldMirrors cfg) (fieldsOf bs) fields ∧
      List.Forall₂ (Mirrors cfg) (groupsOf bs) groups := by
  have hrequired : Entries.find? (members cfg n (parts cfg bs)) "required" =
      if requiredKeys (parts cfg bs) ≠ [] then
        some (Value.ofStrings (requiredKeys (parts cfg bs))) else none := by
    rw [find?_object hb (by decide) (by decide), find?_objectMembers, if_neg (by simp),
      hfree.find? (List.mem_singleton_self _), Option.or_none,
      if_neg (c := "allOf" = _ ∧ _) (by simp)]
    simp
  have hproperties : Value.member (members cfg n (parts cfg bs)) "properties" =
      if (fieldsOf bs).map (asProperty cfg) ≠ [] then
        .obj ((fieldsOf bs).map (asProperty cfg)) else .null := by
    rw [Value.member, find?_object hb (by decide) (by decide), find?_objectMembers,
      if_neg (c := "required" = _ ∧ _) (by simp), if_neg (c := "allOf" = _ ∧ _) (by simp)]
    by_cases hf : fieldsOf bs = []
    · rw [if_neg (fun h => h.2 hf), Option.none_or, hf, List.map_nil, if_neg (fun h => h rfl)]
      cases hv : Entries.find? n.extras "properties" with
      | none => rfl
      | some v => rw [(hr.properties v hv).1]; rfl
    · rw [if_pos ⟨rfl, hf⟩, if_pos (by simpa using hf)]
      rfl
  obtain ⟨fields, hy, hf⟩ := fields_yields path
    (fun o ho => ⟨hfields o ho, (mem_fieldsOf ho).choose_spec.2.2⟩)
    (fun o ho => contains_requiredKeys cfg hr ho)
  obtain ⟨groups, hg, hm⟩ := ownAllOf_yields hb hr hgroups path fields
    ((if requiredKeys (parts cfg bs) ≠ [] then ["required"] else []) ++
      if (fieldsOf bs).map (asProperty cfg) ≠ [] then ["properties"] else [])
  refine ⟨fields, groups, ?_, hf, hm⟩
  unfold objectParts
  refine (requiredOf_yields hrequired path).bind ?_
  dsimp only
  refine (propertiesOf_yields hproperties path).bind ?_
  dsimp only
  refine hy.bind ?_
  have hback : (fields.map some).filterMap id = fields := by
    rw [List.filterMap_map]
    exact (congrFun List.filterMap_eq_map fields).trans (List.map_id fields)
  rw [hback]
  refine (Yields.warnIf _ _).bind ?_
  refine (ownBlock_yields (fun test h => ?_) path _).bind ?_
  · rw [find?_kept hb (by decide) (by decide) (by decide)] at h
    exact hr.block test h
  refine hg.bind ?_
  have hlists : ∀ kind ∈ [GroupKind.anyOf, .oneOf], ∀ v,
      Entries.find? (members cfg n (parts cfg bs)) kind.name = some v →
      groupKind? (.obj [(kind.name, v)]) = none := by
    have hnames : ∀ kind ∈ [GroupKind.anyOf, .oneOf],
        kind.name ∉ "type" :: Body.vocabulary .object ∧ kind.name ∉ annotationKeywords ∧
          kind.name ∉ innerKeywords .object := by decide
    intro kind hkind v h
    obtain ⟨hk, ha, hinner⟩ := hnames kind hkind
    rw [find?_kept hb hk ha hinner] at h
    exact hr.lists kind hkind v h
  exact (ownListGroup_yields (hlists .anyOf (by decide)) path _).bind
    (ownListGroup_yields (hlists .oneOf (by decide)) path _)

end Outline

end FormGraph

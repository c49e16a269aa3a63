import FormGraph.Proofs.Reread.Children

/-!
# Reading an object back as a node

The node of an object keeps its extras; only the list of entries that are kept behind the groups moves
to their end. So the object is written alike, and where no such list is kept it says the same.
-/

namespace FormGraph

open Noted

namespace Outline

open Compile Decompile

variable {cfg : DocumentConfig} {bs : List (EdgeKind × Outline)} {n : Node Nat} {below : Reader}
  {attributes : List String}

/-! ## Extras -/

/-- The extras of an object as they are read back, where `attributes` are the keywords that are read
besides those of the children. -/
def extrasBack (cfg : DocumentConfig) (attributes : List String) (n : Node Nat)
    (bs : List (EdgeKind × Outline)) : Members :=
  Entries.putAll (n.extras.filter fun e => !(attributes ++ readKeywords cfg n bs).contains e.1)
    (keptMembers n)

theorem free_readKeywords (hfree : n.Free ["required"]) (hr : ObjectReads n bs) {k : String}
    (hk : k ∈ readKeywords cfg n bs) (hne : k ≠ "allOf") : Entries.find? n.extras k = none := by
  unfold readKeywords at hk
  rw [List.mem_append, List.mem_append] at hk
  rcases hk with (hk | hk) | hk
  · split_ifs at hk
    · exact hfree.find? hk
    · simp at hk
  · split_ifs at hk with hf
    · obtain rfl := List.mem_singleton.1 hk
      cases hv : Entries.find? n.extras "properties" with
      | none => rfl
      | some v =>
        obtain ⟨o, ho⟩ := List.exists_mem_of_ne_nil _ (fun h : fieldsOf bs = [] => hf (by rw [h]; rfl))
        obtain ⟨b, hb, rfl, hg⟩ := mem_fieldsOf ho
        exact absurd ((hr.properties v hv).2 b hb) (by rw [hg]; decide)
    · simp at hk
  · split_ifs at hk
    · exact absurd (List.mem_singleton.1 hk) hne
    · simp at hk

theorem allOf_mem_readKeywords : "allOf" ∈ readKeywords cfg n bs ↔ listsAllOf n bs = true := by
  unfold readKeywords
  by_cases h : listsAllOf n bs = true
  · rw [if_pos h]
    exact iff_of_true (List.mem_append_right _ (List.mem_singleton_self _)) h
  · rw [if_neg h, List.append_nil, List.mem_append]
    refine iff_of_false (fun hmem => ?_) h
    rcases hmem with hmem | hmem <;>
    · split_ifs at hmem <;> simp at hmem

theorem find?_keptMembers (n : Node Nat) (k : String) : Entries.find? (keptMembers n).reverse k =
    if "allOf" = k ∧ keptEntries n ≠ [] then some (.list (keptEntries n)) else none := by
  unfold keptMembers
  cases keptEntries n <;> simp

/-- Of the extras those go that are read with the children. -/
theorem find?_extrasKept (cfg : DocumentConfig) (bs : List (EdgeKind × Outline))
    (hfree : n.Free attributes) (k : String) :
    Entries.find? (n.extras.filter fun e => !(attributes ++ readKeywords cfg n bs).contains e.1) k =
      if k ∈ readKeywords cfg n bs then none else Entries.find? n.extras k := by
  rw [Entries.find?_filter fun k => !(attributes ++ readKeywords cfg n bs).contains k]
  by_cases hk : k ∈ readKeywords cfg n bs
  · simp [hk]
  · by_cases ha : k ∈ attributes
    · simp [ha, hk, hfree.find? ha]
    · simp [ha, hk]

theorem find?_extrasBack (hfree : n.Free attributes) (hrequired : n.Free ["required"])
    (hr : ObjectReads n bs) {k : String} (hk : k ≠ "allOf") :
    Entries.find? (extrasBack cfg attributes n bs) k = Entries.find? n.extras k := by
  unfold extrasBack
  rw [Entries.find?_putAll, find?_keptMembers, if_neg (fun h => hk h.1.symm), Option.none_or,
    find?_extrasKept cfg bs hfree]
  split_ifs with hc
  · exact (free_readKeywords hrequired hr hc hk).symm
  · rfl

theorem find?_extrasBack_allOf (cfg : DocumentConfig) (bs : List (EdgeKind × Outline))
    (hfree : n.Free attributes) :
    Entries.find? (extrasBack cfg attributes n bs) "allOf" =
      if keptEntries n ≠ [] then some (.list (keptEntries n))
      else if listsAllOf n bs then none else Entries.find? n.extras "allOf" := by
  unfold extrasBack
  rw [Entries.find?_putAll, find?_keptMembers, find?_extrasKept cfg bs hfree]
  by_cases hkept : keptEntries n = []
  · simp only [hkept, ne_eq, not_true_eq_false, and_false, if_false, Option.none_or,
      allOf_mem_readKeywords]
  · rw [if_pos ⟨rfl, hkept⟩, if_pos hkept]
    rfl

/-- The entries that are kept are the same. -/
theorem keptEntries_back {n' : Node Nat} (hfree : n.Free attributes)
    (h : n'.extras = extrasBack cfg attributes n bs) : keptEntries n' = keptEntries n := by
  by_cases hkept : keptEntries n = []
  · have hfind := find?_extrasBack_allOf cfg bs hfree
    rw [if_neg (fun h => h hkept), ← h] at hfind
    by_cases hl : listsAllOf n bs = true
    · rw [if_pos hl] at hfind
      rw [hkept]
      unfold keptEntries
      rw [hfind]
    · rw [if_neg hl] at hfind
      unfold keptEntries
      rw [hfind]
  · have hfind := find?_extrasBack_allOf cfg bs hfree
    rw [if_pos hkept, ← h] at hfind
    unfold keptEntries at hfind ⊢
    rw [hfind]

theorem extrasBack_eq (hfree : n.Free attributes) (hrequired : n.Free ["required"])
    (hr : ObjectReads n bs) (hallOf : n.Free ["allOf"]) :
    extrasBack cfg attributes n bs = n.extras := by
  have hkept : keptMembers n = [] := by
    unfold keptMembers keptEntries
    rw [hallOf.find? (List.mem_singleton_self _)]
    rfl
  have hall : n.Free (attributes ++ readKeywords cfg n bs) := by
    intro k hk
    rw [← Entries.find?_eq_none_iff]
    rcases List.mem_append.1 hk with hk | hk
    · exact hfree.find? hk
    · by_cases hne : k = "allOf"
      · rw [hne]
        exact hallOf.find? (List.mem_singleton_self _)
      · exact free_readKeywords hrequired hr hk hne
  unfold extrasBack
  rw [hkept, filter_of_free hall]
  rfl

/-! ## The object -/

theorem alike_of_forall₂ {as ms : Members}
    (h : List.Forall₂ (fun a b => b.1 = a.1 ∧ Value.Alike a.2 b.2) as ms) :
    Value.Alike (.obj as) (.obj ms) := by
  rw [Value.alike_obj_iff]
  intro name
  induction h with
  | nil => trivial
  | @cons a b _ _ hab _ ih =>
    obtain ⟨k, v⟩ := a
    obtain ⟨k', w⟩ := b
    obtain ⟨rfl, hvw⟩ := hab
    rw [Entries.find?_cons, Entries.find?_cons]
    split
    · exact hvw
    · exact ih

theorem fixed_rebuilt (n : Node Nat) (key : String) (required : Bool) (extras : Members) :
    fixed (rebuilt n key required n.body extras) = fixed n := by
  unfold fixed rebuilt head Node.kind
  cases n.body <;> rfl

theorem exists_left_of_mem {α β : Type} {R : α → β → Prop} {as : List α} {ms : List β}
    (h : List.Forall₂ R as ms) {b : β} (hb : b ∈ ms) : ∃ a ∈ as, R a b := by
  induction h with
  | nil => simp at hb
  | cons hab _ ih =>
    rcases List.mem_cons.1 hb with rfl | hb
    · exact ⟨_, List.mem_cons_self, hab⟩
    · obtain ⟨a, ha, hr⟩ := ih hb
      exact ⟨a, List.mem_cons_of_mem _ ha, hr⟩

theorem map_eq_map_of_forall₂ {α β γ : Type} {f : α → γ} {g : β → γ} {as : List α} {ms : List β}
    (h : List.Forall₂ (fun a b => g b = f a) as ms) : ms.map g = as.map f := by
  induction h with
  | nil => rfl
  | cons hab _ ih => rw [List.map_cons, List.map_cons, hab, ih]

theorem sayOwn_of_body {n' : Node Nat} (hb : n'.body = n.body) (hg : n.kind.isGroup = false)
    (below below' : List Saying) : sayOwn n' below' = sayOwn n below := by
  have hg' : n'.kind.isGroup = false := by rwa [Node.kind, hb]
  unfold sayOwn
  rw [hg, hg', hb]
  rfl

/-- What has been read of the children of an object mirrors it. -/
structure ChildrenMirror (cfg : DocumentConfig) (bs : List (EdgeKind × Outline))
    (fields groups : List Outline) : Prop where
  /-- The fields. -/
  fields : List.Forall₂ (FieldMirrors cfg) (fieldsOf bs) fields
  /-- The groups. -/
  groups : List.Forall₂ (Mirrors cfg) (groupsOf bs) groups

section

variable {fields groups : List Outline} (h : ChildrenMirror cfg bs fields groups)

include h

theorem ChildrenMirror.isGroup_fields : ∀ o ∈ fields, o.node.kind.isGroup = false := by
  intro o' ho'
  obtain ⟨o, ho, hm⟩ := exists_left_of_mem h.fields ho'
  obtain ⟨_, _, _, hg⟩ := mem_fieldsOf ho
  rwa [hm.mirrors.kind]

theorem ChildrenMirror.isGroup_groups : ∀ o ∈ groups, o.node.kind.isGroup = true := by
  intro o' ho'
  obtain ⟨o, ho, hm⟩ := exists_left_of_mem h.groups ho'
  obtain ⟨_, _, _, hg⟩ := mem_groupsOf ho
  rwa [hm.kind]

theorem ChildrenMirror.fieldsOf_eq :
    fieldsOf ((fields ++ groups).map fun o => (EdgeKind.child, o)) = fields :=
  fieldsOf_children h.isGroup_fields h.isGroup_groups

theorem ChildrenMirror.groupsOf_eq :
    groupsOf ((fields ++ groups).map fun o => (EdgeKind.child, o)) = groups :=
  groupsOf_children h.isGroup_fields h.isGroup_groups

theorem ChildrenMirror.requiredKeys_eq :
    requiredKeys (parts cfg ((fields ++ groups).map fun o => (EdgeKind.child, o))) =
      requiredKeys (parts cfg bs) := by
  rw [requiredKeys_parts, requiredKeys_parts, h.fieldsOf_eq]
  have hfields := h.fields
  generalize fieldsOf bs = read at hfields ⊢
  clear h
  induction hfields with
  | nil => rfl
  | cons hm _ ih =>
    rw [List.filter_cons, List.filter_cons, hm.required]
    split
    · rw [List.map_cons, List.map_cons, hm.key, ih]
    · exact ih

theorem ChildrenMirror.properties_alike
    (hp : ∀ o ∈ fieldsOf bs, (o.written cfg).Proper) :
    Value.Alike (.obj ((fieldsOf bs).map (asProperty cfg)))
      (.obj (fields.map (asProperty cfg))) := by
  refine alike_of_forall₂ ?_
  rw [List.forall₂_map_left_iff, List.forall₂_map_right_iff]
  refine ((List.forall₂_and_left _ _).2 ⟨hp, h.fields⟩).imp fun o o' hm => ?_
  exact ⟨hm.2.key, hm.2.mirrors.alike hm.1⟩

theorem ChildrenMirror.groups_alike (hp : ∀ o ∈ groupsOf bs, (o.written cfg).Proper)
    (kept : List Value) :
    Value.Alike (.list ((groupsOf bs).map (fun o => o.written cfg) ++ kept))
      (.list (groups.map (fun o => o.written cfg) ++ kept)) := by
  rw [Value.alike_list_iff]
  refine List.rel_append ?_ (List.forall₂_same.2 fun v _ => Value.Alike.refl v)
  rw [List.forall₂_map_left_iff, List.forall₂_map_right_iff]
  exact ((List.forall₂_and_left _ _).2 ⟨hp, h.groups⟩).imp fun o o' hm => hm.2.alike hm.1

/-- What hangs below the object is written alike. -/
theorem ChildrenMirror.objectMembers_alike {n' : Node Nat}
    (hf : ∀ o ∈ fieldsOf bs, (o.written cfg).Proper)
    (hg : ∀ o ∈ groupsOf bs, (o.written cfg).Proper) (hkept : keptEntries n' = keptEntries n)
    (k : String) :
    Value.AlikeAt (Entries.find? (objectMembers n (parts cfg bs)) k)
      (Entries.find? (objectMembers n'
        (parts cfg ((fields ++ groups).map fun o => (EdgeKind.child, o)))) k) := by
  rw [find?_objectMembers, find?_objectMembers, h.fieldsOf_eq, h.groupsOf_eq, h.requiredKeys_eq,
    hkept]
  have hfields : fields ≠ [] ↔ fieldsOf bs ≠ [] := by
    rw [← List.length_pos_iff, ← List.length_pos_iff, h.fields.length_eq]
  have hgroups : groups ≠ [] ↔ groupsOf bs ≠ [] := by
    rw [← List.length_pos_iff, ← List.length_pos_iff, h.groups.length_eq]
  simp only [hfields, hgroups]
  split_ifs
  · exact h.properties_alike hf
  · exact Value.AlikeAt.refl _
  · exact h.groups_alike hg _
  · trivial

/-- What hangs below the object says the same. -/
theorem ChildrenMirror.sayChildren_eq (hc : ∀ b ∈ bs, b.2.Clean cfg) :
    sayChildren (sayings ((fields ++ groups).map fun o => (EdgeKind.child, o))) =
      sayChildren (sayings bs) := by
  have hf : fields.map (fun o => o.description.value (some (o.node.key, o.node.required))) =
      (fieldsOf bs).map fun o => o.description.value (some (o.node.key, o.node.required)) := by
    have hclean : ∀ o ∈ fieldsOf bs, o.Clean cfg := fun o ho => by
      obtain ⟨b, hb, rfl, _⟩ := mem_fieldsOf ho
      exact hc b hb
    refine map_eq_map_of_forall₂ ?_
    refine ((List.forall₂_and_left _ _).2 ⟨hclean, h.fields⟩).imp fun o o' hm => ?_
    rw [hm.2.mirrors.said hm.1, hm.2.key, hm.2.required]
  have hg : groups.map (fun o => o.description.value none) =
      (groupsOf bs).map fun o => o.description.value none := by
    have hclean : ∀ o ∈ groupsOf bs, o.Clean cfg := fun o ho => by
      obtain ⟨b, hb, rfl, _⟩ := mem_groupsOf ho
      exact hc b hb
    refine map_eq_map_of_forall₂ ?_
    refine ((List.forall₂_and_left _ _).2 ⟨hclean, h.groups⟩).imp fun o o' hm => ?_
    rw [hm.2.said hm.1]
  rw [sayChildren_sayings, sayChildren_sayings, h.fieldsOf_eq, h.groupsOf_eq, hf, hg]

end

/-- What an object writes below itself is read as its children. -/
theorem mem_readKeywords_of_inner {own : ObjectAttributes} (hb : n.body = .object own) {k : String}
    (hk : k ∈ Entries.names (inner cfg n (parts cfg bs))) : k ∈ readKeywords cfg n bs := by
  rw [inner_object hb, Entries.mem_names_iff, find?_objectMembers] at hk
  unfold readKeywords
  split_ifs at hk with h₁ h₂ h₃
  · rw [← h₁.1, if_pos (c := (fieldsOf bs).map _ ≠ []) (by simpa using h₁.2)]
    simp
  · rw [← h₂.1, if_pos h₂.2]
    simp
  · rw [← h₃.1]
    refine List.mem_append_right _ ?_
    have hl : listsAllOf n bs = true := by
      unfold listsAllOf
      cases hgs : groupsOf bs with
      | nil => exact absurd hgs h₃.2
      | cons o os => rfl
    rw [if_pos hl]
    exact List.mem_singleton_self _
  · simp at hk

/-- An `allOf` that no group of the object writes is kept as it is. -/
theorem find?_extrasBack_of_no_groups (hfree : n.Free attributes) (hnone : groupsOf bs = []) :
    Entries.find? (extrasBack cfg attributes n bs) "allOf" = Entries.find? n.extras "allOf" := by
  refine (find?_extrasBack_allOf _ bs hfree).trans ?_
  by_cases hempty : keptEntries n = []
  · have hlists : listsAllOf n bs = false := by
      unfold listsAllOf
      rw [hnone, hempty]
      rfl
    rw [if_neg (fun h => h hempty), hlists]
    rfl
  · rw [if_pos hempty]
    unfold keptEntries at hempty ⊢
    cases hv : Entries.find? n.extras "allOf" with
    | none => simp [hv] at hempty
    | some v =>
      cases v with
      | list items => rfl
      | null | bool _ | int _ | float _ | str _ | obj _ => simp [hv] at hempty

/-- An object is read back, where `attributes` are the keywords that are read besides those of its
children. -/
theorem object_yields {keywords : List String} (hl : Labelled n keywords)
    {own : ObjectAttributes} (hb : n.body = .object own)
    (hattributes : ∀ k ∈ "type" :: Body.vocabulary .object, k ∈ attributes)
    (hfree : n.Free attributes) (hrequired : n.Free ["required"]) (hr : ObjectReads n bs)
    (hfields : ∀ o ∈ fieldsOf bs, Reads below cfg o)
    (hgroups : ∀ o ∈ groupsOf bs, ReadsGroup below cfg o ∧
      ∃ kind clauses, o.node.body = .group kind clauses ∧
        groupKind? (o.written cfg) = some kind) (key : String) (required : Bool) (path : String) :
    ∃ parts₀ n', (objectParts below (members cfg n (parts cfg bs)) path).Yields parts₀ ∧
      (nodeOf key n.body (members cfg n (parts cfg bs)) (attributes ++ parts₀.consumed)
        parts₀.kept required path).Yields n' ∧
      Mirrors cfg (mk n bs) (mk n' (parts₀.children.map fun o => (.child, o))) ∧
      n'.key = key ∧ n'.required = required ∧ n'.body = n.body := by
  obtain ⟨fields, groups, hy, hf, hg⟩ := objectParts_yields hb hrequired hr hfields hgroups path
  have hchildren : ChildrenMirror cfg bs fields groups := ⟨hf, hg⟩
  have hn : n.kind = .object := by
    rw [Node.kind, hb]
    rfl
  have hnode := nodeOf_members cfg (parts cfg bs) hl (attributes ++ readKeywords cfg n bs)
    (fun k hk => List.mem_append_left _ (hattributes k (by rwa [hn] at hk)))
    (fun k hk => List.mem_append_right _ (mem_readKeywords_of_inner hb hk)) key n.body
    (keptMembers n) required path
  refine ⟨_, _, hy, hnode, ⟨rfl, fun hp => ?_, fun hc => ?_⟩, rfl, rfl, rfl⟩
  · have hkept : keptEntries (rebuilt n key required n.body (extrasBack cfg attributes n bs)) =
        keptEntries n := keptEntries_back hfree rfl
    rw [written, written]
    refine alike_members (fixed_rebuilt _ _ _ _) (fun k => ?_) fun k hk => ?_
    · rw [inner_object hb, inner_object (n := rebuilt n key required n.body _) hb]
      exact hchildren.objectMembers_alike (fun o ho => (field_partOf hb hr ho).inside.proper hp)
        (fun o ho => (group_partOf hb ho).inside.proper hp) hkept k
    · by_cases hallOf : k = "allOf"
      · subst hallOf
        rw [inner_object hb, find?_objectMembers, if_neg (by simp), if_neg (by simp)] at hk
        have hnone : groupsOf bs = [] := by
          by_contra hne
          rw [if_pos ⟨rfl, hne⟩] at hk
          cases hk
        exact find?_extrasBack_of_no_groups hfree hnone
      · exact find?_extrasBack hfree hrequired hr hallOf
  · obtain ⟨hkept, _, _, _, hclean⟩ := hc
    have hgroup : n.kind.isGroup = false := by
      rw [hn]
      rfl
    refine description_rebuilt rfl (extrasBack_eq hfree hrequired hr (hkept hn)) ?_ ?_
    · exact sayOwn_of_body rfl hgroup _ _
    · unfold sayContents rebuilt
      rw [hb]
      exact hchildren.sayChildren_eq hclean

end Outline

end FormGraph

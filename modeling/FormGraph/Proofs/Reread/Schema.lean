import FormGraph.Proofs.Reread.ObjectNode

/-!
# Reading a schema back

The step of the reader on every kind of node, given that what stands inside is read back, and from it
by induction on the outline that a reader that goes deep enough reads every readable outline back.
-/

namespace FormGraph

open Noted

namespace Outline

open Compile Decompile

variable {cfg : DocumentConfig} {bs : List (EdgeKind × Outline)} {n : Node Nat} {below : Reader}
  {names : List String}

/-! ## Attributes -/

theorem find?_members_attribute (hfree : n.Free (Body.vocabulary n.kind))
    (hg : n.kind.isGroup = false) (hr : n.kind ≠ .reference) (ps : List Part) {k : String}
    (hk : k ∈ Body.vocabulary n.kind) :
    Entries.find? (members cfg n ps) k = Entries.find? n.body.keywords k := by
  have hkinds : k ∉ innerKeywords n.kind ∧ k ∉ annotationKeywords ∧
      ¬ ("type" = k ∧ n.kind.isTyped = true) := by
    clear hfree
    revert k
    generalize n.kind = kind at hg hr ⊢
    cases kind with
    | string | number | boolean | enum | object | array | definition => decide
    | group _ => simp [NodeKind.isGroup] at hg
    | reference => exact absurd rfl hr
  obtain ⟨hinner, hannotated, htype⟩ := hkinds
  rw [find?_members_of_free (fun k' hk' => List.mem_singleton.1 hk' ▸ hfree k hk) hinner,
    find?_fixed hg hr, find?_head, if_neg htype, find?_annotations_eq_none hannotated,
    Option.or_none]

/-- The attributes of a node are read back. -/
theorem ofFragment_members (hfree : n.Free (Body.vocabulary n.kind)) (hg : n.kind.isGroup = false)
    (hr : n.kind ≠ .reference) (hd : n.kind ≠ .definition)
    (hvalues : ∀ a, n.body = .enum a → a.values.isNull = false) (ps : List Part) :
    Body.ofFragment n.kind (members cfg n ps) = n.body := by
  refine Body.ofFragment_eq n.body ?_ hvalues fun k hk =>
    find?_members_attribute hfree hg hr ps hk
  change n.kind.isTyped = true ∨ n.kind = .enum
  generalize n.kind = kind at hg hr hd
  cases kind with
  | string | number | boolean | object | array => exact .inl rfl
  | enum => exact .inr rfl
  | group _ => simp [NodeKind.isGroup] at hg
  | definition => exact absurd rfl hd
  | reference => exact absurd rfl hr

theorem attributeIssues_yields {body : Body Nat} (ht : Check.attributeTypes body = [])
    (path : String) : (attributeIssues body path).Yields () := by
  unfold attributeIssues
  rw [ht]
  exact .pure _

theorem free_consumed (hl : Labelled n (reserved n.kind)) (hg : n.kind.isGroup = false)
    (hr : n.kind ≠ .reference) : n.Free ("type" :: Body.vocabulary n.kind) := by
  refine hl.free.mono fun k hk => List.mem_append_right _ ?_
  revert k
  generalize n.kind = kind at hg hr ⊢
  cases kind with
  | string | number | boolean | enum | object | array | definition => decide
  | group _ => simp [NodeKind.isGroup] at hg
  | reference => exact absurd rfl hr

/-! ## Nodes without groups -/

/-- What is read back of a node is read with the key and required mark of where it stands. -/
def Back (cfg : DocumentConfig) (inner : Inner) (o o' : Outline) : Prop :=
  Mirrors cfg o o' ∧ o'.node.key = inner.key ∧ o'.node.required = inner.required

theorem typed_of_parts (bs : List (EdgeKind × Outline)) (hl : Labelled n (reserved n.kind))
    (hg : n.kind.isGroup = false) (hr : n.kind ≠ .reference) (hd : n.kind ≠ .definition) (ht : Check.attributeTypes n.body = [])
    (tupleItems : TupleItems) (inner : Inner) {parts₀ : Decompile.ObjectParts} {n' : Node Nat}
    (hparts : (partsOf below tupleItems n.kind (members cfg n (parts cfg bs)) inner.path).Yields
      parts₀)
    (hnode : (nodeOf inner.key n.body (members cfg n (parts cfg bs))
      (("type" :: Body.vocabulary n.kind) ++ parts₀.consumed) parts₀.kept inner.required
      inner.path).Yields n') :
    (typed below tupleItems inner (members cfg n (parts cfg bs))).Yields
      (.mk n' (parts₀.children.map fun o => (.child, o))) := by
  rw [typed_eq]
  refine (inferKind_yields hl hg hr hd ht _).bind ?_
  have hvalues : ∀ a, n.body = .enum a → a.values.isNull = false := by
    intro a ha
    rw [ha] at ht
    obtain ⟨vs, hvs⟩ := values_of_types ht
    rw [hvs]
    rfl
  rw [ofFragment_members ((free_consumed hl hg hr).mono (List.subset_cons_self _ _)) hg hr hd
    hvalues]
  exact (attributeIssues_yields ht _).bind (hparts.bind (hnode.bind (.pure _)))

/-- A node is read back when its children are, where the keywords of the children are no extras. -/
theorem rebuilt_mirrors {bs' : List (EdgeKind × Outline)} (hg : n.kind.isGroup = false)
    (key : String) (required : Bool)
    (hinner : (written cfg (mk n bs)).Proper → ∀ k, Value.AlikeAt
      (Entries.find? (Outline.inner cfg n (parts cfg bs)) k)
      (Entries.find? (Outline.inner cfg (rebuilt n key required n.body n.extras)
        (parts cfg bs')) k))
    (hsaid : Clean cfg (mk n bs) →
      sayContents (rebuilt n key required n.body n.extras) (sayings bs') =
        sayContents n (sayings bs)) :
    Mirrors cfg (mk n bs) (mk (rebuilt n key required n.body n.extras) bs') := by
  refine ⟨rfl, fun hp => ?_, fun hc => ?_⟩
  · rw [written, written]
    exact alike_members (fixed_rebuilt _ _ _ _) (hinner hp) fun k _ => rfl
  · exact description_rebuilt rfl rfl (sayOwn_of_body rfl hg _ _) (hsaid hc)

theorem nodeOf_of_free {keywords : List String} (hl : Labelled n keywords)
    (consumed : List String) (hfixed : ∀ k ∈ fixedKeywords n.kind, k ∈ consumed)
    (hinner : ∀ k ∈ innerKeywords n.kind, k ∈ consumed) (hfree : n.Free consumed) (key : String)
    (required : Bool) (path : String) (ps : List Part) :
    (nodeOf key n.body (members cfg n ps) consumed [] required path).Yields
      (rebuilt n key required n.body n.extras) := by
  have hnode := nodeOf_members cfg ps hl consumed hfixed
    (fun k hk => hinner k (names_inner_subset hk)) key n.body [] required path
  rwa [filter_of_free hfree] at hnode

/-- A node that holds no children is read back. -/
theorem leaf_yields (hl : Labelled n (reserved n.kind)) (hg : n.kind.isGroup = false)
    (hr : n.kind ≠ .reference) (hd : n.kind ≠ .definition) (ho : n.kind ≠ .object)
    (ha : n.kind ≠ .array) (ht : Check.attributeTypes n.body = []) (tupleItems : TupleItems)
    (inner : Inner) :
    ∃ o', (typed below tupleItems inner (members cfg n (parts cfg bs))).Yields o' ∧
      Back cfg inner (mk n bs) o' := by
  have hnone : innerKeywords n.kind = [] ∧ ∀ schema path,
      partsOf below tupleItems n.kind schema path = pure {} := by
    generalize n.kind = kind at hg hr hd ho ha
    cases kind with
    | string | number | boolean | enum => exact ⟨rfl, fun _ _ => rfl⟩
    | object => exact absurd rfl ho
    | array => exact absurd rfl ha
    | group _ => simp [NodeKind.isGroup] at hg
    | definition => exact absurd rfl hd
    | reference => exact absurd rfl hr
  have hcontents : ∀ m : Node Nat, m.body = n.body →
      (∀ ps, Outline.inner cfg m ps = []) ∧ ∀ ss, sayContents m ss = [] := by
    intro m hm
    unfold Outline.inner contents sayContents
    rw [hm]
    unfold Node.kind at hg ho ha
    cases hb : n.body with
    | object _ => exact absurd (by rw [hb]; rfl) ho
    | array _ => exact absurd (by rw [hb]; rfl) ha
    | group _ _ =>
      rw [hb] at hg
      simp [Body.kind, NodeKind.isGroup] at hg
    | string _ | number _ | boolean | enum _ | definition _ | reference _ =>
      exact ⟨fun _ => rfl, fun _ => rfl⟩
  refine ⟨_, typed_of_parts bs hl hg hr hd ht tupleItems inner
    (by rw [hnone.2]; exact .pure _) (nodeOf_of_free hl _ ?_ ?_ ?_ _ _ _ _),
    rebuilt_mirrors hg _ _ (fun _ k => ?_) (fun _ => ?_), rfl, rfl⟩
  · intro k hk
    rw [List.append_nil]
    generalize n.kind = kind at hg hr hk
    cases kind with
    | string | number | boolean | enum | object | array | definition => exact hk
    | group _ => simp [NodeKind.isGroup] at hg
    | reference => exact absurd rfl hr
  · rw [hnone.1]
    simp
  · rw [List.append_nil]
    exact free_consumed hl hg hr
  · rw [(hcontents n rfl).1, (hcontents (rebuilt n _ _ _ _) rfl).1]
    trivial
  · rw [(hcontents n rfl).2, (hcontents (rebuilt n _ _ _ _) rfl).2]

/-! ## Arrays -/

theorem inner_array {own : ArrayAttributes} (hb : n.body = .array own) (ps : List Part) :
    Outline.inner cfg n ps = arrayMembers ps := by
  unfold Outline.inner contents
  rw [hb]

theorem find?_items (hl : Labelled n (reserved n.kind)) {own : ArrayAttributes}
    (hb : n.body = .array own) :
    Entries.find? (members cfg n (parts cfg bs)) "items" =
      bs.head?.map fun b => b.2.written cfg := by
  have hn : n.kind = .array := by
    rw [Node.kind, hb]
    rfl
  have hfixed : Entries.find? (fixed n) "items" = none := by
    rw [Entries.find?_eq_none_iff]
    intro h
    rcases names_fixed_subset h with h | h
    · exact absurd h (by decide)
    · rw [hn] at h
      exact absurd h (by decide)
  have hfree : n.Free ["items"] := hl.free_of_mem (by rw [hn]; decide)
  rw [find?_members, hfixed, hfree.find? (List.mem_singleton_self _), Option.or_none,
    Option.or_none, inner_array hb, parts_eq]
  unfold arrayMembers
  cases bs with
  | nil => rfl
  | cons b rest => exact (Entries.find?_cons _ _ _ _).trans (if_pos rfl)

theorem item_partOf (hl : Labelled n (reserved n.kind)) {own : ArrayAttributes}
    (hb : n.body = .array own) {b : EdgeKind × Outline} (h : bs.head? = some b) :
    PartOf cfg b.2 (mk n bs) := by
  have hitems : Entries.find? (members cfg n (parts cfg bs)) "items" = some (b.2.written cfg) := by
    rw [find?_items hl hb, h]
    rfl
  refine ⟨?_, fun t ht => ?_⟩
  · rw [written]
    exact .member hitems
  · rw [references, referencesBelow_eq, nodeReferences, hb, List.head?_map, h]
    exact ht

/-- The item of an array is read back. -/
theorem arrayItem_yields (hl : Labelled n (reserved n.kind)) {own : ArrayAttributes}
    (hb : n.body = .array own) (hread : ∀ b, bs.head? = some b → Reads below cfg b.2 ∧ b.2.Bare)
    (tupleItems : TupleItems) (path : String) :
    ∃ item, (arrayItem below tupleItems (members cfg n (parts cfg bs)) path).Yields item ∧
      Option.Rel (fun b o' => Mirrors cfg b.2 o') bs.head? item := by
  unfold arrayItem
  rw [find?_items hl hb]
  cases hhead : bs.head? with
  | none => exact ⟨none, .pure _, .none⟩
  | some b =>
    obtain ⟨hreads, hbare⟩ := hread b hhead
    obtain ⟨o', ho', hm, _⟩ := hreads
      { role := .content, schema := b.2.written cfg,
        key := Key.derive (titleOf (members cfg b.2.node (parts cfg b.2.hanging))) "item",
        path := path ++ "/items" } rfl (fun _ => rfl) (fun _ => hbare)
    refine ⟨some o', ?_, .some hm⟩
    rw [written_eq] at ho'
    rw [Option.map_some, written_eq]
    dsimp only
    have hitem : (itemSchema tupleItems (.obj (members cfg b.2.node (parts cfg b.2.hanging)))
        (path ++ "/items")).Yields
        (some (.obj (members cfg b.2.node (parts cfg b.2.hanging)))) := .pure _
    exact hitem.bind ho'

/-- A written array is read back. -/
theorem array_yields (hl : Labelled n (reserved n.kind)) {own : ArrayAttributes}
    (hb : n.body = .array own) (ht : Check.attributeTypes n.body = [])
    (hread : ∀ b, bs.head? = some b → Reads below cfg b.2 ∧ b.2.Bare) (tupleItems : TupleItems)
    (inner : Inner) :
    ∃ o', (typed below tupleItems inner (members cfg n (parts cfg bs))).Yields o' ∧
      Back cfg inner (mk n bs) o' := by
  have hn : n.kind = .array := by
    rw [Node.kind, hb]
    rfl
  obtain ⟨item, hitem, hrel⟩ := arrayItem_yields hl hb hread tupleItems inner.path
  have hparts : (partsOf below tupleItems n.kind (members cfg n (parts cfg bs)) inner.path).Yields
      { children := item.toList, consumed := ["items"] } := by
    rw [hn]
    exact hitem.bind (.pure _)
  have hfree : n.Free (("type" :: Body.vocabulary n.kind) ++ ["items"]) := by
    rw [hn]
    refine hl.free.mono fun k hk => List.mem_append_right _ ?_
    rw [hn]
    revert k
    decide
  refine ⟨_, typed_of_parts bs hl (by rw [hn]; rfl) (by rw [hn]; decide) (by rw [hn]; decide) ht
    tupleItems inner hparts (nodeOf_of_free hl _ ?_ ?_ hfree _ _ _ _),
    rebuilt_mirrors (by rw [hn]; rfl) _ _ (fun hp k => ?_) (fun hc => ?_), rfl, rfl⟩
  · rw [hn]
    decide
  · rw [hn]
    decide
  · rw [inner_array hb, inner_array (n := rebuilt n _ _ _ _) hb, parts_eq, parts_eq]
    unfold arrayMembers
    cases hhead : bs.head? with
    | none =>
      rw [hhead] at hrel
      cases hrel
      obtain rfl := List.head?_eq_none_iff.1 hhead
      trivial
    | some b =>
      rw [hhead] at hrel
      cases hrel with
      | some hm =>
        have halike := hm.alike ((item_partOf hl hb hhead).inside.proper hp)
        rw [List.head?_map, hhead]
        show Value.AlikeAt (Entries.find? [("items", _)] k) (Entries.find? [("items", _)] k)
        rw [Entries.find?_cons, Entries.find?_cons]
        split
        · exact halike
        · trivial
  · obtain ⟨_, hitemLe, _, _, hclean⟩ := hc
    unfold sayContents rebuilt
    rw [hb]
    dsimp only
    rw [sayings_eq, sayings_eq, List.map_map, List.map_map]
    cases bs with
    | nil =>
      cases hrel
      rfl
    | cons b rest =>
      obtain rfl : rest = [] := by
        have := hitemLe hn
        simpa using this
      cases hrel with
      | some hm =>
        have hsaid := hm.said (hclean b List.mem_cons_self)
        simp [hsaid]

/-! ## References -/

theorem targetOf_yields {name : String} (h : name ∈ names) (path : String) :
    (targetOf names (.str (pointer (.str name))) path).Yields name := by
  have hpointer : (pointer (.str name)).toList = pointerFront.toList ++ name.toList :=
    String.toList_append
  have hprefix : pointerFront.toList.isPrefixOf (pointer (.str name)).toList = true := by
    rw [hpointer]
    exact List.isPrefixOf_iff_prefix.2 (List.prefix_append _ _)
  have hname : String.ofList ((pointer (.str name)).toList.drop pointerFront.length) = name := by
    rw [hpointer, ← String.length_toList, List.drop_left, String.ofList_toList]
  unfold targetOf
  dsimp only
  rw [if_pos hprefix, hname, if_pos (List.contains_iff_mem.2 h)]
  exact .pure _

/-- A written reference is read back. -/
theorem pointing_yields (hl : Labelled n (reserved n.kind)) {name : String}
    (hb : n.body = .reference (.str name)) (hname : name ∈ names) (inner : Inner) :
    ∃ o', (pointing names inner (members cfg n (parts cfg bs))).Yields o' ∧
      Back cfg inner (mk n bs) o' := by
  have hn : n.kind = .reference := by
    rw [Node.kind, hb]
    rfl
  have hpointer : Value.member (members cfg n (parts cfg bs)) "$ref" =
      .str (pointer (.str name)) := by
    rw [Value.member, find?_members_pointer hl hb]
    rfl
  have hnode : (nodeOf inner.key n.body (members cfg n (parts cfg bs)) ["$ref"] [] inner.required
      inner.path).Yields (rebuilt n inner.key inner.required n.body n.extras) :=
    nodeOf_of_free hl ["$ref"] (fun k hk => by rwa [hn] at hk)
      (fun k hk => by rw [hn] at hk; simp [innerKeywords] at hk)
      (hl.free.mono fun k hk => List.mem_append_right _ (by rwa [hn])) _ _ _ _
  refine ⟨mk (rebuilt n inner.key inner.required n.body n.extras) [], ?_,
    rebuilt_mirrors (by rw [hn]; rfl) inner.key inner.required (fun _ k => ?_) (fun _ => ?_), rfl,
    rfl⟩
  · unfold pointing
    rw [hpointer]
    refine (targetOf_yields hname _).bind ?_
    rw [← hb]
    exact hnode.bind (.pure _)
  · unfold Outline.inner rebuilt
    rw [hb]
    trivial
  · unfold sayContents rebuilt
    rw [hb]

/-! ## Objects -/

theorem exists_group (hg : n.kind.isGroup = true) :
    ∃ kind clauses, n.body = .group kind clauses := by
  unfold Node.kind at hg
  cases hb : n.body with
  | group kind clauses => exact ⟨kind, clauses, rfl⟩
  | string _ | number _ | boolean | enum _ | object _ | array _ | definition _ | reference _ =>
    rw [hb] at hg
    simp [Body.kind, NodeKind.isGroup] at hg

/-- The groups of a readable object are read back as groups. -/
theorem groups_read {own : ObjectAttributes} (hb : n.body = .object own)
    (hreadable : ∀ b ∈ bs, b.2.Readable names)
    (hgroups : ∀ b ∈ bs, PartOf cfg b.2 (mk n bs) → ReadsGroup below cfg b.2) :
    ∀ o ∈ groupsOf bs, ReadsGroup below cfg o ∧
      ∃ kind clauses, o.node.body = .group kind clauses ∧
        groupKind? (o.written cfg) = some kind := by
  intro o ho
  have hpart : PartOf cfg o (mk n bs) := group_partOf hb ho
  obtain ⟨b, hmem, rfl, hg⟩ := mem_groupsOf ho
  obtain ⟨kind, clauses, hbody⟩ := exists_group hg
  refine ⟨hgroups b hmem hpart, kind, clauses, hbody, ?_⟩
  have hr := hreadable b hmem
  generalize b.2 = o at hr hbody
  obtain ⟨hl, _, _, _⟩ := hr
  exact groupKind?_written hl hbody

/-- A written object is read back. -/
theorem objectSchema_yields (hr : Readable names (mk n bs)) {own : ObjectAttributes}
    (hb : n.body = .object own)
    (hbelow : ∀ b ∈ bs, PartOf cfg b.2 (mk n bs) → Reads below cfg b.2)
    (hgroups : ∀ b ∈ bs, PartOf cfg b.2 (mk n bs) → ReadsGroup below cfg b.2) (tupleItems : TupleItems) (inner : Inner) :
    ∃ o', (typed below tupleItems inner (members cfg n (parts cfg bs))).Yields o' ∧
      Back cfg inner (mk n bs) o' := by
  obtain ⟨hl, ht, hown, hreadable⟩ := hr
  have hn : n.kind = .object := by
    rw [Node.kind, hb]
    rfl
  have hobject : ObjectReads n bs := by
    unfold OwnReads at hown
    rw [hb] at hown
    exact hown
  have hfields : ∀ o ∈ fieldsOf bs, Reads below cfg o := by
    intro o ho
    have hpart : PartOf cfg o (mk n bs) := field_partOf hb hobject ho
    obtain ⟨b, hmem, rfl, _⟩ := mem_fieldsOf ho
    exact hbelow b hmem hpart
  obtain ⟨parts₀, n', hparts, hnode, hm, hkey, hrequired, _⟩ := object_yields hl hb
    (fun k hk => hk) (by rw [← hn]; exact free_consumed hl (by rw [hn]; rfl) (by rw [hn]; decide))
    (hl.free_of_mem (by rw [hn]; decide)) hobject hfields (groups_read hb hreadable hgroups)
    inner.key inner.required inner.path
  have hpartsOf : (partsOf below tupleItems n.kind (members cfg n (parts cfg bs)) inner.path).Yields
      parts₀ := by
    rw [hn]
    exact hparts
  exact ⟨_, typed_of_parts bs hl (by rw [hn]; rfl) (by rw [hn]; decide) (by rw [hn]; decide) ht
    tupleItems inner hpartsOf (by rw [hn]; exact hnode), hm, hkey, hrequired⟩

/-! ## Any schema -/

/-- One step of the reader reads a readable outline back when what is part of it is, and its pointers
point at the definitions that the reader knows. -/
theorem reads_schema {o : Outline} (hr : o.Readable names) {known : List String}
    (hknown : ∀ t ∈ o.references, ∃ name ∈ known, t = .str name) (tupleItems : TupleItems)
    (hbelow : ∀ b ∈ o.hanging, PartOf cfg b.2 o → Reads below cfg b.2)
    (hgroups : ∀ b ∈ o.hanging, PartOf cfg b.2 o → ReadsGroup below cfg b.2) :
    Reads (schema below tupleItems known) cfg o := by
  intro inner hschema hrole hbare
  have hd := hr.kind_ne_definition
  obtain ⟨n, bs⟩ := o
  have hgroup := readsGroup hr hbelow
  have hreadable' := hr
  obtain ⟨hl, ht, hown, hreadable⟩ := hr
  unfold schema
  rw [hschema, written]
  dsimp only
  by_cases hg : n.kind.isGroup = true
  · obtain ⟨kind, clauses, hb⟩ := exists_group hg
    obtain ⟨o', ho', hm⟩ := hgroup kind clauses hb _ rfl [] inner.path
    refine ⟨o', ?_, hm, fun h => absurd (hg.symm.trans h) (by decide)⟩
    have hform : bareGroupKind? (.obj (members cfg n (parts cfg bs))) = some kind :=
      bareGroupKind?_written hl (hbare (hrole hg)) hb
    rw [if_pos (hrole hg), hform]
    exact ho'.bind (.pure _)
  · rw [Bool.not_eq_true] at hg
    have hform : (if inner.role = .content then
        bareGroupKind? (.obj (members cfg n (parts cfg bs))) else none) = none := by
      rw [bareGroupKind?_members_eq_none hl hg hd ht, ite_self]
    rw [hform]
    dsimp only
    by_cases href : n.kind = .reference
    · obtain ⟨name, hname, hb⟩ : ∃ name ∈ known, n.body = .reference (.str name) := by
        unfold Node.kind at href
        cases hb : n.body with
        | reference target =>
          obtain ⟨name, hname, rfl⟩ := hknown target (by
            rw [references, nodeReferences, hb]
            exact List.mem_singleton_self _)
          exact ⟨name, hname, rfl⟩
        | string _ | number _ | boolean | enum _ | object _ | array _ | group _ _ | definition _ =>
          rw [hb] at href
          simp [Body.kind] at href
      have hback : ∃ o', (pointing known inner (members cfg n (parts cfg bs))).Yields o' ∧
          Back cfg inner (mk n bs) o' := pointing_yields hl hb hname inner
      obtain ⟨o', ho', hm, hkey⟩ := hback
      refine ⟨o', ?_, hm, fun _ => hkey⟩
      rw [if_pos (by rw [Entries.has, find?_members_pointer hl hb]; rfl)]
      exact ho'.bind (.pure _)
    · have hnone : Entries.has (members cfg n (parts cfg bs)) "$ref" = false := by
        rw [Entries.has, find?_members_ref hl hg href]
        rfl
      rw [if_neg (by rw [hnone]; decide)]
      have hback : ∃ o', (typed below tupleItems inner (members cfg n (parts cfg bs))).Yields o' ∧
          Back cfg inner (mk n bs) o' := by
        cases hb : n.body with
        | object own => exact objectSchema_yields hreadable' hb hbelow hgroups tupleItems inner
        | array own =>
          refine array_yields hl hb ht (fun b hhead => ?_) tupleItems inner
          have hmem := List.mem_of_head? hhead
          refine ⟨hbelow b hmem (item_partOf hl hb hhead), ?_⟩
          unfold OwnReads at hown
          rw [hb] at hown
          exact hown b hmem
        | string _ | number _ | boolean | enum _ | group _ _ | definition _ | reference _ =>
          exact leaf_yields hl hg href hd (by rw [Node.kind, hb]; simp [Body.kind])
            (by rw [Node.kind, hb]; simp [Body.kind]) ht tupleItems inner
      obtain ⟨o', ho', hm, hkey⟩ := hback
      exact ⟨o', ho'.bind (.pure _), hm, fun _ => hkey⟩

/-- A reader that goes as deep as a readable outline is written, and that knows what its pointers
point at, reads it back; for a group one level less is enough. -/
theorem Readable.reads {o : Outline} (hr : o.Readable names) {known : List String}
    (hknown : ∀ t ∈ o.references, ∃ name ∈ known, t = .str name) (cfg : DocumentConfig)
    (tupleItems : TupleItems) :
    (∀ depth, (o.written cfg).depth ≤ depth → Reads (reader tupleItems known depth) cfg o) ∧
      ∀ depth, (o.written cfg).depth ≤ depth + 1 →
        ReadsGroup (reader tupleItems known depth) cfg o := by
  induction hr with
  | @mk n bs labelled types own below ih =>
    have hr : Readable names (Outline.mk n bs) := .mk labelled types own below
    have hpart : ∀ b ∈ bs, PartOf cfg b.2 (Outline.mk n bs) → ∀ t ∈ b.2.references,
        ∃ name ∈ known, t = .str name := fun b _ hp t ht => hknown t (hp.references ht)
    refine ⟨fun depth hdepth => ?_, fun depth hdepth => ?_⟩
    · cases depth with
      | zero =>
        rw [written, Value.depth] at hdepth
        exact absurd hdepth (Nat.not_succ_le_zero _)
      | succ depth =>
        rw [reader]
        refine reads_schema hr hknown tupleItems (fun b hb hp => ?_) fun b hb hp => ?_
        · exact (ih b hb (hpart b hb hp)).1 depth
            (Nat.lt_succ_iff.1 (Nat.lt_of_lt_of_le hp.inside.depth_lt hdepth))
        · exact (ih b hb (hpart b hb hp)).2 depth
            (Nat.le_of_lt (Nat.lt_of_lt_of_le hp.inside.depth_lt hdepth))
    · refine readsGroup hr fun b hb hp => ?_
      exact (ih b hb (hpart b hb hp)).1 depth
        (Nat.lt_succ_iff.1 (Nat.lt_of_lt_of_le hp.inside.depth_lt hdepth))

end Outline

end FormGraph

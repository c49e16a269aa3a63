import FormGraph.Proofs.Kept.Node
import FormGraph.Proofs.RoundTrip.NormalForm

/-!
# Import and recompile keep what they do not interpret

The readers keep their schemas, whatever stands within them (`keepsReader_reader`): the children of an
object are read from its properties and written under the same names in the same order, the item of an
array is written as its items, and properties and items of any other node are left as they are. With
the definitions that are all written, every schema of a document is kept where it stands
(`schemaAt?_compile_of_decompile`).
-/

namespace FormGraph

open Noted Value

namespace Decompile

open Compile Outline

variable {cfg : DocumentConfig} {below : Reader} {names : List String} {schema : Members}
  {tupleItems : TupleItems} {inner : Inner}

/-- What is read keeps the schema that it is read from. -/
def KeepsReader (cfg : DocumentConfig) (below : Reader) : Prop :=
  ∀ inner o, (below inner).Yields (some o) → inner.schema.Keeps (o.written cfg)

/-! ## One schema -/

/-- Where properties and items are not read they are left. -/
theorem keeps_of_left (kind : NodeKind) {key : String} {body : Body Nat} (hkind : body.kind = kind)
    {consumed : List String} {required : Bool} {bs : List (EdgeKind × Outline)}
    (hcarries : Carries schema body consumed)
    (hproperties : "properties" ∉ innerKeywords kind ++ fixedKeywords kind ++ consumed)
    (hitems : "items" ∉ innerKeywords kind ++ fixedKeywords kind ++ consumed) :
    (Value.obj schema).Keeps
      (written cfg (.mk (madeOf key body schema consumed [] required) bs)) := by
  have hleft : ∀ {k : String} {v : Value},
      k ∉ innerKeywords kind ++ fixedKeywords kind ++ consumed → k ∉ annotationKeywords →
      Entries.find? schema k = some v →
      Entries.find? (members cfg (madeOf key body schema consumed [] required) (parts cfg bs)) k =
        some v := by
    intro k v hk hannotated hfind
    rw [List.mem_append, List.mem_append, not_or, not_or] at hk
    exact find?_members_left hkind hfind hk.1.1 hk.1.2 hannotated hk.2 List.not_mem_nil
  rw [written]
  refine .of_keywords (fun k v hfind hv hk => ?_) (fun properties hfind _ => ?_) fun item hfind => ?_
  · exact find?_members_of_carries hcarries (List.nil_subset _) hfind hv hk
  · exact ⟨properties, hleft hproperties (by decide) hfind, .refl properties⟩
  · exact ⟨.obj item, hleft hitems (by decide) hfind, .refl _⟩

theorem keeps_pointing (hc : (pointing names inner schema).Calm) :
    (Value.obj schema).Keeps ((pointing names inner schema).value.written cfg) := by
  unfold pointing at hc ⊢
  obtain ⟨htarget, hnode⟩ := calm_bind_iff.1 hc
  have hcarries := Carries.of_reference htarget
  rw [value_bind, value_bind, value_pure, (nodeOf_of_calm (calm_bind_iff.1 hnode).1).2.2]
  exact keeps_of_left .reference rfl hcarries (by decide) (by decide)

theorem keeps_group {kind : GroupKind} {taken : List String} {path : String}
    (hc : (group below kind schema taken path).Calm) :
    (Value.obj schema).Keeps ((group below kind schema taken path).value.written cfg) := by
  rw [group_eq] at hc ⊢
  obtain ⟨_, hnode⟩ := calm_bind_iff.1 hc
  rw [value_bind, value_bind, value_pure, (nodeOf_of_calm (calm_bind_iff.1 hnode).1).2.2]
  exact keeps_of_left (.group kind) rfl .of_group (by cases kind <;> decide)
    (by cases kind <;> decide)

theorem objectKeywords_subset : objectKeywords ⊆ interpretedKeywords := by
  decide

/-- An object is kept when its properties are. -/
theorem keeps_object (hb : KeepsReader cfg below) (hf : FieldReader below)
    {parts : Decompile.ObjectParts} (hread : ReadObject below schema parts) {own : List String}
    (hown : ∀ k ∈ own, k ∈ interpretedKeywords ∨ k ∈ Body.vocabulary .object)
    (hitems : "items" ∉ own) (key : String) (required : Bool) :
    (Value.obj schema).Keeps (written cfg (.mk (madeOf key (Body.ofFragment .object schema) schema
      (own ++ parts.consumed) parts.kept required)
      (parts.children.map fun o => (.child, o)))) := by
  obtain ⟨fields, groups, hchildren, hfields, hgroups⟩ := hread.children
  have hconsumed : ∀ k ∈ own ++ parts.consumed,
      k ∈ interpretedKeywords ∨ k ∈ Body.vocabulary .object := by
    intro k hk
    refine (List.mem_append.1 hk).elim (hown k) fun h => .inl ?_
    exact objectKeywords_subset (hread.consumed h)
  have hleft : "items" ∉ own ++ parts.consumed := fun h => (List.mem_append.1 h).elim hitems
    fun h => absurd (hread.consumed h) (by decide)
  have hparts : fieldsOf (parts.children.map fun o => (EdgeKind.child, o)) = fields := by
    rw [hchildren]
    refine fieldsOf_children (fun o ho => ?_) fun o ho => ?_
    · obtain ⟨p, _, _, _, ho⟩ := exists_left_of_mem hfields ho
      exact (hf _ o ho.value_eq rfl).2
    · obtain ⟨c, _, _, _, ho⟩ := exists_left_of_mem hgroups ho
      rw [← ho.value_eq]
      exact isGroup_group _ _ _ _ _
  rw [written]
  refine .of_keywords (fun k v hfind hv hk => ?_) (fun properties hfind hne => ?_)
    fun item hfind => ?_
  · exact find?_members_of_carries (.of_kind rfl (by decide) hconsumed) hread.kept hfind hv hk
  · have hprops : propertiesIn schema = properties := by
      rw [propertiesIn, Value.member, hfind]
      rfl
    rw [hprops] at hfields
    refine ⟨fields.map (asProperty cfg), ?_, ?_⟩
    · rw [find?_object rfl (by decide) (by decide), find?_objectMembers, hparts, if_pos]
      · rfl
      · refine ⟨rfl, fun h => hne ?_⟩
        rw [h] at hfields
        cases hfields
        rfl
    · rw [KeepsAll, List.forall₂_map_right_iff]
      refine hfields.imp fun p o hpo => ?_
      obtain ⟨_, _, ho⟩ := hpo
      exact ⟨(hf _ o ho.value_eq rfl).1, hb _ o ho⟩
  · refine ⟨.obj item, ?_, .refl _⟩
    exact find?_members_left (Body.kind_ofFragment _ _) hfind (by decide) (by decide) (by decide) hleft
      fun h => absurd (hread.kept h) (by decide)

/-- An array is kept when its items are. -/
theorem keeps_array (hb : KeepsReader cfg below) (hs : SomeReader below) {path : String}
    (hc : (arrayItem below tupleItems schema path).Calm) (key : String) (required : Bool) :
    (Value.obj schema).Keeps (written cfg (.mk (madeOf key (Body.ofFragment .array schema) schema
      (("type" :: Body.vocabulary .array) ++ ["items"]) [] required)
      ((arrayItem below tupleItems schema path).value.toList.map fun o => (.child, o)))) := by
  rw [written]
  refine .of_keywords (fun k v hfind hv hk => ?_) (fun properties hfind _ => ?_) fun item hfind => ?_
  · refine find?_members_of_carries (.of_kind rfl (by decide) ?_) (List.nil_subset _) hfind hv hk
    decide
  · refine ⟨properties, ?_, .refl properties⟩
    exact find?_members_left (Body.kind_ofFragment _ _) hfind (by decide) (by decide) (by decide)
      (by decide) List.not_mem_nil
  · have hread := item_of_calm hs hc
    rw [itemIn?, hfind] at hread
    generalize (arrayItem below tupleItems schema path).value = child at hread ⊢
    cases hread with
    | @some _ o ho =>
      obtain ⟨_, _, ho⟩ := ho
      refine ⟨o.written cfg, ?_, hb _ o ho⟩
      rw [find?_members, inner_array rfl, parts_eq]
      rfl

/-- A node without children is kept. -/
theorem keeps_leaf {kind : NodeKind}
    (hkind : kind ∈ [NodeKind.string, .number, .boolean, .enum]) (key : String) (required : Bool)
    (bs : List (EdgeKind × Outline)) :
    (Value.obj schema).Keeps (written cfg (.mk (madeOf key (Body.ofFragment kind schema) schema
      ("type" :: Body.vocabulary kind) [] required) bs)) := by
  simp only [List.mem_cons, List.not_mem_nil, or_false] at hkind
  rcases hkind with rfl | rfl | rfl | rfl <;>
    exact keeps_of_left _ (Body.kind_ofFragment _ _) (.of_kind rfl (by decide) (by decide))
      (by decide) (by decide)

theorem keeps_typed (hb : KeepsReader cfg below) (hf : FieldReader below) (hs : SomeReader below)
    (hc : (typed below tupleItems inner schema).Calm) :
    (Value.obj schema).Keeps ((typed below tupleItems inner schema).value.written cfg) := by
  rw [typed_eq] at hc ⊢
  have hmem := inferKind_cases schema inner.path
  simp only [value_bind, value_pure, calm_bind_iff] at hc ⊢
  generalize (inferKind schema inner.path).value = kind at hmem hc ⊢
  obtain ⟨_, _, hparts, hnode, _⟩ := hc
  rw [(nodeOf_of_calm hnode).2.2]
  cases kind with
  | object => exact keeps_object hb hf (readObject_of_calm hs hparts) (by decide) (by decide) _ _
  | array => exact keeps_array hb hs (calm_bind_iff.1 hparts).1 _ _
  | string | number | boolean | enum =>
    unfold partsOf
    rw [value_pure, List.append_nil]
    exact keeps_leaf (by decide) _ _ _
  | group _ | definition | reference => simp at hmem

theorem keepsReader_schema (hb : KeepsReader cfg below) (hf : FieldReader below)
    (hs : SomeReader below) (tupleItems : TupleItems) (names : List String) :
    KeepsReader cfg (Decompile.schema below tupleItems names) := by
  rintro inner o ⟨hvalue, hc⟩
  unfold Decompile.schema at hvalue hc
  cases hschema : inner.schema with
  | obj members =>
    rw [hschema] at hvalue hc
    dsimp only at hvalue hc
    cases hkind : (if inner.role = .content then bareGroupKind? (.obj members) else none) with
    | some kind =>
      rw [hkind] at hvalue hc
      obtain rfl := Option.some.inj hvalue
      exact keeps_group (calm_bind_iff.1 hc).1
    | none =>
      rw [hkind] at hvalue hc
      dsimp only at hvalue hc
      by_cases href : Entries.has members "$ref" = true
      · rw [if_pos href] at hvalue hc
        obtain rfl := Option.some.inj hvalue
        exact keeps_pointing (calm_bind_iff.1 hc).1
      · rw [if_neg href] at hvalue hc
        obtain rfl := Option.some.inj hvalue
        exact keeps_typed hb hf hs (calm_bind_iff.1 hc).1
  | null | bool _ | int _ | float _ | str _ | list _ => exact .of_not_obj (by simp) _

/-- The readers keep their schemas, down to any depth. -/
theorem keepsReader_reader (cfg : DocumentConfig) (tupleItems : TupleItems) (names : List String)
    (depth : Nat) : KeepsReader cfg (reader tupleItems names depth) := by
  induction depth with
  | zero => exact fun inner o h => absurd h.value_eq (by simp [reader])
  | succ depth ih =>
    exact keepsReader_schema ih (fieldReader_reader tupleItems names depth)
      (someReader_reader tupleItems names depth) tupleItems names

/-! ## Definitions -/

/-- What is read of a definition keeps it. -/
theorem keeps_definition (hb : KeepsReader cfg below) (hs : SomeReader below)
    {entry : String × Value} (hc : (definitionOf below entry).Calm) :
    (definitionOf below entry).value.name = entry.1 ∧
      entry.2.Keeps ((definitionOf below entry).value.written cfg) := by
  rw [definitionOf_eq] at hc ⊢
  refine ⟨rfl, ?_⟩
  have hcontent := (calm_bind_iff.1 hc).1
  rw [value_bind, value_pure]
  unfold definitionContent at hcontent ⊢
  by_cases hempty : entry.2 = .obj []
  · rw [if_pos hempty, hempty]
    exact .refl _
  · rw [if_neg hempty] at hcontent ⊢
    obtain ⟨o, ho⟩ := Option.isSome_iff_exists.1 (hs _ hcontent)
    rw [ho]
    exact hb (definitionInner entry) o ⟨ho, hcontent⟩

/-- What is read of a document keeps its definitions, when all of them are written. -/
theorem keepsAll_definitions {document table : Members} {keep : String → Bool}
    (htable : Entries.find? document definitionsKeyword = some (.obj table))
    (hc : (outline tupleItems document).Calm)
    (hkeep : ∀ e ∈ (outline tupleItems document).value.definitions, keep e.name = true) :
    KeepsAll table ((outline tupleItems document).value.table cfg keep) := by
  rw [DocumentOutline.table, List.filter_eq_self.2 hkeep, KeepsAll, List.forall₂_map_right_iff]
  clear hkeep
  rw [outline_eq] at hc ⊢
  have hread : definitionTable document = pure table := by
    unfold definitionTable
    rw [htable]
  simp only [hread, pure_bind, value_bind, value_pure, calm_bind_iff] at hc ⊢
  obtain ⟨_, hdefinitions, _⟩ := hc
  rw [value_mapM, List.forall₂_map_right_iff, List.forall₂_same]
  exact fun entry hentry => keeps_definition (keepsReader_reader cfg _ _ _)
    (someReader_reader _ _ _) (calm_mapM_iff.1 hdefinitions entry hentry)

/-- What is read of a document keeps it as an object. -/
theorem keeps_root (cfg : DocumentConfig) {document : Members}
    (hc : (outline tupleItems document).Calm) :
    (Value.obj document).Keeps ((outline tupleItems document).value.root.written cfg) := by
  rw [outline_eq] at hc ⊢
  simp only [value_bind, value_pure, calm_bind_iff] at hc ⊢
  obtain ⟨_, _, _, hparts, hnode, _⟩ := hc
  rw [(nodeOf_of_calm hnode).2.2]
  exact keeps_object (keepsReader_reader cfg _ _ _) (fieldReader_reader _ _ _)
    (readObject_of_calm (someReader_reader _ _ _) hparts) (by decide) (by decide) _ _

end Decompile

/-! ## Whole documents -/

namespace Graph

/-- Import and recompile keep every schema of the document where it stands, with every keyword that is
not interpreted and the names of its properties. -/
theorem schemaAt?_compile_of_decompile {document : Value} (hp : document.Proper)
    {cfg : DocumentConfig} (hemit : cfg.emitUnreferenced = true) {s : IdSupply}
    {read : Imported × IdSupply} (h : (decompile document cfg).run s = .ok read) :
    ∃ c, read.1.graph.compile cfg = .ok c ∧
      ∀ definition path f, document.schemaAt? definition path = some (.obj f) →
        ∃ f', c.document.schemaAt? definition path = some (.obj f') ∧ SameRest f f' := by
  obtain ⟨d, keep, c, hd, hout, hkeep, hcompile, hdocument⟩ := compile_of_decompile hp h
  refine ⟨c, hcompile, fun definition path f hf => ?_⟩
  obtain ⟨members, rfl, hcalm, hvalue⟩ := calm_of_outlineOf hout
  obtain rfl : d = (Decompile.outline cfg.tupleItems members).value := hvalue
  rw [hdocument, DocumentOutline.written_eq]
  cases definition with
  | none =>
    have hroot := Decompile.keeps_root cfg hcalm
    rw [DocumentOutline.Readable.written_root, ← DocumentOutline.Readable.rootMembers_eq] at hroot
    refine hroot.congr (fun k hk => ?_) path f hf
    refine DocumentOutline.find?_members fun hdefinitions => ?_
    subst hdefinitions
    revert hk
    decide
  | some name =>
    obtain ⟨_, table, v, hobj, htable, hfind, hbelow⟩ := schemaAt?_definition.1 hf
    obtain rfl := Value.obj.inj hobj
    have hall : KeepsAll table ((Decompile.outline cfg.tupleItems members).value.table cfg keep) :=
      Decompile.keepsAll_definitions htable hcalm fun e he => (hkeep _).2 (.all hemit he)
    obtain ⟨w, hw, hkeeps⟩ := hall.find? hfind
    obtain ⟨f', hf', hrest⟩ := hkeeps path f hbelow
    refine ⟨f', schemaAt?_definition.2 ⟨_, _, w, rfl, ?_, hw, hf'⟩, hrest⟩
    have hwritten := @DocumentOutline.find?_members_table cfg keep _ (hd.readable.find?_table cfg)
    rw [if_neg] at hwritten
    · exact hwritten
    · intro hempty
      rw [List.isEmpty_iff.1 hempty] at hw
      simp at hw

/-- A keyword of a number, and one that is not known, in the items of a definition that nothing points
at. -/
theorem schemaAt?_compile_items :
    ∃ read c f',
      (decompile (.obj [("definitions", .obj [("t", .obj [("type", .str "array"),
        ("items", .obj [("type", .list [.str "null", .str "integer"]), ("maximum", .int 3),
          ("x", .bool true)])])])]) {}).run {} = .ok read ∧
      read.1.graph.compile {} = .ok c ∧
      c.document.schemaAt? (some "t") [.items] = some (.obj f') ∧
      SameRest [("type", .list [.str "null", .str "integer"]), ("maximum", .int 3),
        ("x", .bool true)] f' := by
  have hproper : (Value.obj [("definitions", .obj [("t", .obj [("type", .str "array"),
      ("items", .obj [("type", .list [.str "null", .str "integer"]), ("maximum", .int 3),
        ("x", .bool true)])])])]).Proper := Value.proper_of_everywhere (by decide)
  obtain ⟨c, hcompile, hkept⟩ := schemaAt?_compile_of_decompile hproper
    (rfl : ({} : DocumentConfig).emitUnreferenced = true) (rfl : (decompile _ {}).run {} = .ok _)
  obtain ⟨f', hf', hrest⟩ := hkept (some "t") [.items] _ rfl
  exact ⟨_, c, f', rfl, hcompile, hf', hrest⟩

end Graph

end FormGraph

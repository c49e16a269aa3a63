import FormGraph.Proofs.Reading.Accounts
import FormGraph.Proofs.Reread.ReadOnce
import FormGraph.Proofs.Reread.Document

/-!
# What was read once can be read back, whole schemas

Of an object, a keyword among the extras was not consumed, so that the account of the keywords of its
children tells what it is; of any other node that declares its type, the keywords that are read are
consumed. With groups and pointers this gives that everything that is read calmly of a proper schema
can be read back (`readable_reader`), and so can a whole document (`readable_outline`).
-/

namespace FormGraph

open Noted

namespace Decompile

open Outline

variable {below : Reader} {names : List String} {schema : Members} {path : String}

/-! ## Pointers -/

theorem readable_pointing {inner : Inner} (hp : (Value.obj schema).Proper)
    (hc : (pointing names inner schema).Calm) :
    (pointing names inner schema).value.Readable names := by
  unfold pointing at hc ⊢
  obtain ⟨htarget, hrest⟩ := calm_bind_iff.1 hc
  have hmem := targetOf_mem htarget
  rw [value_bind]
  generalize (targetOf names (Value.member schema "$ref") inner.path).value = target at hmem hrest ⊢
  have hlabelled : Labelled _ (reserved .reference) := labelled_nodeOf hp (calm_bind_iff.1 hrest).1
    List.nodup_nil (fun k hk => absurd hk List.not_mem_nil) (fun k hk => .inl hk)
    fun k hk => absurd hk List.not_mem_nil
  rw [value_bind]
  exact .mk hlabelled rfl ⟨target, hmem, rfl⟩ fun b hb => absurd hb List.not_mem_nil

/-! ## Nodes that declare their type -/

theorem inferKind_cases (schema : Members) (path : String) :
    (inferKind schema path).value ∈
      [NodeKind.string, .number, .boolean, .enum, .object, .array] := by
  have htype : ∀ {type : String} {kind : NodeKind}, kindOfType? type = some kind →
      kind ∈ [NodeKind.string, .number, .boolean, .enum, .object, .array] := by
    intro type kind h
    unfold kindOfType? at h
    split at h <;> cases h <;> decide
  rw [inferKind_eq]
  split
  · exact List.mem_of_elem_eq_true rfl
  · rw [value_bind]
    generalize (declaredType schema path).value = declared
    unfold kindOfDeclared
    split
    · rw [value_pure]
      split <;> decide
    · split
      · next h => exact htype h
      · exact List.mem_cons_self
    · exact List.mem_cons_self

/-- The keyword `enum` makes an enumeration of a schema. -/
theorem enum_of_inferKind (h : "enum" ∈ Entries.names schema) :
    (inferKind schema path).value = .enum := by
  rw [inferKind_eq, if_pos]
  · rfl
  · rwa [Entries.has, ← Entries.mem_names_iff]

/-- The keywords of a node that declares its type which its extras cannot have are read, or they are
not there. -/
theorem reserved_of_inferKind {kind : NodeKind} (hkind : (inferKind schema path).value = kind)
    (href : Entries.has schema "$ref" = false) {consumed : List String}
    (hrequired : kind = .object → "required" ∈ consumed ∨ "required" ∉ Entries.names schema)
    (hitems : kind = .array → "items" ∈ consumed) :
    ∀ k ∈ reserved kind,
      k ∈ ("type" :: Body.vocabulary kind) ++ consumed ∨ k ∉ Entries.names schema := by
  have hnot : "$ref" ∉ Entries.names schema := by
    rw [Entries.mem_names_iff, ← Entries.has, href]
    exact Bool.false_ne_true
  have henum : kind ≠ .enum → "enum" ∉ Entries.names schema :=
    fun hne h => hne (hkind.symm.trans (enum_of_inferKind h))
  have hmem := inferKind_cases schema path
  rw [hkind] at hmem
  clear hkind
  simp only [List.mem_cons, List.not_mem_nil, or_false] at hmem
  have hown : ∀ k ∈ "type" :: Body.vocabulary kind,
      k ∈ ("type" :: Body.vocabulary kind) ++ consumed ∨ k ∉ Entries.names schema :=
    fun k hk => .inl (List.mem_append_left _ hk)
  intro k hk
  have hcommon : k = "$ref" ∨ k = "enum" ∨ k ∈ "type" :: Body.vocabulary kind ∨
      (kind = .object ∧ k = "required") ∨ (kind = .array ∧ k = "items") := by
    rcases hmem with rfl | rfl | rfl | rfl | rfl | rfl <;>
    · simp only [reserved, List.mem_append, List.mem_cons, List.not_mem_nil, or_false] at hk
      simp only [List.mem_cons, reduceCtorEq, true_and, false_and, or_false, false_or]
      tauto
  rcases hcommon with rfl | rfl | hk | ⟨hobject, rfl⟩ | ⟨harray, rfl⟩
  · exact .inr hnot
  · by_cases h : kind = .enum
    · subst h
      exact hown _ (by decide)
    · exact .inr (henum h)
  · exact hown k hk
  · exact (hrequired hobject).imp_left fun h => List.mem_append_right _ h
  · exact .inl (List.mem_append_right _ (hitems harray))

/-! ## Objects -/

/-- What is kept of a list that was read in part stands under one keyword, which was consumed. -/
theorem ObjectParts.Accounts.names_kept {parts : ObjectParts} (h : parts.Accounts schema) :
    (Entries.names parts.kept).Nodup ∧
      ∀ k ∈ Entries.names parts.kept, k = "allOf" ∧ k ∈ parts.consumed := by
  rcases h.kept with hnil | ⟨hconsumed, _, others, _, heq, _⟩
  · rw [hnil]
    exact ⟨List.nodup_nil, fun k hk => absurd hk List.not_mem_nil⟩
  · rw [heq]
    refine ⟨List.nodup_singleton _, fun k hk => ?_⟩
    obtain rfl := List.mem_singleton.1 hk
    exact ⟨rfl, hconsumed⟩

/-- An extra is what is left of the schema under a keyword that was not read, or it is kept of a list
that was read in part. -/
theorem find?_extras (hp : (Value.obj schema).Proper) {consumed : List String} {kept : Members}
    (hnodup : (Entries.names kept).Nodup) (hkept : ∀ k ∈ Entries.names kept, k ∈ consumed)
    {k : String} {v : Value}
    (h : Entries.find? (Entries.putAll (remaining schema consumed) kept) k = some v) :
    (Entries.find? schema k = some v ∧ k ∉ consumed) ∨ Entries.find? kept k = some v := by
  rw [Entries.putAll_of_disjoint (extras_disjoint hp hnodup hkept), Entries.find?_append,
    Option.or_eq_some_iff] at h
  rcases h with h | ⟨_, h⟩
  · have hmem := Entries.mem_of_find? h
    obtain ⟨hschema, hnot⟩ := List.mem_filter.1 hmem
    refine .inl ⟨Entries.find?_of_mem hp.names hschema, ?_⟩
    simp only [Bool.and_eq_true, Bool.not_eq_true', List.contains_eq_mem,
      decide_eq_false_iff_not] at hnot
    exact hnot.1
  · exact .inr h

/-- An object whose keywords were dealt with can be read back. -/
theorem objectReads_of_accounts (hp : (Value.obj schema).Proper) {parts : ObjectParts}
    (ha : parts.Accounts schema) (hkeys : parts.keys.Nodup) {n : Node Nat} {own : List String}
    (hextras : n.extras = Entries.putAll (remaining schema (own ++ parts.consumed)) parts.kept) :
    ObjectReads n (parts.children.map fun o => (.child, o)) := by
  obtain ⟨hnodup, hkept⟩ := ha.names_kept
  have hextra : ∀ {k : String} {v : Value}, Entries.find? n.extras k = some v →
      (Entries.find? schema k = some v ∧ k ∉ parts.consumed) ∨
        Entries.find? parts.kept k = some v := by
    intro k v h
    rw [hextras] at h
    refine (find?_extras hp hnodup (fun k hk => List.mem_append_right _ (hkept k hk).2) h).imp_left ?_
    exact fun h => ⟨h.1, fun hc => h.2 (List.mem_append_right _ hc)⟩
  have hleft : ∀ {k : String} {v : Value}, k ≠ "allOf" → Entries.find? n.extras k = some v →
      Entries.find? schema k = some v ∧ k ∉ parts.consumed := by
    intro k v hk h
    refine (hextra h).resolve_right fun h => hk (hkept k ?_).1
    rw [Entries.mem_names_iff, h]
    rfl
  refine ⟨fun b hb => ?_, ?_, fun v hv => ?_, fun test htest => ?_, fun items hitems => ?_,
    fun kind hkind v hv => ?_⟩
  · obtain ⟨o, _, rfl⟩ := List.mem_map.1 hb
    rfl
  · rw [List.filter_map, List.map_map]
    exact hkeys.sublist (List.filter_sublist.map _)
  · obtain ⟨hfind, hnot⟩ := hleft (by decide) hv
    obtain ⟨hnull, hgroups⟩ := (ha.properties v hfind).resolve_left hnot
    refine ⟨hnull, fun b hb => ?_⟩
    obtain ⟨o, ho, rfl⟩ := List.mem_map.1 hb
    exact hgroups o ho
  · obtain ⟨hfind, hnot⟩ := hleft (by decide) htest
    exact (ha.block test hfind).resolve_left hnot
  · rcases hextra hitems with ⟨hfind, hnot⟩ | hfind
    · exact absurd (ha.allOf items hfind) hnot
    · rcases ha.kept with hnil | ⟨_, _, others, _, heq, hne, hothers⟩
      · rw [hnil] at hfind
        cases hfind
      · rw [heq, Entries.find?_cons, if_pos rfl] at hfind
        obtain rfl := Value.list.inj (Option.some.inj hfind)
        exact ⟨hne, fun v hv => (hothers v hv).2⟩
  · obtain ⟨hfind, hnot⟩ := hleft (by clear hv; revert kind; decide) hv
    exact (ha.lists kind hkind v hfind).resolve_left hnot

/-- What is read for a node that declares its type: the keywords of an object's children are dealt
with, and of any other node none is read in part. -/
theorem accounts_partsOf {tupleItems : TupleItems} {kind : NodeKind}
    (hc : (partsOf below tupleItems kind schema path).Calm) :
    (kind = .object → (partsOf below tupleItems kind schema path).value.Accounts schema) ∧
      (kind ≠ .object → (partsOf below tupleItems kind schema path).value.kept = []) ∧
      (kind = .array → "items" ∈ (partsOf below tupleItems kind schema path).value.consumed) := by
  cases kind with
  | object => exact ⟨fun _ => accounts_objectParts hc, fun h => absurd rfl h, fun h => (by cases h)⟩
  | array => exact ⟨fun h => (by cases h), fun _ => rfl, fun _ => List.mem_singleton_self _⟩
  | string | number | boolean | enum | group _ | definition | reference =>
    exact ⟨fun h => (by cases h), fun _ => rfl, fun h => (by cases h)⟩

/-- The item of an array is bare. -/
theorem bare_partsOf (hbare : BareReader below) {tupleItems : TupleItems} :
    ∀ o ∈ (partsOf below tupleItems .array schema path).value.children, o.Bare := by
  intro o ho
  have hitem : (arrayItem below tupleItems schema path).value = some o := Option.mem_toList.1 ho
  unfold arrayItem at hitem
  cases hfind : Entries.find? schema "items" with
  | none => simp [hfind] at hitem
  | some items =>
    rw [hfind] at hitem
    simp only [value_bind] at hitem
    split at hitem
    · simp at hitem
    · exact hbare _ o hitem
    · simp at hitem

theorem readable_typed (hb : ReadsOnly (Outline.Readable names) below)
    (hg : GroupsOnly (Outline.Readable names) below) (hf : FieldReader below)
    (hbare : BareReader below) {tupleItems : TupleItems} {inner : Inner}
    (hp : (Value.obj schema).Proper) (hc : (typed below tupleItems inner schema).Calm)
    (href : Entries.has schema "$ref" = false) :
    (typed below tupleItems inner schema).value.Readable names := by
  rw [typed_eq, calm_bind_iff] at hc
  rw [typed_eq, value_bind]
  generalize hkind : (inferKind schema inner.path).value = kind at hc ⊢
  simp only [calm_bind_iff] at hc
  obtain ⟨_, hattributes, hparts, hnode, _⟩ := hc
  have hchildren := partsOf_holds hb hg hp hparts
  have hkeys := keys_partsOf hf tupleItems kind hp inner.path
  obtain ⟨hobject, hrest, hitems⟩ := accounts_partsOf hparts
  have hitem : kind = .array →
      ∀ o ∈ (partsOf below tupleItems kind schema inner.path).value.children, o.Bare := by
    rintro rfl
    exact bare_partsOf hbare
  simp only [value_bind, value_pure]
  generalize (partsOf below tupleItems kind schema inner.path).value = parts
    at hchildren hkeys hobject hrest hitems hitem hnode ⊢
  have hkept : (Entries.names parts.kept).Nodup ∧
      ∀ k ∈ Entries.names parts.kept, k = "allOf" ∧ k ∈ parts.consumed ∧ kind = .object := by
    by_cases h : kind = .object
    · exact (hobject h).names_kept.imp id fun hall k hk => ⟨(hall k hk).1, (hall k hk).2, h⟩
    · rw [hrest h]
      exact ⟨List.nodup_nil, fun k hk => absurd hk List.not_mem_nil⟩
  have hread : ∀ k ∈ reserved kind,
      k ∈ ("type" :: Body.vocabulary kind) ++ parts.consumed ∨ k ∉ Entries.names schema :=
    reserved_of_inferKind hkind href
      (fun h => or_iff_not_imp_right.2 fun hn => (hobject h).required (not_not.1 hn)) hitems
  have hlabelled := labelled_nodeOf hp hnode hkept.1
    (fun k hk => List.mem_append_right _ (hkept.2 k hk).2.1) hread fun k hk => by
      obtain ⟨rfl, _, rfl⟩ := hkept.2 k hk
      decide
  have htypes := attributeTypes_of_calm hattributes
  have hextras := extras_nodeOf inner.key (Body.ofFragment kind schema) schema
    (("type" :: Body.vocabulary kind) ++ parts.consumed) parts.kept inner.required inner.path
  have hbody := body_nodeOf inner.key (Body.ofFragment kind schema) schema
    (("type" :: Body.vocabulary kind) ++ parts.consumed) parts.kept inner.required inner.path
  generalize (nodeOf inner.key (Body.ofFragment kind schema) schema
    (("type" :: Body.vocabulary kind) ++ parts.consumed) parts.kept inner.required inner.path).value
    = n at hlabelled hextras hbody ⊢
  have hnkind : n.kind = kind := by rw [Node.kind, hbody, Body.kind_ofFragment]
  refine .mk (hnkind ▸ hlabelled) (hbody ▸ htypes) ?_ fun b hmem => ?_
  · have hmem := inferKind_cases schema inner.path
    rw [hkind, ← hnkind] at hmem
    unfold OwnReads
    cases hb : n.body with
    | object own =>
      refine objectReads_of_accounts hp (hobject ?_) hkeys hextras
      rw [← hnkind, Node.kind, hb]
      rfl
    | array own =>
      intro b hmem
      obtain ⟨o, ho, rfl⟩ := List.mem_map.1 hmem
      exact hitem (by rw [← hnkind, Node.kind, hb]; rfl) o ho
    | string _ | number _ | boolean | enum _ => trivial
    | group _ _ | definition _ | reference _ =>
      rw [Node.kind, hb] at hmem
      simp [Body.kind] at hmem
  · obtain ⟨o, ho, rfl⟩ := List.mem_map.1 hmem
    exact hchildren o ho

/-- Everything that is read calmly of a proper schema can be read back. -/
theorem readable_reader (tupleItems : TupleItems) (names : List String) (depth : Nat) :
    ReadsOnly (Outline.Readable names) (reader tupleItems names depth) := by
  induction depth with
  | zero => exact fun inner o _ _ h => by simp [reader] at h
  | succ depth ih =>
    have hbare := bareReader_reader tupleItems names depth
    have hg := readable_group ih (fits_reader tupleItems names depth) hbare
    exact schema_holds hg (fun _ _ hc hp => readable_pointing hp hc)
      fun _ _ hc hp href => readable_typed ih hg (fieldReader_reader tupleItems names depth) hbare hp
        hc href

/-! ## Whole documents -/

/-- A document that is read calmly can be read back. -/
theorem readable_outline (tupleItems : TupleItems) {document : Members}
    (hp : (Value.obj document).Proper) (hc : (outline tupleItems document).Calm) :
    (outline tupleItems document).value.Readable := by
  have hb := readable_reader tupleItems (Entries.names (definitionTable document).value)
    (Value.obj document).depth
  have hbare := bareReader_reader tupleItems (Entries.names (definitionTable document).value)
    (Value.obj document).depth
  have hfits := fits_reader tupleItems (Entries.names (definitionTable document).value)
    (Value.obj document).depth
  have hfield := fieldReader_reader tupleItems (Entries.names (definitionTable document).value)
    (Value.obj document).depth
  have hboth : ReadsOnly (fun o => o.Readable _ ∧ o.Bare) _ :=
    fun inner o hproper hcalm ho => ⟨hb inner o hproper hcalm ho, hbare inner o ho⟩
  have hcontents := contents_hold hp hc hboth
  rw [← names_outline] at hcontents
  have hroot : (outline tupleItems document).value.root.node.kind = .object ∧
      Labelled (outline tupleItems document).value.root.node (rootKeywords ++ ["required"]) ∧
      ObjectReads (outline tupleItems document).value.root.node
        (outline tupleItems document).value.root.hanging ∧
      ∀ b ∈ (outline tupleItems document).value.root.hanging,
        b.2.Readable (Entries.names (definitionTable document).value) := by
    rw [outline_eq] at hc ⊢
    simp only [value_bind, value_pure, calm_bind_iff] at hc ⊢
    obtain ⟨_, _, _, hparts, hnode, _⟩ := hc
    have hchildren := objectParts_holds hb (readable_group hb hfits hbare) hp hparts
    have hkeys := keys_objectParts hfield hp "#"
    have haccounts := accounts_objectParts hparts
    generalize (objectParts _ document "#").value = parts at hchildren hkeys haccounts hnode ⊢
    obtain ⟨hnodup, hkept⟩ := haccounts.names_kept
    refine ⟨Body.kind_ofFragment .object document, ?_,
      objectReads_of_accounts hp haccounts hkeys (extras_nodeOf ..), fun b hmem => ?_⟩
    · refine labelled_nodeOf hp hnode hnodup
        (fun k hk => List.mem_append_right _ (hkept k hk).2) (fun k hk => ?_) fun k hk => ?_
      · rcases List.mem_append.1 hk with hk | hk
        · exact .inl (List.mem_append_left _ hk)
        · obtain rfl := List.mem_singleton.1 hk
          by_cases hmem : "required" ∈ Entries.names document
          · exact .inl (List.mem_append_right _ (haccounts.required hmem))
          · exact .inr hmem
      · rw [(hkept k hk).1]
        decide
    · obtain ⟨o, ho, rfl⟩ := List.mem_map.1 hmem
      exact hchildren o ho
  rw [← names_outline] at hroot
  exact ⟨hroot.1, hroot.2.1, hroot.2.2.1, hroot.2.2.2, hcontents⟩

end Decompile

end FormGraph

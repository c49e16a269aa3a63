import FormGraph.Proofs.Identifiers.Key
import FormGraph.Proofs.Inside
import FormGraph.Proofs.Names
import FormGraph.Proofs.Reading.Calm
import FormGraph.Proofs.Reading.Fits

/-!
# What holds of everything that is read

A property of outlines holds of everything that is read calmly of a proper schema when it holds of
every group, of every pointer and of every other node, given that it holds of what hangs below them.
What lies between, the way from a schema to the schemas that are read within it, is gone through here
once for all such properties.

Whatever is read, a field has the key that it stands under, and children have different keys.
-/

namespace FormGraph

namespace Decompile

open Reading

variable {below : Reader} {P : Outline → Prop}

/-- The property holds of everything that is read calmly of a proper schema. -/
def ReadsOnly (P : Outline → Prop) (below : Reader) : Prop :=
  ∀ inner o, inner.schema.Proper → (below inner).Calm → (below inner).value = some o → P o

/-- The property holds of every group that is read calmly of a proper schema of the form of a
group. -/
def GroupsOnly (P : Outline → Prop) (below : Reader) : Prop :=
  ∀ kind schema taken path, (Value.obj schema).Proper → groupKind? (.obj schema) = some kind →
    (group below kind schema taken path).Calm → P (group below kind schema taken path).value

/-! ## What hangs below a group -/

theorem proper_branchInner {schema : Members} (hp : (Value.obj schema).Proper) (kind : EdgeKind)
    (path : String) : (branchInner schema kind path).schema.Proper := by
  unfold branchInner
  dsimp only
  split
  · split
    · next key sub hprops =>
      split
      · have hsub := hp.member "properties"
        rw [hprops] at hsub
        have hfind : Entries.find? [(key, sub)] key = some sub := by simp
        exact hsub.of_find? hfind
      · exact hp
    · exact hp
  · exact hp

theorem branch_holds (hb : ReadsOnly P below) {schema : Value} (hp : schema.Proper)
    {kind : EdgeKind} {path : String} {o : Outline} (hc : (branch below schema kind path).Calm)
    (h : (branch below schema kind path).value = some o) : P o := by
  cases schema with
  | obj members => exact hb _ o (proper_branchInner hp kind path) hc h
  | null | bool _ | int _ | float _ | str _ | list _ => simp [branch] at h

/-- What has been read of a group are branches of which the property holds. -/
def GroupParts.Only (P : Outline → Prop) (parts : GroupParts) : Prop :=
  ∀ b ∈ parts.below, b.1.isBranch = true ∧ P b.2

theorem GroupParts.only_empty : ({} : GroupParts).Only P := fun _ hb => by simp at hb

theorem GroupParts.Only.hang {parts : GroupParts} (h : parts.Only P) {kind : EdgeKind}
    (hk : kind.isBranch = true) {o : Option Outline} (ho : ∀ x, o = some x → P x) :
    (parts.hang kind o).1.Only P := by
  cases o with
  | none => exact h
  | some x =>
    intro b hb
    rcases List.mem_append.1 hb with hb | hb
    · exact h b hb
    · rw [List.mem_singleton] at hb
      subst hb
      exact ⟨hk, ho x rfl⟩

theorem clauses_sharedBranch (below : Reader) (kind : EdgeKind) (path : String)
    (schema : Option Value) (parts : GroupParts) :
    (sharedBranch below kind path schema parts).value.1.clauses = parts.clauses := by
  cases schema with
  | none => rfl
  | some schema =>
    unfold sharedBranch
    dsimp only
    cases parts.seen.find? fun s => s.1 = (kind, schema.canonicalJson) with
    | some s => rfl
    | none =>
      show ((parts.hang kind (branch below schema kind path).value).1.clauses) = parts.clauses
      cases (branch below schema kind path).value <;> rfl

theorem sharedBranch_holds (hb : ReadsOnly P below) {parts : GroupParts} (h : parts.Only P)
    {kind : EdgeKind} (hk : kind.isBranch = true) {path : String} {schema : Option Value}
    (hp : ∀ v, schema = some v → v.Proper) (hc : (sharedBranch below kind path schema parts).Calm) :
    (sharedBranch below kind path schema parts).value.1.Only P := by
  cases schema with
  | none => exact h
  | some schema =>
    unfold sharedBranch at hc ⊢
    dsimp only at hc ⊢
    cases hfind : parts.seen.find? fun s => s.1 = (kind, schema.canonicalJson) with
    | some s => exact h
    | none =>
      simp only [hfind] at hc
      have hread := (Noted.calm_bind_iff.1 hc).1
      exact h.hang hk fun x hx => branch_holds hb (hp schema rfl) hread hx

theorem clauseOf_holds (hb : ReadsOnly P below) {kind : GroupKind} {path : String}
    {parts : GroupParts} (h : parts.Only P) {entry : Members} (hp : (Value.obj entry).Proper)
    (hc : (clauseOf below kind path parts entry).Calm) :
    (clauseOf below kind path parts entry).value.Only P := by
  unfold clauseOf at hc ⊢
  simp only [Noted.value_bind, Noted.calm_bind_iff] at hc ⊢
  obtain ⟨_, _, hthen, helse, _⟩ := hc
  have h₁ := sharedBranch_holds hb h rfl (fun v hv => hp.of_find? hv) hthen
  generalize sharedBranch below .thenBranch (path ++ "/then") (Entries.find? entry "then") parts =
    first at h₁ helse ⊢
  obtain ⟨⟨next, i⟩, _⟩ := first
  dsimp only at h₁ helse ⊢
  have h₂ := sharedBranch_holds hb h₁ rfl (fun v hv => by
    split at hv
    · cases hv
    · exact hp.of_find? hv) helse
  generalize sharedBranch below .elseBranch (path ++ "/else") _ next = second at h₂ ⊢
  obtain ⟨⟨last, j⟩, _⟩ := second
  dsimp only at h₂ ⊢
  split
  · exact h₂
  · exact h₂

theorem clausesOf_holds (hb : ReadsOnly P below) {kind : GroupKind} {entries : List Value}
    {path : String} (hp : ∀ v ∈ entries, v.Proper)
    (hc : (clausesOf below kind entries path).Calm) :
    (clausesOf below kind entries path).value.Only P := by
  rw [clausesOf_eq] at hc ⊢
  refine Noted.foldlM_keeps (P := GroupParts.Only P) (fun parts p hmem h hcalm => ?_)
    GroupParts.only_empty hc
  obtain ⟨v, i⟩ := p
  have hv := hp v (List.fst_mem_of_mem_zipIdx hmem)
  cases v with
  | obj entry => exact clauseOf_holds hb h hv hcalm
  | null | bool _ | int _ | float _ | str _ | list _ => exact h

theorem blockBranch_holds (hb : ReadsOnly P below) {block : Members} {keyword : String}
    {kind : EdgeKind} {path : String} (hp : (Value.obj block).Proper)
    (hc : (blockBranch below block keyword kind path).Calm) {o : Outline}
    (h : (blockBranch below block keyword kind path).value = some o) : P o := by
  unfold blockBranch at hc h
  cases hfind : Entries.find? block keyword with
  | none => simp [hfind] at h
  | some schema =>
    simp only [hfind] at hc h
    exact branch_holds hb (hp.of_find? hfind) hc h

theorem blockOf_holds (hb : ReadsOnly P below) {block : Members} {path : String}
    (hp : (Value.obj block).Proper) (hc : (blockOf below block path).Calm) :
    (blockOf below block path).value.Only P := by
  rw [blockOf_eq] at hc ⊢
  simp only [Noted.value_bind, Noted.calm_bind_iff] at hc ⊢
  obtain ⟨_, hthen, helse, _⟩ := hc
  exact (GroupParts.only_empty.hang rfl fun x hx => blockBranch_holds hb hp hthen hx).hang rfl
    fun x hx => blockBranch_holds hb hp helse hx

/-- The property holds of what hangs below a group. -/
theorem groupParts_holds (hb : ReadsOnly P below) {kind : GroupKind} {schema : Members}
    {path : String} (hp : (Value.obj schema).Proper)
    (hc : (groupParts below kind schema path).Calm) :
    (groupParts below kind schema path).value.Only P := by
  cases kind with
  | ifBlock => exact blockOf_holds hb hp hc
  | allOf | anyOf | oneOf => exact clausesOf_holds hb (hp.entries _) hc

/-! ## What hangs below an object or an array -/

theorem childGroup_holds (hg : GroupsOnly P below) {parts : ObjectParts}
    (h : ∀ o ∈ parts.children, P o) {kind : GroupKind} {schema : Members} {path : String}
    {consumed : List String} (hp : (Value.obj schema).Proper)
    (hkind : groupKind? (.obj schema) = some kind)
    (hc : (childGroup below kind schema path consumed parts).Calm) :
    ∀ o ∈ (childGroup below kind schema path consumed parts).value.children, P o := by
  unfold childGroup at hc ⊢
  intro o ho
  rcases List.mem_append.1 ho with ho | ho
  · exact h o ho
  · rw [List.mem_singleton.1 ho]
    exact hg kind schema _ path hp hkind (Noted.calm_bind_iff.1 hc).1

/-- The members of an object that stand under some keywords, in the order of the keywords. -/
theorem proper_picked {schema : Members} (hp : (Value.obj schema).Proper) {keywords : List String}
    (hn : keywords.Nodup) : (Value.obj (keywords.filterMap fun k =>
      (Entries.find? schema k).map fun v => (k, v))).Proper := by
  refine .obj ?_ fun m hm => ?_
  · refine hn.sublist ?_
    clear hn
    induction keywords with
    | nil => exact List.Sublist.refl _
    | cons k ks ih =>
      cases hfind : Entries.find? schema k with
      | none =>
        rw [List.filterMap_cons_none (by rw [hfind]; rfl)]
        exact ih.cons k
      | some v =>
        rw [List.filterMap_cons_some (b := (k, v)) (by rw [hfind]; rfl)]
        exact ih.cons_cons k
  · obtain ⟨k, _, hk⟩ := List.mem_filterMap.1 hm
    obtain ⟨v, hv, rfl⟩ := Option.map_eq_some_iff.1 hk
    exact hp.of_find? hv

theorem ownBlock_holds (hg : GroupsOnly P below) {parts : ObjectParts}
    (h : ∀ o ∈ parts.children, P o) {schema : Members} {path : String}
    (hp : (Value.obj schema).Proper) (hc : (ownBlock below schema path parts).Calm) :
    ∀ o ∈ (ownBlock below schema path parts).value.children, P o := by
  unfold ownBlock at hc ⊢
  split
  · next hif =>
    rw [if_pos hif] at hc
    dsimp only at hc ⊢
    split
    · next hkind =>
      rw [if_pos hkind] at hc
      exact childGroup_holds hg h (proper_picked hp (by decide)) hkind hc
    · exact h
  · exact h

/-- A list that stands alone is read as a group of its kind, if it is read as one. -/
theorem groupKind?_lone {kind : GroupKind} (hk : kind ∈ listGroups) {entries : Value}
    (h : (groupKind? (.obj [(kind.name, entries)])).isSome = true) :
    groupKind? (.obj [(kind.name, entries)]) = some kind := by
  have hkind : Entries.find? [(kind.name, entries)] "if" = none ∧
      (listGroups.filter fun k => Entries.has [(kind.name, entries)] k.name) = [kind] := by
    clear h
    revert kind
    simp [listGroups, Entries.has, GroupKind.name]
  unfold groupKind? at h ⊢
  dsimp only at h ⊢
  rw [hkind.1] at h ⊢
  dsimp only at h ⊢
  rw [hkind.2] at h ⊢
  dsimp only at h ⊢
  split at h
  · cases h
  · next hnone =>
    rw [if_neg hnone]
    split at h
    · split at h
      · next hall => rw [if_pos hall]
      · cases h
    · cases h

theorem ownListGroup_holds (hg : GroupsOnly P below) {parts : ObjectParts}
    (h : ∀ o ∈ parts.children, P o) {schema : Members} {path : String} {kind : GroupKind}
    (hk : kind ∈ listGroups) (hp : (Value.obj schema).Proper)
    (hc : (ownListGroup below schema path parts kind).Calm) :
    ∀ o ∈ (ownListGroup below schema path parts kind).value.children, P o := by
  unfold ownListGroup at hc ⊢
  cases hfind : Entries.find? schema kind.name with
  | none => exact h
  | some entries =>
    simp only [hfind] at hc ⊢
    have hlone : (Value.obj [(kind.name, entries)]).Proper := by
      refine .obj (List.nodup_singleton _) fun m hm => ?_
      rw [List.mem_singleton.1 hm]
      exact hp.of_find? hfind
    split
    · next hsome =>
      rw [if_pos hsome] at hc
      exact childGroup_holds hg h hlone (groupKind?_lone hk hsome) hc
    · exact h

theorem ownAllOf_holds (hg : GroupsOnly P below) {parts : ObjectParts}
    (h : ∀ o ∈ parts.children, P o) {schema : Members} {path : String}
    (hp : (Value.obj schema).Proper) (hc : (ownAllOf below schema path parts).Calm) :
    ∀ o ∈ (ownAllOf below schema path parts).value.children, P o := by
  rw [ownAllOf_eq] at hc ⊢
  cases hmember : Value.member schema "allOf" with
  | list items =>
    simp only [hmember] at hc ⊢
    have hitems := hp.member "allOf"
    rw [hmember] at hitems
    have hall : ∀ o ∈ (items.zipIdx.foldlM (allOfEntry below path)
        ({ parts with consumed := parts.consumed ++ ["allOf"] }, [])).value.1.children, P o := by
      refine Noted.foldlM_keeps
        (P := fun acc : ObjectParts × List Value => ∀ o ∈ acc.1.children, P o)
        (fun acc p hmem hacc hcalm => ?_) h (Noted.calm_bind_iff.1 hc).1
      have hproper := hitems.items _ (List.fst_mem_of_mem_zipIdx hmem)
      unfold allOfEntry at hcalm ⊢
      split
      · next members kind hobj hkind =>
        rw [hobj] at hproper hkind
        simp only [hobj, hkind] at hcalm
        exact childGroup_holds hg hacc hproper hkind (Noted.calm_bind_iff.1 hcalm).1
      · exact hacc
    rw [Noted.value_bind, keepOthers]
    split
    · exact hall
    · exact hall
  | null | bool _ | int _ | float _ | str _ | obj _ => exact h

/-- The property holds of the children of an object. -/
theorem objectParts_holds (hb : ReadsOnly P below) (hg : GroupsOnly P below) {schema : Members}
    {path : String} (hp : (Value.obj schema).Proper) (hc : (objectParts below schema path).Calm) :
    ∀ o ∈ (objectParts below schema path).value.children, P o := by
  unfold objectParts at hc ⊢
  simp only [Noted.value_bind, Noted.calm_bind_iff] at hc ⊢
  obtain ⟨_, _, hfields, _, hblock, hallOf, hanyOf, honeOf⟩ := hc
  have hmembers : ∀ p ∈ (propertiesOf schema path).value.1, p.2.Proper := by
    have hmember := hp.member "properties"
    unfold propertiesOf
    split
    · exact fun _ hp => absurd hp List.not_mem_nil
    · next properties heq =>
      rw [heq] at hmember
      exact fun _ => hmember.of_mem
    · exact fun _ hp => absurd hp List.not_mem_nil
  generalize (requiredOf schema path).value = req at hfields hblock hallOf hanyOf honeOf ⊢
  generalize (propertiesOf schema path).value = read
    at hmembers hfields hblock hallOf hanyOf honeOf ⊢
  refine ownListGroup_holds hg (ownListGroup_holds hg (ownAllOf_holds hg (ownBlock_holds hg ?_
    hp hblock) hp hallOf) (by decide) hp hanyOf) (by decide) hp honeOf
  intro o ho
  obtain ⟨x, hx, heq⟩ := List.mem_filterMap.1 ho
  rw [Noted.value_mapM] at hx
  obtain ⟨p, hmem, rfl⟩ := List.mem_map.1 hx
  have hcalm := Noted.calm_mapM_iff.1 hfields p hmem
  unfold property at hcalm heq
  exact hb _ o (hmembers p hmem) (Noted.calm_bind_iff.1 hcalm).2 heq

theorem arrayItem_holds (hb : ReadsOnly P below) {tupleItems : TupleItems} {schema : Members}
    {path : String} {o : Outline} (hp : (Value.obj schema).Proper)
    (hc : (arrayItem below tupleItems schema path).Calm)
    (h : (arrayItem below tupleItems schema path).value = some o) : P o := by
  unfold arrayItem at h hc
  cases hfind : Entries.find? schema "items" with
  | none => simp [hfind] at h
  | some items =>
    have hitems := hp.of_find? hfind
    have hread : ∀ v, (itemSchema tupleItems items (path ++ "/items")).value = some v →
        v.Proper := by
      intro v hv
      unfold itemSchema at hv
      split at hv
      · split at hv
        · simp at hv
        · next schemas _ =>
          simp only [Noted.value_bind, Noted.value_pure] at hv
          exact hitems.items v (List.mem_of_mem_head? hv)
      · cases hv
        exact hitems
    simp only [hfind, Noted.value_bind, Noted.calm_bind_iff] at h hc
    generalize (itemSchema tupleItems items (path ++ "/items")).value = item at h hc hread
    cases item with
    | none => simp at h
    | some v =>
      cases v with
      | obj members => exact hb _ o (hread _ rfl) hc.2 h
      | null | bool _ | int _ | float _ | str _ | list _ => simp at h

/-- The property holds of the children of any node. -/
theorem partsOf_holds (hb : ReadsOnly P below) (hg : GroupsOnly P below) {tupleItems : TupleItems}
    {kind : NodeKind} {schema : Members} {path : String} (hp : (Value.obj schema).Proper)
    (hc : (partsOf below tupleItems kind schema path).Calm) :
    ∀ o ∈ (partsOf below tupleItems kind schema path).value.children, P o := by
  cases kind with
  | object => exact objectParts_holds hb hg hp hc
  | array =>
    intro o ho
    refine arrayItem_holds hb hp (Noted.calm_bind_iff.1 hc).1 ?_
    exact Option.mem_toList.1 ho
  | string | number | boolean | enum | group _ | definition | reference =>
    exact fun o ho => absurd ho List.not_mem_nil

/-! ## Keys -/

/-- A field that is read has the key that it stands under, and is no group. -/
def FieldReader (below : Reader) : Prop :=
  ∀ inner o, (below inner).value = some o → inner.role = .field →
    o.node.key = inner.key ∧ o.node.kind.isGroup = false

theorem key_group (below : Reader) (kind : GroupKind) (schema : Members) (taken : List String)
    (path : String) :
    (group below kind schema taken path).value.node.key = groupKey kind schema taken := by
  rw [group_eq]
  rfl

theorem inferKind_isGroup (schema : Members) (path : String) :
    (inferKind schema path).value.isGroup = false := by
  rw [inferKind_eq]
  split
  · rfl
  · rw [Noted.value_bind]
    generalize (declaredType schema path).value = declared
    unfold kindOfDeclared
    split
    · rw [Noted.value_pure]
      split <;> rfl
    · split
      · next h =>
        rw [Noted.value_pure]
        unfold kindOfType? at h
        split at h <;> cases h <;> rfl
      · rfl
    · rfl

theorem typed_value (below : Reader) (tupleItems : TupleItems) (inner : Inner) (schema : Members) :
    (typed below tupleItems inner schema).value.node.key = inner.key ∧
      (typed below tupleItems inner schema).value.node.kind =
        (inferKind schema inner.path).value := by
  rw [typed_eq]
  refine ⟨rfl, ?_⟩
  simp only [Noted.value_bind]
  exact (congrArg Body.kind (body_nodeOf ..)).trans (Body.kind_ofFragment ..)

theorem fieldReader_schema (below : Reader) (tupleItems : TupleItems) (names : List String) :
    FieldReader (schema below tupleItems names) := by
  intro inner o h hrole
  unfold schema at h
  split at h
  · next members _ =>
    rw [hrole, if_neg (by decide)] at h
    dsimp only at h
    by_cases href : Entries.has members "$ref" = true
    · rw [if_pos href] at h
      obtain rfl := Option.some.inj h
      exact ⟨rfl, rfl⟩
    · rw [if_neg href] at h
      obtain rfl := Option.some.inj h
      obtain ⟨hkey, hkind⟩ := typed_value below tupleItems inner members
      exact ⟨hkey, by rw [hkind]; exact inferKind_isGroup _ _⟩
  · simp at h

theorem fieldReader_reader (tupleItems : TupleItems) (names : List String) (depth : Nat) :
    FieldReader (reader tupleItems names depth) := by
  cases depth with
  | zero => exact fun _ _ h => by simp [reader] at h
  | succ depth => exact fieldReader_schema _ tupleItems names

theorem keys_childGroup {parts : ObjectParts} (h : parts.keys.Nodup) (kind : GroupKind)
    (schema : Members) (path : String) (consumed : List String) :
    (childGroup below kind schema path consumed parts).value.keys.Nodup := by
  have hfree : (group below kind schema parts.keys path).value.node.key ∉ parts.keys := by
    rw [key_group]
    exact Key.unique_not_mem _ _
  show ((parts.children ++ [_]).map fun o : Outline => o.node.key).Nodup
  rw [List.map_append, List.map_singleton]
  exact List.nodup_append.2 ⟨h, List.nodup_singleton _, fun a ha b hb heq =>
    hfree (List.mem_singleton.1 hb ▸ heq ▸ ha)⟩

theorem keys_ownBlock {parts : ObjectParts} (h : parts.keys.Nodup) (schema : Members)
    (path : String) : (ownBlock below schema path parts).value.keys.Nodup := by
  unfold ownBlock
  split
  · dsimp only
    split
    · exact keys_childGroup h _ _ _ _
    · exact h
  · exact h

theorem keys_ownListGroup {parts : ObjectParts} (h : parts.keys.Nodup) (schema : Members)
    (path : String) (kind : GroupKind) :
    (ownListGroup below schema path parts kind).value.keys.Nodup := by
  unfold ownListGroup
  split
  · exact h
  · dsimp only
    split
    · exact keys_childGroup h _ _ _ _
    · exact h

theorem keys_ownAllOf {parts : ObjectParts} (h : parts.keys.Nodup) (schema : Members)
    (path : String) : (ownAllOf below schema path parts).value.keys.Nodup := by
  rw [ownAllOf_eq]
  split
  · next items _ =>
    have hall : ∀ (entries : List (Value × Nat)) (acc : ObjectParts × List Value),
        acc.1.keys.Nodup → (entries.foldlM (allOfEntry below path) acc).value.1.keys.Nodup := by
      intro entries
      induction entries with
      | nil => exact fun _ hacc => hacc
      | cons p entries ih =>
        intro acc hacc
        rw [List.foldlM_cons, Noted.value_bind]
        refine ih _ ?_
        unfold allOfEntry
        split
        · exact keys_childGroup hacc _ _ _ _
        · exact hacc
    have hread := hall items.zipIdx ({ parts with consumed := parts.consumed ++ ["allOf"] }, []) h
    rw [Noted.value_bind, keepOthers]
    split
    · exact hread
    · exact hread
  · exact h
  · exact h

theorem keys_fields (hf : FieldReader below) (required : List String) (path : String)
    (properties : Members) :
    (((properties.mapM (property below required path)).value.filterMap id).map
      fun o : Outline => o.node.key).Sublist (Entries.names properties) := by
  rw [Noted.value_mapM]
  induction properties with
  | nil => exact List.Sublist.refl _
  | cons p properties ih =>
    rw [List.map_cons]
    cases hread : (property below required path p).value with
    | none =>
      rw [List.filterMap_cons_none rfl]
      exact ih.cons _
    | some o =>
      rw [List.filterMap_cons_some (f := id) (b := o) rfl, List.map_cons]
      unfold property at hread
      rw [(hf _ o hread rfl).1]
      exact ih.cons_cons _

/-- The children of an object have different keys. -/
theorem keys_objectParts (hf : FieldReader below) {schema : Members}
    (hp : (Value.obj schema).Proper) (path : String) :
    (objectParts below schema path).value.keys.Nodup := by
  unfold objectParts
  simp only [Noted.value_bind]
  refine keys_ownListGroup (keys_ownListGroup (keys_ownAllOf (keys_ownBlock ?_ _ _) _ _) _ _ _) _ _ _
  refine List.Nodup.sublist (keys_fields hf _ path _) ?_
  have hmember := hp.member "properties"
  unfold propertiesOf
  split
  · exact List.nodup_nil
  · next properties heq => exact (heq ▸ hmember).names
  · exact List.nodup_nil

theorem keys_partsOf (hf : FieldReader below) (tupleItems : TupleItems) (kind : NodeKind)
    {schema : Members} (hp : (Value.obj schema).Proper) (path : String) :
    (partsOf below tupleItems kind schema path).value.keys.Nodup := by
  cases kind with
  | object => exact keys_objectParts hf hp path
  | array =>
    show ((arrayItem below tupleItems schema path).value.toList.map fun o : Outline =>
      o.node.key).Nodup
    cases (arrayItem below tupleItems schema path).value with
    | none => exact List.nodup_nil
    | some o => exact List.nodup_singleton _
  | string | number | boolean | enum | group _ | definition | reference => exact List.nodup_nil

/-! ## Whole schemas -/

/-- The property holds of all that is read when it holds of what each kind of schema is read as. -/
theorem schema_holds {tupleItems : TupleItems} {names : List String} (hg : GroupsOnly P below)
    (hpointing : ∀ inner members, (pointing names inner members).Calm →
      (Value.obj members).Proper → P (pointing names inner members).value)
    (htyped : ∀ inner members, (typed below tupleItems inner members).Calm →
      (Value.obj members).Proper → Entries.has members "$ref" = false →
      P (typed below tupleItems inner members).value) :
    ReadsOnly P (schema below tupleItems names) := by
  intro inner o hp hc h
  unfold schema at h hc
  split at h
  · next members hmembers =>
    rw [hmembers] at hp
    simp only [hmembers] at hc h
    cases hkind : (if inner.role = .content then bareGroupKind? (.obj members) else none) with
    | some kind =>
      simp only [hkind] at hc h
      obtain rfl := Option.some.inj h
      refine hg kind members [] _ hp ?_ (Noted.calm_bind_iff.1 hc).1
      split at hkind
      · unfold bareGroupKind? at hkind
        dsimp only at hkind
        split at hkind
        · cases hkind
        · exact hkind
      · cases hkind
    | none =>
      simp only [hkind] at hc h
      by_cases href : Entries.has members "$ref" = true
      · rw [if_pos href] at hc h
        obtain rfl := Option.some.inj h
        exact hpointing inner members (Noted.calm_bind_iff.1 hc).1 hp
      · rw [if_neg href] at hc h
        obtain rfl := Option.some.inj h
        exact htyped inner members (Noted.calm_bind_iff.1 hc).1 hp ((Bool.not_eq_true _).mp href)
  · simp at h

theorem proper_definitionTable {document : Members} (hp : (Value.obj document).Proper) :
    (Value.obj (definitionTable document).value).Proper := by
  unfold definitionTable
  split
  · exact .obj List.nodup_nil (by simp)
  · next table hfind => exact hp.of_find? hfind
  · exact .obj List.nodup_nil (by simp)

/-- The property holds of the contents of the definitions of a document. -/
theorem contents_hold {tupleItems : TupleItems} {document : Members}
    (hp : (Value.obj document).Proper) (hc : (outline tupleItems document).Calm)
    (hb : ReadsOnly P (reader tupleItems (Entries.names (definitionTable document).value)
      (Value.obj document).depth)) :
    ∀ e ∈ (outline tupleItems document).value.definitions, ∀ o, e.content = some o → P o := by
  rw [outline_eq] at hc ⊢
  have htable := proper_definitionTable hp
  simp only [Noted.value_bind, Noted.value_pure, Noted.calm_bind_iff, Noted.value_mapM] at hc ⊢
  obtain ⟨_, _, hcontents, _⟩ := hc
  intro e he o ho
  obtain ⟨entry, hentry, rfl⟩ := List.mem_map.1 he
  have hcalm := Noted.calm_mapM_iff.1 hcontents entry hentry
  rw [definitionOf_eq] at hcalm ho
  have hcontent := (Noted.calm_bind_iff.1 hcalm).1
  have hvalue : (definitionContent _ entry).value = some o := ho
  have hproper : entry.2.Proper := htable.of_mem hentry
  unfold definitionContent at hcontent hvalue
  split_ifs at hvalue with hempty
  rw [if_neg hempty] at hcontent
  exact hb _ o hproper hcontent hvalue

/-- The definitions of a document have the names of its table. -/
theorem names_outline (tupleItems : TupleItems) (document : Members) :
    (outline tupleItems document).value.definitions.map (·.name) =
      Entries.names (definitionTable document).value := by
  rw [outline_eq]
  simp only [Noted.value_bind, Noted.value_pure, Noted.value_mapM]
  rw [List.map_map]
  simp only [Function.comp_def, name_definitionOf]
  rfl

end Decompile

end FormGraph

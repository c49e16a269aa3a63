import FormGraph.Proofs.Reading.Children
import FormGraph.Proofs.Reading.Fits
import FormGraph.Proofs.Reread.Schema
import FormGraph.Proofs.Writing.Document

/-!
# Reading a written document back

The root is read like an object, but for the table of definitions beside what was written of it: none
of the keywords of an object is that of the table, so the table is in nobody's way
(`objectParts_congr`, `nodeOf_congr`). The definitions are read one by one, and since a written
content is never empty, one without content stays one.
-/

namespace FormGraph

namespace Decompile

variable {below : Reader} {schema schema' : Members}

/-- What hangs below an object depends on no other keyword. -/
theorem objectParts_congr
    (h : ∀ k ∈ objectKeywords, Entries.find? schema' k = Entries.find? schema k) (path : String) :
    objectParts below schema' path = objectParts below schema path := by
  have hrequired : requiredOf schema' path = requiredOf schema path := by
    unfold requiredOf
    rw [h _ (by decide)]
  have hproperties : propertiesOf schema' path = propertiesOf schema path := by
    unfold propertiesOf Value.member
    rw [h _ (by decide)]
  have hblock : ∀ parts, ownBlock below schema' path parts = ownBlock below schema path parts := by
    intro parts
    have hclause : (clauseKeywords.filterMap fun k =>
        (Entries.find? schema' k).map fun v => (k, v)) =
        clauseKeywords.filterMap fun k => (Entries.find? schema k).map fun v => (k, v) :=
      List.filterMap_congr fun k hk => by
        rw [h k (by revert k; decide)]
    unfold ownBlock Entries.has
    rw [h "if" (by decide), hclause]
  have hallOf : ∀ parts, ownAllOf below schema' path parts = ownAllOf below schema path parts := by
    intro parts
    unfold ownAllOf Value.member
    rw [h _ (by decide)]
  have hlists : ∀ kind ∈ [GroupKind.anyOf, .oneOf], ∀ parts,
      ownListGroup below schema' path parts kind = ownListGroup below schema path parts kind := by
    intro kind hkind parts
    unfold ownListGroup
    rw [h kind.name (by revert kind; decide)]
  unfold objectParts
  simp only [hrequired, hproperties, hblock, hallOf, hlists _ (by decide : GroupKind.anyOf ∈ _),
    hlists _ (by decide : GroupKind.oneOf ∈ _)]

/-- A node depends on its annotations and on what is left of its schema. -/
theorem nodeOf_congr {consumed : List String}
    (h : ∀ k ∈ annotationKeywords, Entries.find? schema' k = Entries.find? schema k)
    (hleft : remaining schema' consumed = remaining schema consumed) (key : String)
    (body : Body Nat) (kept : Members) (required : Bool) (path : String) :
    nodeOf key body schema' consumed kept required path =
      nodeOf key body schema consumed kept required path := by
  have htext : ∀ k ∈ annotationKeywords, textOf schema' k path = textOf schema k path := by
    intro k hk
    unfold textOf Value.member
    rw [h k hk]
  have hleftovers : leftovers body.kind schema' consumed path =
      leftovers body.kind schema consumed path := by
    unfold leftovers
    exact congrArg (fun left : Members => (do
      left.forM fun e =>
        Reading.warnIf (!silentKeywords.contains e.1)
          (path ++ ": keyword '" ++ e.1 ++ "' is not modelled for " ++ body.kind.name ++
            " and is passed through")
      return left : Reading Members)) hleft
  unfold nodeOf
  rw [hleftovers, htext _ (by decide), htext _ (by decide), h "default" (by decide)]

end Decompile

namespace Outline

open Compile Decompile

variable {cfg : DocumentConfig} {bs : List (EdgeKind × Outline)} {n : Node Nat} {below : Reader}
  {names : List String}

/-- What is written of a readable outline is not empty. -/
theorem Readable.written_ne {o : Outline} (hr : o.Readable names) : o.written cfg ≠ .obj [] := by
  have hd := hr.kind_ne_definition
  obtain ⟨n, bs⟩ := o
  obtain ⟨hl, ht, _, _⟩ := hr
  intro hempty
  by_cases hg : n.kind.isGroup = true
  · obtain ⟨kind, clauses, hb⟩ := exists_group hg
    have hgroup : groupKind? (written cfg (Outline.mk n bs)) = some kind := groupKind?_written hl hb
    rw [hempty, show groupKind? (.obj []) = none from rfl] at hgroup
    exact Option.some_ne_none kind hgroup.symm
  · rw [Bool.not_eq_true] at hg
    have hany : hasAny (members cfg n (parts cfg bs)) ["type", "$ref", "enum", "properties",
        "items"] = true := hasAny_members hl hg hd ht
    rw [written, Value.obj.injEq] at hempty
    rw [hempty] at hany
    exact absurd hany (by decide)

/-! ## Writing what can be read back -/

/-- A node can be written when what hangs below it can. -/
theorem Fits.writable (hf : (Outline.mk n bs).Fits) (hclauses : ∀ c ∈ n.clauses, c.condition.Reads)
    (hpointer : ∀ target, n.body = .reference target → ∃ name, target = .str name)
    (hkeys : n.kind = .object →
      ((bs.filter fun b => !b.2.node.kind.isGroup).map fun b => b.2.node.key).Nodup)
    (hbelow : ∀ b ∈ bs, b.2.Writable) : (Outline.mk n bs).Writable := by
  have hchild : n.kind.isGroup = false → ∀ b ∈ bs, b.1 = .child := hf.child
  cases hf with
  | mk kind _ clauses _ =>
    refine .mk kind hchild (fun c hc => ?_) (fun c hc k i hi => ?_) (fun target hb => ?_) hkeys hbelow
    · obtain ⟨key, hkey⟩ := (hclauses c hc).field
      rw [hkey]
      rfl
    · obtain ⟨o, ho⟩ := clauses c hc k i hi
      exact (List.getElem?_eq_some_iff.1 ho).1
    · obtain ⟨name, rfl⟩ := hpointer target hb
      rfl

/-- What can be read back can be written. -/
theorem Readable.writable {o : Outline} (hr : o.Readable names) (hf : o.Fits) : o.Writable := by
  induction hr with
  | @mk n bs labelled types own below ih =>
    unfold OwnReads at own
    refine hf.writable (fun c hc => ?_) (fun target hb => ?_) (fun hobject => ?_)
      fun b hb => ih b hb (hf.hanging b hb)
    · unfold Node.clauses at hc
      cases hb : n.body with
      | group kind clauses =>
        rw [hb] at own hc
        exact (own c hc).condition
      | string _ | number _ | boolean | enum _ | object _ | array _ | definition _ | reference _ =>
        rw [hb] at hc
        exact absurd hc List.not_mem_nil
    · rw [hb] at own
      obtain ⟨name, _, rfl⟩ := own
      exact ⟨name, rfl⟩
    · unfold Node.kind at hobject
      cases hb : n.body with
      | object a =>
        rw [hb] at own
        exact own.keys
      | string _ | number _ | boolean | enum _ | array _ | group _ _ | definition _ | reference _ =>
        rw [hb] at hobject
        simp [Body.kind] at hobject

end Outline

theorem Outline.mk_node_hanging (o : Outline) : Outline.mk o.node o.hanging = o := by
  cases o
  rfl

/-! ## The members of a written document -/

namespace DocumentOutline

open Compile Decompile

variable {cfg : DocumentConfig} {keep : String → Bool} {d : DocumentOutline}

/-- The members of the root as they are written. -/
def rootMembers (cfg : DocumentConfig) (d : DocumentOutline) : Members :=
  (d.root.written cfg).obj?.getD []

/-- The members of the document as they are written. -/
def members (cfg : DocumentConfig) (keep : String → Bool) (d : DocumentOutline) : Members :=
  if (d.table cfg keep).isEmpty then d.rootMembers cfg
  else Entries.put (d.rootMembers cfg) definitionsKeyword (.obj (d.table cfg keep))

theorem written_eq (cfg : DocumentConfig) (keep : String → Bool) (d : DocumentOutline) :
    d.written cfg keep = .obj (d.members cfg keep) := rfl

/-- Any keyword but that of the table is as it is written of the root. -/
theorem find?_members {k : String} (hk : k ≠ definitionsKeyword) :
    Entries.find? (d.members cfg keep) k = Entries.find? (d.rootMembers cfg) k := by
  unfold members
  split
  · rfl
  · rw [Entries.find?_put, if_neg (Ne.symm hk)]

/-- The table is found where there is one. -/
theorem find?_members_table
    (hfree : Entries.find? (d.rootMembers cfg) definitionsKeyword = none) :
    Entries.find? (d.members cfg keep) definitionsKeyword =
      if (d.table cfg keep).isEmpty then none else some (.obj (d.table cfg keep)) := by
  unfold members
  split
  · exact hfree
  · rw [Entries.find?_put, if_pos rfl]

/-- What is left of the document when the table is read is left of the root. -/
theorem remaining_members {consumed : List String}
    (hfree : Entries.find? (d.rootMembers cfg) definitionsKeyword = none)
    (hconsumed : definitionsKeyword ∈ consumed) :
    remaining (d.members cfg keep) consumed = remaining (d.rootMembers cfg) consumed := by
  unfold members remaining
  split
  · rfl
  · rw [Entries.put_of_not_mem (Entries.find?_eq_none_iff.1 hfree), List.filter_append,
      List.filter_cons_of_neg (by simp [hconsumed]), List.filter_nil, List.append_nil]

/-- The root is no deeper than the document. -/
theorem depth_rootMembers_le (keep : String → Bool)
    (hfree : Entries.find? (d.rootMembers cfg) definitionsKeyword = none) :
    (Value.obj (d.rootMembers cfg)).depth ≤ (Value.obj (d.members cfg keep)).depth := by
  unfold members
  split
  · exact Nat.le_refl _
  · rw [Entries.put_of_not_mem (Entries.find?_eq_none_iff.1 hfree), Value.depth, Value.depth]
    exact Nat.succ_le_succ (Value.depthMembers_le_append _ _)

/-- The definitions to keep. -/
def kept (keep : String → Bool) (d : DocumentOutline) : List DefinitionOutline :=
  d.definitions.filter fun e => keep e.name

theorem table_eq (cfg : DocumentConfig) (keep : String → Bool) (d : DocumentOutline) :
    d.table cfg keep = (d.kept keep).map fun e => (e.name, e.written cfg) := rfl

theorem names_table (cfg : DocumentConfig) (keep : String → Bool) (d : DocumentOutline) :
    Entries.names (d.table cfg keep) = (d.kept keep).map (·.name) := by
  rw [table_eq, Entries.names, List.map_map]
  rfl

/-- A definition is less deep than the document. -/
theorem depth_definition_lt (cfg : DocumentConfig) {e : DefinitionOutline} (he : e ∈ d.kept keep) :
    (e.written cfg).depth < (Value.obj (d.members cfg keep)).depth := by
  have hmem : (e.name, e.written cfg) ∈ d.table cfg keep :=
    List.mem_map_of_mem (f := fun e : DefinitionOutline => (e.name, e.written cfg)) he
  have htable : (d.table cfg keep).isEmpty ≠ true := by
    rw [ne_eq, List.isEmpty_iff]
    exact List.ne_nil_of_mem hmem
  have hlt : (e.written cfg).depth < (Value.obj (d.table cfg keep)).depth := by
    rw [Value.depth]
    exact Nat.lt_succ_of_le (Value.depth_le_depthMembers hmem)
  refine Nat.lt_trans hlt (Value.Inside.depth_lt (.member (?_ :
    Entries.find? (d.members cfg keep) definitionsKeyword = _)))
  unfold members
  rw [if_neg htable, Entries.find?_put, if_pos rfl]

/-! ## Reading -/

/-- The document can be read back. -/
structure Readable (d : DocumentOutline) : Prop where
  /-- The root is an object. -/
  kind : d.root.node.kind = .object
  /-- Nothing gets in the way of what is read of the root. -/
  labelled : Outline.Labelled d.root.node (rootKeywords ++ ["required"])
  /-- The children of the root can be read. -/
  children : Outline.ObjectReads d.root.node d.root.hanging
  /-- So can everything below them. -/
  below : ∀ b ∈ d.root.hanging, b.2.Readable (d.definitions.map (·.name))
  /-- So can the contents of the definitions. -/
  content : ∀ e ∈ d.definitions, ∀ o, e.content = some o →
    o.Readable (d.definitions.map (·.name)) ∧ o.Bare

/-- What is written points at definitions to keep. -/
structure Closed (keep : String → Bool) (d : DocumentOutline) : Prop where
  /-- The root points at definitions to keep. -/
  root : ∀ t ∈ d.root.references, ∃ name ∈ (d.kept keep).map (·.name), t = .str name
  /-- So do the definitions to keep. -/
  content : ∀ e ∈ d.kept keep, ∀ t ∈ e.references,
    ∃ name ∈ (d.kept keep).map (·.name), t = .str name

/-- What is wanted points at what is wanted. -/
theorem Writable.closed (hw : d.Writable) (hkeep : ∀ name, keep name = true ↔ d.Wanted cfg name) :
    d.Closed keep := by
  have hkept : ∀ e ∈ d.definitions, d.Wanted cfg e.name → e.name ∈ (d.kept keep).map (·.name) :=
    fun e he hwanted => List.mem_map_of_mem (List.mem_filter.2 ⟨he, (hkeep _).2 hwanted⟩)
  refine ⟨fun t ht => ?_, fun e he t ht => ?_⟩
  · obtain ⟨e, he, rfl⟩ := hw.root_targets t ht
    exact ⟨e.name, hkept e he (.root ht), rfl⟩
  · obtain ⟨he, hwanted⟩ := List.mem_filter.1 he
    obtain ⟨e', he', rfl⟩ := hw.targets e he t ht
    exact ⟨e'.name, hkept e' he' (.definition he ((hkeep _).1 hwanted) ht), rfl⟩

end DocumentOutline

/-- What a definition is read back as. -/
structure DefinitionOutline.Mirrors (cfg : DocumentConfig) (e e' : DefinitionOutline) : Prop where
  /-- The name is the same. -/
  name : e'.name = e.name
  /-- So is the content, if there is one. -/
  content : Option.Rel (Outline.Mirrors cfg) e.content e'.content

/-- What a document is read back as. -/
structure DocumentOutline.Mirrors (cfg : DocumentConfig) (keep : String → Bool)
    (d d' : DocumentOutline) : Prop where
  /-- The root is the same. -/
  root : Outline.Mirrors cfg d.root d'.root
  /-- So are the definitions to keep. -/
  definitions : List.Forall₂ (DefinitionOutline.Mirrors cfg) (d.kept keep) d'.definitions

namespace DocumentOutline

open Compile Decompile

variable {cfg : DocumentConfig} {keep : String → Bool} {d : DocumentOutline}

namespace Readable

theorem body (hr : d.Readable) : ∃ own, d.root.node.body = .object own := by
  have hk := hr.kind
  unfold Node.kind at hk
  cases hb : d.root.node.body with
  | object own => exact ⟨own, rfl⟩
  | string _ | number _ | boolean | enum _ | array _ | group _ _ | definition _ | reference _ =>
    rw [hb] at hk
    simp [Body.kind] at hk

theorem written_root (cfg : DocumentConfig) (d : DocumentOutline) : d.root.written cfg =
    .obj (Outline.members cfg d.root.node (Outline.parts cfg d.root.hanging)) := by
  obtain ⟨_, n, bs⟩ := d
  rfl

theorem rootMembers_eq (cfg : DocumentConfig) (d : DocumentOutline) : d.rootMembers cfg =
    Outline.members cfg d.root.node (Outline.parts cfg d.root.hanging) := by
  rw [rootMembers, written_root]
  rfl

/-- The root has no table of definitions of its own. -/
theorem find?_table (hr : d.Readable) (cfg : DocumentConfig) :
    Entries.find? (d.rootMembers cfg) definitionsKeyword = none := by
  rw [rootMembers_eq]
  refine Outline.find?_members_eq_none (hr.labelled.free_of_mem (by decide)) ?_ ?_ (by decide) <;>
  · rw [hr.kind]
    decide

/-- What can be read back can be written. -/
theorem writable (hr : d.Readable) (hf : d.Fits) : d.Writable := by
  have htarget : ∀ o : Outline, o.Readable (d.definitions.map (·.name)) → ∀ t ∈ o.references,
      ∃ e ∈ d.definitions, t = .str e.name := by
    intro o ho t ht
    obtain ⟨name, hname, rfl⟩ := ho.references t ht
    obtain ⟨e, he, rfl⟩ := List.mem_map.1 hname
    exact ⟨e, he, rfl⟩
  obtain ⟨own, hb⟩ := hr.body
  refine ⟨?_, fun e he o ho => ((hr.content e he o ho).1.writable (hf.content e he o ho)), hf.names,
    fun t ht => ?_, fun e he t ht => ?_⟩
  · have hroot := hf.root
    rw [← Outline.mk_node_hanging d.root] at hroot ⊢
    refine hroot.writable (fun c hc => ?_) (fun target href => ?_) (fun _ => hr.children.keys)
      fun b hb => (hr.below b hb).writable (hf.root.hanging b hb)
    · rw [Node.clauses, hb] at hc
      exact absurd hc List.not_mem_nil
    · rw [hb] at href
      cases href
  · rw [← Outline.mk_node_hanging d.root, Outline.references, Outline.referencesBelow_eq,
      Outline.nodeReferences, hb] at ht
    obtain ⟨ts, hts, ht⟩ := List.mem_flatten.1 ht
    obtain ⟨b, hmem, rfl⟩ := List.mem_map.1 hts
    exact htarget b.2 (hr.below b hmem) t ht
  · unfold DefinitionOutline.references at ht
    cases hc : e.content with
    | none => simp [hc] at ht
    | some o =>
      rw [hc] at ht
      exact htarget o (hr.content e he o hc).1 t ht

/-- The content of a definition is read back. -/
theorem definition_yields (hr : d.Readable) (hk : d.Closed keep) {e : DefinitionOutline}
    (he : e ∈ d.kept keep) {below : Reader}
    (hbelow : ∀ o : Outline, o.Readable (d.definitions.map (·.name)) →
      (∀ t ∈ o.references, ∃ name ∈ (d.kept keep).map (·.name), t = .str name) →
      (o.written cfg).depth < (Value.obj (d.members cfg keep)).depth → Outline.Reads below cfg o) :
    ∃ e', (definitionOf below (e.name, e.written cfg)).Yields e' ∧ e.Mirrors cfg e' := by
  have hdepth := depth_definition_lt cfg he
  have hcontent := hr.content e (List.mem_filter.1 he).1
  have hclosed := hk.content e he
  obtain ⟨name, content⟩ := e
  rw [definitionOf_eq]
  cases content with
  | none => exact ⟨⟨name, none⟩, (Noted.Yields.pure none).bind (.pure _), rfl, .none⟩
  | some o =>
    obtain ⟨hreadable, hbare⟩ := hcontent o rfl
    obtain ⟨o', ho', hm, _⟩ := hbelow o hreadable hclosed hdepth
      (definitionInner (name, o.written cfg)) rfl (fun _ => rfl) fun _ => hbare
    refine ⟨⟨name, some o'⟩, ?_, rfl, .some hm⟩
    have hyields : (definitionContent below (name, o.written cfg)).Yields (some o') := by
      unfold definitionContent
      rw [if_neg hreadable.written_ne]
      exact ho'
    exact hyields.bind (.pure _)

/-- The table is read back, definition by definition. -/
theorem definitions_yield (hr : d.Readable) (hk : d.Closed keep) {below : Reader}
    (hbelow : ∀ o : Outline, o.Readable (d.definitions.map (·.name)) →
      (∀ t ∈ o.references, ∃ name ∈ (d.kept keep).map (·.name), t = .str name) →
      (o.written cfg).depth < (Value.obj (d.members cfg keep)).depth → Outline.Reads below cfg o) :
    ∃ ds, ((d.table cfg keep).mapM (definitionOf below)).Yields ds ∧
      List.Forall₂ (DefinitionOutline.Mirrors cfg) (d.kept keep) ds := by
  have hall : ∀ e ∈ d.kept keep, ∃ e', (definitionOf below (e.name, e.written cfg)).Yields e' ∧
      e.Mirrors cfg e' := fun e he => hr.definition_yields hk he hbelow
  rw [table_eq]
  generalize d.kept keep = es at hall ⊢
  induction es with
  | nil => exact ⟨[], .pure [], .nil⟩
  | cons e es ih =>
    obtain ⟨e', he', hm⟩ := hall e List.mem_cons_self
    obtain ⟨ds, hds, hms⟩ := ih fun e he => hall e (List.mem_cons_of_mem _ he)
    refine ⟨e' :: ds, ?_, .cons hm hms⟩
    rw [List.map_cons, List.mapM_cons]
    exact he'.bind (hds.bind (.pure _))

/-- The root declares the type of an object. -/
theorem rootType_yields (hr : d.Readable) (cfg : DocumentConfig) :
    (rootTypeIssue (d.members cfg keep)).Yields () := by
  have htype : Value.member (d.members cfg keep) "type" = .str "object" := by
    rw [Value.member, find?_members (by decide), rootMembers_eq,
      Outline.find?_members_type (hr.labelled.free_of_mem (by decide)) (by rw [hr.kind]; rfl), hr.kind]
    rfl
  unfold rootTypeIssue
  rw [htype]
  exact .pure _

/-- The table of definitions is that which was written. -/
theorem table_yields (hr : d.Readable) (cfg : DocumentConfig) :
    (definitionTable (d.members cfg keep)).Yields (d.table cfg keep) := by
  unfold definitionTable
  rw [find?_members_table (hr.find?_table cfg)]
  by_cases hempty : (d.table cfg keep).isEmpty = true
  · rw [if_pos hempty, List.isEmpty_iff.1 hempty]
    exact .pure _
  · rw [if_neg hempty]
    exact .pure _

/-- The attributes of the root are read back. -/
theorem body_eq (hr : d.Readable) (cfg : DocumentConfig) :
    Body.ofFragment .object (d.members cfg keep) = d.root.node.body := by
  have hfree : d.root.node.Free (Body.vocabulary d.root.node.kind) := by
    rw [hr.kind]
    exact hr.labelled.free.mono fun k hk => List.mem_append_right _ (List.mem_append_left _
      (List.mem_append_right _ hk))
  obtain ⟨own, hb⟩ := hr.body
  have h : Body.ofFragment d.root.node.body.kind (d.members cfg keep) = d.root.node.body :=
    Body.ofFragment_eq d.root.node.body (.inl (by rw [hb]; rfl))
      (fun a ha => by rw [hb] at ha; cases ha) fun k hk => by
      have hne : k ≠ definitionsKeyword := by
        rw [hb] at hk
        change k ∈ Body.vocabulary .object at hk
        revert k
        decide
      rw [find?_members hne, rootMembers_eq]
      exact Outline.find?_members_attribute hfree (by rw [hr.kind]; rfl) (by rw [hr.kind]; decide) _ hk
  rw [hb] at h ⊢
  exact h

/-- A written document is read back. -/
theorem outline_yields (hr : d.Readable) (hk : d.Closed keep) (cfg : DocumentConfig) :
    ∃ d', (outline cfg.tupleItems (d.members cfg keep)).Yields d' ∧ d.Mirrors cfg keep d' := by
  obtain ⟨own, hb⟩ := hr.body
  have hnone := hr.find?_table cfg
  have hfree : ∀ k ∈ "type" :: Body.vocabulary .object, k ∈ rootKeywords := by decide
  have hdepth : (d.root.written cfg).depth ≤ (Value.obj (d.members cfg keep)).depth := by
    have h := depth_rootMembers_le keep hnone
    rwa [rootMembers_eq, ← written_root] at h
  have hnames : Entries.names (d.table cfg keep) = (d.kept keep).map (·.name) := names_table ..
  generalize hreader : reader cfg.tupleItems (Entries.names (d.table cfg keep))
    (Value.obj (d.members cfg keep)).depth = below
  have hbelow : ∀ o : Outline, o.Readable (d.definitions.map (·.name)) →
      (∀ t ∈ o.references, ∃ name ∈ (d.kept keep).map (·.name), t = .str name) →
      (o.written cfg).depth < (Value.obj (d.members cfg keep)).depth →
      Outline.Reads below cfg o ∧ Outline.ReadsGroup below cfg o := by
    intro o ho hknown hlt
    rw [← hreader, hnames]
    exact ⟨(ho.reads hknown cfg _).1 _ (Nat.le_of_lt hlt),
      (ho.reads hknown cfg _).2 _ (Nat.le_succ_of_le (Nat.le_of_lt hlt))⟩
  have hpart : ∀ b ∈ d.root.hanging, Outline.PartOf cfg b.2 d.root →
      Outline.Reads below cfg b.2 ∧ Outline.ReadsGroup below cfg b.2 :=
    fun b hmem hp => hbelow _ (hr.below b hmem) (fun t ht => hk.root t (hp.references ht))
      (Nat.lt_of_lt_of_le hp.inside.depth_lt hdepth)
  obtain ⟨ds, hds, hms⟩ := hr.definitions_yield hk fun o ho hknown hlt => (hbelow o ho hknown hlt).1
  have hfields : ∀ o ∈ Outline.fieldsOf d.root.hanging, Outline.Reads below cfg o := by
    intro o ho
    have hp : Outline.PartOf cfg o d.root :=
      Outline.mk_node_hanging d.root ▸ Outline.field_partOf hb hr.children ho
    obtain ⟨b, hmem, rfl, _⟩ := Outline.mem_fieldsOf ho
    exact (hpart b hmem hp).1
  have hgroups : ∀ o ∈ Outline.groupsOf d.root.hanging, Outline.ReadsGroup below cfg o ∧
      ∃ kind clauses, o.node.body = .group kind clauses ∧
        groupKind? (o.written cfg) = some kind :=
    Outline.groups_read hb hr.below fun b hmem hp =>
      (hpart b hmem (Outline.mk_node_hanging d.root ▸ hp)).2
  obtain ⟨parts₀, n', hparts, hnode, hm, _⟩ := Outline.object_yields hr.labelled hb hfree
    (hr.labelled.free.mono fun k hk => List.mem_append_right _ (List.mem_append_left _ hk))
    (hr.labelled.free_of_mem (by decide)) hr.children hfields hgroups rootName false "#"
  rw [Outline.mk_node_hanging] at hm
  refine ⟨⟨ds, .mk n' (parts₀.children.map fun o => (.child, o))⟩, ?_, hm, hms⟩
  rw [outline_eq]
  refine (hr.rootType_yields cfg).bind ((hr.table_yields cfg).bind ?_)
  rw [hreader]
  refine hds.bind ?_
  rw [objectParts_congr fun k hk => find?_members (by revert k; decide), rootMembers_eq]
  refine hparts.bind ?_
  rw [hr.body_eq, nodeOf_congr (fun k hk => find?_members (by revert k; decide))
    (remaining_members hnone (List.mem_append_left _ (by decide))), rootMembers_eq]
  exact hnode.bind (.pure _)

/-- It fits when no two of its definitions have one name. -/
theorem fits (hr : d.Readable) (hnames : (d.definitions.map (·.name)).Nodup)
    {d' : DocumentOutline} (h : (outline cfg.tupleItems (d.members cfg keep)).Yields d') :
    d'.Fits := by
  rw [← h.value_eq]
  refine fits_outline cfg.tupleItems ?_
  rw [(hr.table_yields cfg).value_eq, names_table]
  exact hnames.sublist (List.filter_sublist.map _)

end Readable

end DocumentOutline

namespace Graph

/-- What is read calmly is the outline of the document. -/
theorem outlineOf_of_yields {cfg : DocumentConfig} {members : Members} {d : DocumentOutline}
    (h : (Decompile.outline cfg.tupleItems members).Yields d) :
    ∃ warnings, outlineOf (.obj members) cfg = .ok (d, warnings) := by
  obtain ⟨hvalue, hcalm⟩ := h
  have hissues : (Decompile.outline cfg.tupleItems members).notes.filterMap ReadingNote.issue? =
      [] := by
    rw [List.filterMap_eq_nil_iff]
    intro n hn
    obtain ⟨text, rfl⟩ := hcalm n hn
    rfl
  have husable : (Decompile.outline cfg.tupleItems members).notes.contains .unusable = false := by
    rw [Bool.eq_false_iff, ne_eq, List.contains_iff_mem]
    intro h
    obtain ⟨text, ht⟩ := hcalm _ h
    cases ht
  unfold outlineOf
  dsimp only
  rw [husable, hissues, hvalue]
  exact ⟨_, rfl⟩

/-- A document that has an outline is read as the graph of its outline. -/
theorem decompile_of_outlineOf {document : Value} {cfg : DocumentConfig} {d : DocumentOutline}
    {warnings : List String} (h : outlineOf document cfg = .ok (d, warnings)) (s : IdSupply) :
    (decompile document cfg).run s =
      .ok (⟨d.toGraph s.used, warnings⟩, ⟨s.used + d.size⟩) := by
  unfold decompile
  rw [h]
  rfl

end Graph

end FormGraph

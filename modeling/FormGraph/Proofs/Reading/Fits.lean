import FormGraph.Proofs.Ownership.Import
import FormGraph.Proofs.Reading.Steps

/-!
# What is read fits

Whatever document is read, its outline says of every node what a graph can show. The reader for one
schema is given the reader for the schemas within it, so the step is proved once for each part of the
reader, and the whole by induction on the depth.
-/

namespace FormGraph

namespace Decompile

open Reading

variable {below : Reader}

/-- Everything that the reader reads fits. -/
def FitReader (below : Reader) : Prop := ∀ inner o, (below inner).value = some o → o.Fits

theorem body_nodeOf (key : String) (body : Body Nat) (schema : Members) (consumed : List String)
    (kept : Members) (required : Bool) (path : String) :
    (nodeOf key body schema consumed kept required path).value.body = body := rfl

/-! ## Groups -/

theorem fits_branch (hb : FitReader below) {schema : Value} {kind : EdgeKind} {path : String}
    {o : Outline} (h : (branch below schema kind path).value = some o) : o.Fits := by
  cases schema with
  | obj members => exact hb _ _ h
  | null | bool _ | int _ | float _ | str _ | list _ => simp [branch] at h

/-- A position at which a branch of the kind hangs. -/
def Position (bs : List (EdgeKind × Outline)) (kind : EdgeKind) (i : Nat) : Prop :=
  ∃ o, bs[i]? = some (kind, o)

theorem Position.append {bs more : List (EdgeKind × Outline)} {kind : EdgeKind} {i : Nat}
    (h : Position bs kind i) : Position (bs ++ more) kind i := by
  obtain ⟨o, ho⟩ := h
  refine ⟨o, ?_⟩
  rw [List.getElem?_append_left (List.getElem?_eq_some_iff.1 ho).1, ho]

/-- What has been read of a group fits: the branches do, and every position is one of a branch of the
matching kind. -/
structure GroupParts.Fits (parts : GroupParts) : Prop where
  /-- What hangs below the group are branches. -/
  branches : ∀ b ∈ parts.below, b.1.isBranch = true ∧ b.2.Fits
  /-- The clauses point at branches of the matching kind. -/
  clauses : ∀ c ∈ parts.clauses, ∀ (k : EdgeKind) (i : Nat), c.target k = some i →
    Position parts.below k i
  /-- So do the branches that were read already. -/
  seen : ∀ s ∈ parts.seen, ∀ i, s.2 = some i → Position parts.below s.1.1 i

/-- What a step adds to a group: branches behind those there are, with everything still fitting, and
the position of a branch of the kind. -/
structure GroupParts.Extends (parts next : GroupParts) (kind : EdgeKind) (position : Option Nat) :
    Prop where
  /-- The parts fit. -/
  fits : next.Fits
  /-- The clauses are the same. -/
  same : next.clauses = parts.clauses
  /-- The branches stay where they are. -/
  grows : ∃ more, next.below = parts.below ++ more
  /-- The position is that of a branch of the kind. -/
  valid : ∀ i, position = some i → Position next.below kind i

theorem GroupParts.fits_empty : ({} : GroupParts).Fits :=
  ⟨by simp, by simp, by simp⟩

theorem GroupParts.Fits.hang {parts : GroupParts} (hf : parts.Fits) (kind : EdgeKind)
    {o : Option Outline} (hk : kind.isBranch = true) (ho : ∀ x, o = some x → x.Fits) :
    parts.Extends (parts.hang kind o).1 kind (parts.hang kind o).2 := by
  cases o with
  | none => exact ⟨hf, rfl, ⟨[], by simp [GroupParts.hang]⟩, by simp [GroupParts.hang]⟩
  | some x =>
    have hgrow : (parts.hang kind (some x)).1.below = parts.below ++ [(kind, x)] := rfl
    refine ⟨⟨?_, ?_, ?_⟩, rfl, ⟨_, hgrow⟩, ?_⟩
    · rw [hgrow]
      intro b hb
      rcases List.mem_append.1 hb with hb | hb
      · exact hf.branches b hb
      · rw [List.mem_singleton] at hb
        subst hb
        exact ⟨hk, ho x rfl⟩
    · intro c hc k i hi
      rw [hgrow]
      exact (hf.clauses c hc k i hi).append
    · intro s hs i hi
      rw [hgrow]
      exact (hf.seen s hs i hi).append
    · intro i hi
      rw [hgrow]
      have hlen : i = parts.below.length := (Option.some.inj hi).symm
      exact ⟨x, by rw [hlen, List.getElem?_append_right (Nat.le_refl _), Nat.sub_self]; rfl⟩

theorem fits_sharedBranch (hb : FitReader below) {parts : GroupParts} (hf : parts.Fits)
    (kind : EdgeKind) (hk : kind.isBranch = true) (path : String) (schema : Option Value) :
    parts.Extends (sharedBranch below kind path schema parts).value.1 kind
      (sharedBranch below kind path schema parts).value.2 := by
  cases schema with
  | none => exact ⟨hf, rfl, ⟨[], by simp [sharedBranch]⟩, by simp [sharedBranch]⟩
  | some schema =>
    unfold sharedBranch
    dsimp only
    cases hfind : parts.seen.find? fun s => s.1 = (kind, schema.canonicalJson) with
    | some s =>
      obtain ⟨marker, position⟩ := s
      refine ⟨hf, rfl, ⟨[], by simp⟩, fun i hi => ?_⟩
      have hmem := List.mem_of_find?_eq_some hfind
      have hmarker := List.find?_some hfind
      rw [decide_eq_true_eq] at hmarker
      have hpos := hf.seen _ hmem i hi
      dsimp only at hmarker hpos
      rw [hmarker] at hpos
      exact hpos
    | none =>
      have hang := hf.hang kind hk (o := (branch below schema kind path).value) fun x hx =>
        fits_branch hb hx
      refine ⟨⟨hang.fits.branches, hang.fits.clauses, ?_⟩, hang.same, hang.grows, hang.valid⟩
      intro s hs i hi
      rcases List.mem_append.1 hs with hs | hs
      · exact hang.fits.seen s hs i hi
      · rw [List.mem_singleton] at hs
        subst hs
        exact hang.valid i hi

theorem GroupParts.Fits.addClause {parts : GroupParts} (hf : parts.Fits) {c : Clause Nat}
    (hc : ∀ (k : EdgeKind) (i : Nat), c.target k = some i → Position parts.below k i) :
    ({ parts with clauses := parts.clauses ++ [c] } : GroupParts).Fits := by
  refine ⟨hf.branches, fun c' hc' => ?_, hf.seen⟩
  rcases List.mem_append.1 hc' with hc' | hc'
  · exact hf.clauses c' hc'
  · rw [List.mem_singleton] at hc'
    exact hc' ▸ hc

/-- The positions of the two branches of a clause that are read one after the other. -/
theorem GroupParts.Extends.position {parts next last : GroupParts} {i j : Option Nat}
    (h₁ : parts.Extends next .thenBranch i) (h₂ : next.Extends last .elseBranch j)
    (condition : Condition) : ∀ (k : EdgeKind) (p : Nat),
      (Clause.mk condition i j).target k = some p → Position last.below k p := by
  intro k p hp
  obtain ⟨more, hmore⟩ := h₂.grows
  cases k with
  | child => simp [Clause.target] at hp
  | thenBranch =>
    rw [hmore]
    exact (h₁.valid p hp).append
  | elseBranch => exact h₂.valid p hp

theorem fits_clauseOf (hb : FitReader below) {kind : GroupKind} {path : String}
    {parts : GroupParts} (hf : parts.Fits) (entry : Members) :
    (clauseOf below kind path parts entry).value.Fits := by
  unfold clauseOf
  simp only [Noted.value_bind]
  have h₁ := fits_sharedBranch hb hf .thenBranch rfl (path ++ "/then")
    (Entries.find? entry "then")
  generalize sharedBranch below .thenBranch (path ++ "/then") (Entries.find? entry "then") parts =
    first at h₁ ⊢
  obtain ⟨⟨next, i⟩, _⟩ := first
  have h₂ := fits_sharedBranch hb h₁.fits .elseBranch rfl (path ++ "/else")
    (if (Value.member entry "else").same Compile.failingBranch && kind ≠ .allOf then none
      else Entries.find? entry "else")
  dsimp only at h₁ h₂ ⊢
  generalize sharedBranch below .elseBranch (path ++ "/else") _ next = second at h₂ ⊢
  obtain ⟨⟨last, j⟩, _⟩ := second
  dsimp only at h₂ ⊢
  split
  · exact h₂.fits
  · next c _ =>
    exact h₂.fits.addClause (h₁.position h₂ c)

theorem fits_clausesOf (hb : FitReader below) (kind : GroupKind) (entries : List Value)
    (path : String) : (clausesOf below kind entries path).value.Fits := by
  unfold clausesOf
  rw [Noted.value_foldlM]
  generalize entries.zipIdx = items
  have hstart := GroupParts.fits_empty
  generalize ({} : GroupParts) = parts at hstart
  induction items generalizing parts with
  | nil => exact hstart
  | cons item items ih =>
    refine ih _ ?_
    obtain ⟨v, i⟩ := item
    cases v with
    | obj entry => exact fits_clauseOf hb hstart entry
    | null | bool _ | int _ | float _ | str _ | list _ => exact hstart

theorem fits_blockBranch (hb : FitReader below) (block : Members) (keyword : String)
    (kind : EdgeKind) (path : String) (o : Outline)
    (h : (blockBranch below block keyword kind path).value = some o) : o.Fits := by
  unfold blockBranch at h
  cases hfind : Entries.find? block keyword with
  | none => simp [hfind] at h
  | some schema =>
    simp only [hfind] at h
    exact fits_branch hb h

theorem fits_blockOf (hb : FitReader below) (block : Members) (path : String) :
    (blockOf below block path).value.Fits := by
  rw [blockOf_eq]
  simp only [Noted.value_bind]
  generalize (testsOf _ path).value = conditions
  have h₁ := GroupParts.fits_empty.hang .thenBranch rfl
    (fits_blockBranch hb block "then" .thenBranch path)
  have h₂ := h₁.fits.hang .elseBranch rfl (fits_blockBranch hb block "else" .elseBranch path)
  refine ⟨h₂.fits.branches, fun c hc => ?_, h₂.fits.seen⟩
  obtain ⟨condition, _, rfl⟩ := List.mem_map.1 hc
  exact h₁.position h₂ condition

/-- A group of parts that fit fits. -/
theorem GroupParts.Fits.outline {parts : GroupParts} (hf : parts.Fits) {n : Node Nat}
    {kind : GroupKind} (hn : n.body = .group kind parts.clauses) :
    (Outline.mk n parts.below).Fits := by
  refine .mk ?_ (fun b hb => ?_) (fun c hc k i hi => ?_) fun b hb => (hf.branches b hb).2
  · rw [Node.kind, hn]
    simp [Body.kind]
  · rw [Node.kind, hn]
    simp [Body.kind, isContainer, (hf.branches b hb).1, NodeKind.isGroup]
  · rw [Node.clauses, hn] at hc
    exact hf.clauses c hc k i hi

theorem fits_group (hb : FitReader below) (kind : GroupKind) (schema : Members)
    (taken : List String) (path : String) : (group below kind schema taken path).value.Fits := by
  have hparts : (groupParts below kind schema path).value.Fits := by
    cases kind with
    | ifBlock => exact fits_blockOf hb schema path
    | allOf | anyOf | oneOf => exact fits_clausesOf hb _ _ _
  rw [group_eq]
  exact hparts.outline (body_nodeOf _ _ _ _ _ _ _)

/-! ## Objects and arrays -/

/-- The children that were read of an object fit. -/
def ObjectParts.Fits (parts : ObjectParts) : Prop := ∀ o ∈ parts.children, o.Fits

theorem fits_childGroup (hb : FitReader below) {parts : ObjectParts} (hf : parts.Fits)
    (kind : GroupKind) (schema : Members) (path : String) (consumed : List String) :
    (childGroup below kind schema path consumed parts).value.Fits := by
  intro o ho
  rcases List.mem_append.1 ho with ho | ho
  · exact hf o ho
  · rw [List.mem_singleton] at ho
    rw [ho]
    exact fits_group hb kind schema parts.keys path

theorem fits_ownBlock (hb : FitReader below) {parts : ObjectParts} (hf : parts.Fits)
    (schema : Members) (path : String) : (ownBlock below schema path parts).value.Fits := by
  unfold ownBlock
  split
  · dsimp only
    split
    · exact fits_childGroup hb hf _ _ _ _
    · exact hf
  · exact hf

theorem fits_ownListGroup (hb : FitReader below) {parts : ObjectParts} (hf : parts.Fits)
    (schema : Members) (path : String) (kind : GroupKind) :
    (ownListGroup below schema path parts kind).value.Fits := by
  unfold ownListGroup
  split
  · exact hf
  · dsimp only
    split
    · exact fits_childGroup hb hf _ _ _ _
    · exact hf

theorem fits_allOfEntries (hb : FitReader below) (path : String) (entries : List (Value × Nat))
    {acc : ObjectParts × List Value} (hf : acc.1.Fits) :
    (entries.foldlM (allOfEntry below path) acc).value.1.Fits := by
  rw [Noted.value_foldlM]
  induction entries generalizing acc with
  | nil => exact hf
  | cons entry entries ih =>
    refine ih ?_
    show (allOfEntry below path acc entry).value.1.Fits
    unfold allOfEntry
    split
    · exact fits_childGroup hb hf _ _ _ _
    · exact hf

theorem fits_ownAllOf (hb : FitReader below) {parts : ObjectParts} (hf : parts.Fits)
    (schema : Members) (path : String) : (ownAllOf below schema path parts).value.Fits := by
  rw [ownAllOf_eq]
  split
  · next items _ =>
    have hall := @fits_allOfEntries _ hb path items.zipIdx
      ({ parts with consumed := parts.consumed ++ ["allOf"] }, []) hf
    rw [Noted.value_bind, keepOthers]
    split
    · exact hall
    · exact hall
  · exact hf
  · exact hf

theorem fits_objectParts (hb : FitReader below) (schema : Members) (path : String) :
    (objectParts below schema path).value.Fits := by
  unfold objectParts
  simp only [Noted.value_bind]
  refine fits_ownListGroup hb (fits_ownListGroup hb (fits_ownAllOf hb (fits_ownBlock hb ?_ _ _) _ _)
    _ _ _) _ _ _
  intro o ho
  obtain ⟨x, hx, heq⟩ := List.mem_filterMap.1 ho
  rw [Noted.value_mapM] at hx
  obtain ⟨p, _, rfl⟩ := List.mem_map.1 hx
  exact hb _ o heq

theorem fits_arrayItem (hb : FitReader below) {tupleItems : TupleItems} {schema : Members}
    {path : String} {o : Outline}
    (h : (arrayItem below tupleItems schema path).value = some o) : o.Fits := by
  unfold arrayItem at h
  cases hfind : Entries.find? schema "items" with
  | none => simp [hfind] at h
  | some items =>
    simp only [hfind, Noted.value_bind] at h
    generalize (itemSchema tupleItems items (path ++ "/items")).value = item at h
    cases item with
    | none => simp at h
    | some v =>
      cases v with
      | obj members => exact hb _ o h
      | null | bool _ | int _ | float _ | str _ | list _ => simp at h

/-! ## Whole schemas -/

theorem kindOfType?_ne_definition {type : String} {kind : NodeKind}
    (h : kindOfType? type = some kind) : kind ≠ .definition := by
  unfold kindOfType? at h
  split at h <;> cases h <;> simp

theorem inferKind_ne_definition (schema : Members) (path : String) :
    (inferKind schema path).value ≠ .definition := by
  rw [inferKind_eq]
  split
  · simp
  · rw [Noted.value_bind]
    generalize (declaredType schema path).value = declared
    unfold kindOfDeclared
    split
    · rw [Noted.value_pure]
      split <;> simp
    · split
      · next h => exact kindOfType?_ne_definition h
      · simp
    · simp

@[simp] theorem clauses_ofFragment {ρ : Type} (kind : NodeKind) (fragment : Members) :
    (Body.ofFragment kind fragment : Body ρ).clauses = [] := by
  cases kind <;> rfl

/-- A node without clauses whose children fit fits, if it can hold children at all. -/
theorem fits_of_children {n : Node Nat} {children : List Outline} (hk : n.kind ≠ .definition)
    (hc : n.clauses = []) (hholds : children ≠ [] → isContainer n.kind .child = true)
    (hf : ∀ o ∈ children, o.Fits) :
    (Outline.mk n (children.map fun o => (.child, o))).Fits := by
  refine .mk hk (fun b hb => ?_) (fun c hmem => ?_) fun b hb => ?_
  · obtain ⟨o, ho, rfl⟩ := List.mem_map.1 hb
    exact hholds (List.ne_nil_of_mem ho)
  · rw [hc] at hmem
    simp at hmem
  · obtain ⟨o, ho, rfl⟩ := List.mem_map.1 hb
    exact hf o ho

theorem fits_partsOf (hb : FitReader below) (tupleItems : TupleItems) (kind : NodeKind)
    (schema : Members) (path : String) :
    (partsOf below tupleItems kind schema path).value.Fits ∧
      ((partsOf below tupleItems kind schema path).value.children ≠ [] →
        isContainer kind .child = true) := by
  cases kind with
  | object => exact ⟨fits_objectParts hb schema path, fun _ => rfl⟩
  | array => exact ⟨fun o ho => fits_arrayItem hb (Option.mem_toList.1 ho), fun _ => rfl⟩
  | string | number | boolean | enum | group _ | definition | reference =>
    exact ⟨fun o ho => absurd ho List.not_mem_nil, fun hne => absurd rfl hne⟩

theorem fits_typed (hb : FitReader below) (tupleItems : TupleItems) (inner : Inner)
    (schema : Members) : (typed below tupleItems inner schema).value.Fits := by
  rw [typed_eq, Noted.value_bind]
  have hk := inferKind_ne_definition schema inner.path
  generalize (inferKind schema inner.path).value = kind at hk ⊢
  obtain ⟨hfits, hholds⟩ := fits_partsOf hb tupleItems kind schema inner.path
  simp only [Noted.value_bind, Noted.value_pure]
  generalize (partsOf below tupleItems kind schema inner.path).value = parts at hfits hholds ⊢
  have hbody := body_nodeOf inner.key (Body.ofFragment kind schema) schema
    (("type" :: Body.vocabulary kind) ++ parts.consumed) parts.kept inner.required inner.path
  have hkind := congrArg Body.kind hbody
  rw [Body.kind_ofFragment] at hkind
  refine fits_of_children ?_ ?_ ?_ hfits
  · rw [Node.kind, hkind]
    exact hk
  · rw [Node.clauses, hbody, clauses_ofFragment]
  · rw [Node.kind, hkind]
    exact hholds

theorem fits_pointing (names : List String) (inner : Inner) (schema : Members) :
    (pointing names inner schema).value.Fits := by
  refine .mk ?_ (by simp) (fun c hc => ?_) (by simp)
  · rw [Node.kind, body_nodeOf]
    simp [Body.kind]
  · rw [Node.clauses, body_nodeOf] at hc
    simp [Body.clauses] at hc

theorem fits_schema (hb : FitReader below) (tupleItems : TupleItems) (names : List String) :
    FitReader (schema below tupleItems names) := by
  intro inner o h
  unfold schema at h
  split at h
  · next members _ =>
    split at h
    · obtain rfl := Option.some.inj h
      exact fits_group hb _ _ _ _
    · split_ifs at h
      · obtain rfl := Option.some.inj h
        exact fits_pointing names inner members
      · obtain rfl := Option.some.inj h
        exact fits_typed hb tupleItems inner members
  · simp at h

theorem fits_reader (tupleItems : TupleItems) (names : List String) (depth : Nat) :
    FitReader (reader tupleItems names depth) := by
  induction depth with
  | zero => exact fun inner o h => by simp [reader] at h
  | succ depth ih => exact fits_schema ih tupleItems names

/-! ## Whole documents -/

theorem name_definitionOf (below : Reader) (entry : String × Value) :
    (definitionOf below entry).value.name = entry.1 := by
  rw [definitionOf_eq]
  rfl

theorem fits_definitionOf (hb : FitReader below) {entry : String × Value} {o : Outline}
    (h : (definitionOf below entry).value.content = some o) : o.Fits := by
  rw [definitionOf_eq] at h
  have hc : (definitionContent below entry).value = some o := h
  unfold definitionContent at hc
  split_ifs at hc
  exact hb _ o hc

/-- The outline of a document whose definitions have different names fits. -/
theorem fits_outline (tupleItems : TupleItems) {document : Members}
    (hn : (Entries.names (definitionTable document).value).Nodup) :
    (outline tupleItems document).value.Fits := by
  rw [outline_eq]
  simp only [Noted.value_bind, Noted.value_pure, Noted.value_mapM]
  generalize (definitionTable document).value = table at hn ⊢
  have hb := fits_reader tupleItems (Entries.names table) (Value.obj document).depth
  generalize reader tupleItems (Entries.names table) (Value.obj document).depth = below at hb ⊢
  have hparts := fits_objectParts hb document "#"
  generalize (objectParts below document "#").value = parts at hparts ⊢
  have hbody := body_nodeOf rootName (Body.ofFragment .object document) document
    (rootKeywords ++ parts.consumed) parts.kept false "#"
  have hkind := congrArg Body.kind hbody
  rw [Body.kind_ofFragment] at hkind
  refine ⟨fits_of_children ?_ ?_ (fun _ => ?_) hparts, hkind, ?_, ?_⟩
  · rw [Node.kind, hkind]
    simp
  · rw [Node.clauses, hbody, clauses_ofFragment]
  · rw [Node.kind, hkind]
    rfl
  · intro e he o ho
    obtain ⟨entry, _, rfl⟩ := List.mem_map.1 he
    exact fits_definitionOf hb ho
  · rw [List.map_map]
    simp only [Function.comp_def, name_definitionOf]
    exact hn

end Decompile

end FormGraph

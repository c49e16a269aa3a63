import FormGraph.Proofs.Reading.Traverse

/-!
# What is read calmly is tidy

Beyond fitting, an outline that was read without an issue is tidy: the children of a node have
different keys, an array has one item at most, a reference points at one of the definitions, and the
clauses of an `if` block share their branches. Keys are the reason why the schemas have to be proper:
two properties of one name would be two children of one key.
-/

namespace FormGraph

/-! ## Tidy outlines -/

namespace Outline

/-- The keys of the children among what hangs below a node. -/
def childKeys (bs : List (EdgeKind × Outline)) : List String :=
  (bs.filter fun b => b.1 = .child).map fun b => b.2.node.key

/-- Nothing in the outline is what a check of the graph would complain about, where `names` are the
definitions that there are. -/
inductive Tidy (names : List String) : Outline → Prop where
  | mk {n : Node Nat} {bs : List (EdgeKind × Outline)} (keys : (childKeys bs).Nodup)
    (single : n.kind = .array → bs.length ≤ 1)
    (target : ∀ v, n.target? = some v → ∃ name ∈ names, v = .str name)
    (block : n.kind = .group .ifBlock → ∀ c ∈ n.clauses, ∀ d ∈ n.clauses, c.branches = d.branches)
    (below : ∀ b ∈ bs, Tidy names b.2) : Tidy names (.mk n bs)

variable {names : List String}

theorem Tidy.hanging {o : Outline} (h : o.Tidy names) : ∀ b ∈ o.hanging, b.2.Tidy names := by
  cases h with
  | mk _ _ _ _ below => exact below

theorem childKeys_children (os : List Outline) :
    childKeys (os.map fun o => (.child, o)) = os.map fun o => o.node.key := by
  unfold childKeys
  rw [List.filter_eq_self.2, List.map_map]
  · rfl
  · intro b hb
    obtain ⟨o, _, rfl⟩ := List.mem_map.1 hb
    rfl

theorem childKeys_branches {bs : List (EdgeKind × Outline)} (h : ∀ b ∈ bs, b.1.isBranch = true) :
    childKeys bs = [] := by
  unfold childKeys
  rw [List.filter_eq_nil_iff.2, List.map_nil]
  intro b hb hchild
  rw [decide_eq_true_eq] at hchild
  have hbranch := h b hb
  rw [hchild] at hbranch
  cases hbranch

/-- A node without clauses is tidy when its children are, and their keys differ. -/
theorem Tidy.of_children {n : Node Nat} {children : List Outline}
    (hkeys : (children.map fun o => o.node.key).Nodup)
    (hsingle : n.kind = .array → children.length ≤ 1)
    (htarget : ∀ v, n.target? = some v → ∃ name ∈ names, v = .str name) (hclauses : n.clauses = [])
    (hchildren : ∀ o ∈ children, o.Tidy names) :
    (Outline.mk n (children.map fun o => (.child, o))).Tidy names := by
  refine .mk ?_ (fun hk => ?_) htarget (fun _ c hc => ?_) fun b hb => ?_
  · rw [childKeys_children]
    exact hkeys
  · rw [List.length_map]
    exact hsingle hk
  · rw [hclauses] at hc
    simp at hc
  · obtain ⟨o, ho, rfl⟩ := List.mem_map.1 hb
    exact hchildren o ho

end Outline

/-- Nothing in the outlines of a document is what a check of its graph would complain about. -/
structure DocumentOutline.Tidy (d : DocumentOutline) : Prop where
  /-- The root is tidy. -/
  root : d.root.Tidy (d.definitions.map (·.name))
  /-- The contents of the definitions are tidy. -/
  content : ∀ e ∈ d.definitions, ∀ o, e.content = some o → o.Tidy (d.definitions.map (·.name))

namespace Decompile

open Reading

variable {below : Reader} {names : List String}

/-- The clauses of an `if` block share their branches. -/
theorem branches_blockOf (below : Reader) (block : Members) (path : String) :
    ∀ c ∈ (blockOf below block path).value.clauses,
      ∀ d ∈ (blockOf below block path).value.clauses, c.branches = d.branches := by
  unfold blockOf
  simp only [Noted.value_bind]
  intro c hc d hd
  obtain ⟨_, _, rfl⟩ := List.mem_map.1 hc
  obtain ⟨_, _, rfl⟩ := List.mem_map.1 hd
  rfl

theorem tidy_group (hb : ReadsOnly (Outline.Tidy names) below) :
    GroupsOnly (Outline.Tidy names) below := by
  intro kind schema taken path hp _ hc
  rw [group_eq] at hc ⊢
  have hparts := groupParts_holds hb hp (Noted.calm_bind_iff.1 hc).1
  simp only [Noted.value_bind, Noted.value_pure]
  generalize hn : (nodeOf (groupKey kind schema taken)
    (.group kind (groupParts below kind schema path).value.clauses) schema (groupKeywords kind) []
    false path).value = n
  have hbody : n.body = .group kind (groupParts below kind schema path).value.clauses := by
    rw [← hn, body_nodeOf]
  refine .mk ?_ (fun hk => ?_) (fun v hv => ?_) (fun hk => ?_) fun b hb => (hparts b hb).2
  · rw [Outline.childKeys_branches fun b hb => (hparts b hb).1]
    exact List.nodup_nil
  · rw [Node.kind, hbody] at hk
    cases hk
  · rw [Node.target?, hbody] at hv
    cases hv
  · rw [Node.kind, hbody] at hk
    rw [Node.clauses, hbody]
    cases hk
    exact branches_blockOf below schema path

theorem inferKind_ne_reference (schema : Members) (path : String) :
    (inferKind schema path).value ≠ .reference := by
  rw [inferKind_eq]
  split
  · simp
  · rw [Noted.value_bind]
    generalize (declaredType schema path).value = declared
    unfold kindOfDeclared
    split
    · rw [Noted.value_pure]
      split <;> simp
    · split
      · next h =>
        intro heq
        rw [Noted.value_pure] at heq
        subst heq
        unfold kindOfType? at h
        split at h <;> cases h
      · simp
    · simp

theorem target?_eq_none {n : Node Nat} (h : n.kind ≠ .reference) : n.target? = none := by
  obtain ⟨_, body, _, _, _, _, _, _, _⟩ := n
  cases body with
  | reference target => exact absurd rfl h
  | string _ | number _ | boolean | enum _ | object _ | array _ | group _ _ | definition _ => rfl

/-- An array has one item at most. -/
theorem length_children_partsOf (below : Reader) (tupleItems : TupleItems) (schema : Members)
    (path : String) :
    (partsOf below tupleItems .array schema path).value.children.length ≤ 1 := by
  show (arrayItem below tupleItems schema path).value.toList.length ≤ 1
  cases (arrayItem below tupleItems schema path).value with
  | none => exact Nat.zero_le _
  | some o => exact Nat.le_refl _

theorem tidy_typed (hb : ReadsOnly (Outline.Tidy names) below) (hf : FieldReader below)
    {tupleItems : TupleItems} {inner : Inner} {schema : Members} (hp : (Value.obj schema).Proper)
    (hc : (typed below tupleItems inner schema).Calm) :
    (typed below tupleItems inner schema).value.Tidy names := by
  rw [typed_eq, Noted.calm_bind_iff] at hc
  rw [typed_eq, Noted.value_bind]
  have hk := inferKind_ne_reference schema inner.path
  generalize (inferKind schema inner.path).value = kind at hk hc ⊢
  simp only [Noted.calm_bind_iff] at hc
  have hchildren := partsOf_holds hb (tidy_group hb) hp hc.2.2.1
  have hkeys := keys_partsOf hf tupleItems kind hp inner.path
  have hsingle : kind = .array →
      (partsOf below tupleItems kind schema inner.path).value.children.length ≤ 1 := by
    rintro rfl
    exact length_children_partsOf below tupleItems schema inner.path
  simp only [Noted.value_bind, Noted.value_pure]
  generalize (partsOf below tupleItems kind schema inner.path).value = parts
    at hchildren hkeys hsingle ⊢
  have hbody := body_nodeOf inner.key (Body.ofFragment kind schema) schema
    (("type" :: Body.vocabulary kind) ++ parts.consumed) parts.kept inner.required inner.path
  have hkind := congrArg Body.kind hbody
  rw [Body.kind_ofFragment] at hkind
  refine .of_children hkeys (fun h => ?_) (fun v hv => ?_) ?_ hchildren
  · exact hsingle (hkind.symm.trans h)
  · rw [target?_eq_none (by rw [Node.kind, hkind]; exact hk)] at hv
    cases hv
  · rw [Node.clauses, hbody, clauses_ofFragment]

/-- A pointer that was read calmly points at one of the definitions. -/
theorem targetOf_mem {pointer : Value} {path : String} (hc : (targetOf names pointer path).Calm) :
    (targetOf names pointer path).value ∈ names := by
  cases pointer with
  | str p =>
    unfold targetOf at hc ⊢
    dsimp only at hc ⊢
    split
    · next hfront =>
      rw [if_pos hfront] at hc
      split
      · next hname => simpa using hname
      · next hname =>
        rw [if_neg hname] at hc
        exact absurd hc (Noted.not_calm_issue_bind _ _)
    · next hfront =>
      rw [if_neg hfront] at hc
      exact absurd hc (Noted.not_calm_issue_bind _ _)
  | null | bool _ | int _ | float _ | list _ | obj _ =>
    exact absurd hc (Noted.not_calm_issue_bind _ _)

theorem tidy_pointing {inner : Inner} {schema : Members} (hc : (pointing names inner schema).Calm) :
    (pointing names inner schema).value.Tidy names := by
  unfold pointing at hc ⊢
  have hmem := targetOf_mem (Noted.calm_bind_iff.1 hc).1
  rw [Noted.value_bind]
  generalize (targetOf names (Value.member schema "$ref") inner.path).value = target at hmem ⊢
  refine .mk List.nodup_nil (fun _ => Nat.zero_le _) (fun v hv => ?_) (fun hk => ?_) (by simp)
  · have htarget : Node.target? (nodeOf inner.key (.reference (.str target)) schema ["$ref"] []
        inner.required inner.path).value = some (.str target) := rfl
    rw [htarget] at hv
    exact ⟨target, hmem, (Option.some.inj hv).symm⟩
  · cases hk

theorem tidy_reader (tupleItems : TupleItems) (names : List String) (depth : Nat) :
    ReadsOnly (Outline.Tidy names) (reader tupleItems names depth) := by
  induction depth with
  | zero => exact fun inner o _ _ h => by simp [reader] at h
  | succ depth ih =>
    exact schema_holds (tidy_group ih) (fun _ _ hc _ => tidy_pointing hc)
      fun _ _ hc hp _ => tidy_typed ih (fieldReader_reader tupleItems names depth) hp hc

/-- The outline of a document that was read calmly is tidy. -/
theorem tidy_outline (tupleItems : TupleItems) {document : Members}
    (hp : (Value.obj document).Proper) (hc : (outline tupleItems document).Calm) :
    (outline tupleItems document).value.Tidy := by
  have hb := tidy_reader tupleItems (Entries.names (definitionTable document).value)
    (Value.obj document).depth
  have hf := fieldReader_reader tupleItems (Entries.names (definitionTable document).value)
    (Value.obj document).depth
  refine ⟨?_, ?_⟩ <;> rw [names_outline]
  · rw [outline_eq] at hc ⊢
    simp only [Noted.value_bind, Noted.value_pure, Noted.calm_bind_iff] at hc ⊢
    refine .of_children (keys_objectParts hf hp "#") (fun h => by cases h) (fun v hv => by cases hv)
      rfl ?_
    exact objectParts_holds hb (tidy_group hb) hp hc.2.2.2.1
  · exact contents_hold hp hc hb

end Decompile

end FormGraph

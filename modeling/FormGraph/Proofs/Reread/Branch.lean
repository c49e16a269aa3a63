import FormGraph.Proofs.Reread.Kind

/-!
# Reading a branch back

`Reads` says that a reader reads a written outline back wherever it can stand. Of a branch it follows
that it is read back as one: under its key when it is a field, and as it is otherwise.
-/

namespace FormGraph

open Noted

namespace Outline

open Compile Decompile

variable {cfg : DocumentConfig}

/-- An outline as a clause writes it. -/
def asBranch (cfg : DocumentConfig) (o : Outline) : Value := wrapped o.node (o.written cfg)

/-- What an outline says as a branch. -/
def sayAsBranch (o : Outline) : Value :=
  o.description.value (if o.node.isAddressable then some (o.node.key, o.node.required) else none)

theorem branchAt_eq (cfg : DocumentConfig) (bs : List (EdgeKind × Outline)) (i : Option Nat) :
    branchAt (parts cfg bs) i = (i.bind fun i => bs[i]?).map fun b => b.2.asBranch cfg := by
  unfold branchAt
  rw [parts_eq]
  cases i with
  | none => rfl
  | some i =>
    simp only [Option.bind_some, List.getElem?_map, Option.map_map]
    rfl

theorem sayBranch_eq (bs : List (EdgeKind × Outline)) (i : Option Nat) :
    sayBranch (sayings bs) i =
      ((i.bind fun i => bs[i]?).map fun b => b.2.sayAsBranch).getD .null := by
  unfold sayBranch
  rw [sayings_eq]
  cases i with
  | none => rfl
  | some i =>
    simp only [Option.bind_some, List.getElem?_map]
    cases bs[i]? <;> rfl

/-! ## Readers -/

/-- The written form is read back wherever it can stand, with the key and the required mark of where
it stands. -/
def Reads (below : Reader) (cfg : DocumentConfig) (o : Outline) : Prop :=
  ∀ inner : Inner, inner.schema = o.written cfg →
    (o.node.kind.isGroup = true → inner.role = .content) → (inner.role = .content → o.Bare) →
    ∃ o', (below inner).Yields (some o') ∧ Mirrors cfg o o' ∧
      (o.node.kind.isGroup = false → o'.node.key = inner.key ∧ o'.node.required = inner.required)

/-- The written form of a group is read back with any keys taken. -/
def ReadsGroup (below : Reader) (cfg : DocumentConfig) (o : Outline) : Prop :=
  ∀ kind clauses, o.node.body = .group kind clauses → ∀ ms, o.written cfg = .obj ms →
    ∀ taken path, ∃ o', (group below kind ms taken path).Yields o' ∧ Mirrors cfg o o'

/-- One outline is written as part of what another is written as, and so are its pointers. -/
structure PartOf (cfg : DocumentConfig) (o whole : Outline) : Prop where
  /-- What is written of it stands inside what is written of the whole. -/
  inside : (o.written cfg).Inside (whole.written cfg)
  /-- What its pointers point at, those of the whole point at. -/
  references : o.references ⊆ whole.references

/-- What a branch is read back as is written alike and, where it is clean, says the same. -/
structure BranchMirrors (cfg : DocumentConfig) (o o' : Outline) : Prop where
  /-- It is written alike. -/
  alike : (o.asBranch cfg).Proper → Value.Alike (o.asBranch cfg) (o'.asBranch cfg)
  /-- It says the same. -/
  said : o.Clean cfg → o'.sayAsBranch = o.sayAsBranch

theorem isAddressable_eq {o o' : Outline} (h : o'.node.kind = o.node.kind) :
    o'.node.isAddressable = o.node.isAddressable := by
  rw [Node.isAddressable, Node.isAddressable, h]

theorem alike_single {name : String} {v w : Value} {more : Members} (h : Value.Alike v w) :
    Value.Alike (.obj ((name, v) :: more)) (.obj ((name, w) :: more)) := by
  rw [Value.alike_obj_iff]
  intro k
  rw [Entries.find?_cons, Entries.find?_cons]
  split
  · exact h
  · exact Value.AlikeAt.refl _

theorem Mirrors.branch {o o' : Outline} (h : Mirrors cfg o o')
    (hkey : o.node.isAddressable = true →
      o'.node.key = o.node.key ∧ o'.node.required = o.node.required) : BranchMirrors cfg o o' := by
  by_cases ha : o.node.isAddressable = true
  · have ha' := (isAddressable_eq h.kind).trans ha
    obtain ⟨hk, hr⟩ := hkey ha
    refine ⟨fun hp => ?_, fun hc => ?_⟩
    · unfold asBranch wrapped at hp ⊢
      rw [if_pos ha] at hp ⊢
      rw [if_pos ha', hk, hr]
      refine alike_single (alike_single (h.alike ?_))
      exact (hp.of_find? (Entries.find?_cons _ _ _ _ ▸ if_pos rfl)).of_find?
        (Entries.find?_cons _ _ _ _ ▸ if_pos rfl)
    · unfold sayAsBranch
      rw [if_pos ha, if_pos ha', h.said hc, hk, hr]
  · have ha' : o'.node.isAddressable ≠ true := (isAddressable_eq h.kind).symm ▸ ha
    refine ⟨fun hp => ?_, fun hc => ?_⟩
    · unfold asBranch wrapped at hp ⊢
      rw [if_neg ha] at hp ⊢
      rw [if_neg ha']
      exact h.alike hp
    · unfold sayAsBranch
      rw [if_neg ha, if_neg ha', h.said hc]

/-! ## Branches -/

theorem written_eq (o : Outline) :
    o.written cfg = .obj (members cfg o.node (parts cfg o.hanging)) := by
  obtain ⟨n, bs⟩ := o
  rfl

theorem branchInner_wrapped {key : String} {required : Bool} {v : Value}
    (h : isWrappable v = true) (kind : EdgeKind) (path : String) :
    branchInner (("properties", .obj [(key, v)]) ::
        if required then [("required", .list [.str key])] else []) kind path =
      { role := .field, schema := v, key := key, required := required,
        path := path ++ "/properties/" ++ key } := by
  unfold branchInner
  cases required <;> simp [Entries.names, Value.member, h]

theorem branchInner_of_mem {ms : Members} {k : String} (hk : k ∈ Entries.names ms)
    (hp : k ≠ "properties") (hr : k ≠ "required") (kind : EdgeKind) (path : String) :
    branchInner ms kind path =
      { role := .content, schema := .obj ms, key := Key.derive (titleOf ms) kind.name,
        path := path } := by
  unfold branchInner
  dsimp only
  rw [if_neg]
  intro h
  rw [List.all_eq_true] at h
  have := h k hk
  simp [hp, hr] at this

theorem inner_group {n : Node Nat} {parts : List Part} {kind : GroupKind}
    {clauses : List (Clause Nat)} (hb : n.body = .group kind clauses) :
    inner cfg n parts = groupMembers cfg kind clauses parts := by
  unfold inner
  rw [hb]

theorem groupMembers_of_ne {kind : GroupKind} {clauses : List (Clause Nat)} {parts : List Part}
    (hk : kind ≠ .ifBlock) : groupMembers cfg kind clauses parts =
      [(kind.name, .list (clauses.map fun c => .obj (clauseMembers cfg kind parts c)))] := by
  cases kind with
  | ifBlock => exact absurd rfl hk
  | allOf | anyOf | oneOf => rfl

theorem Readable.kind_ne_definition {names : List String} {o : Outline} (h : o.Readable names) :
    o.node.kind ≠ .definition := by
  obtain ⟨_, _, hown, _⟩ := h
  intro hd
  unfold OwnReads at hown
  rw [node] at hd
  unfold Node.kind at hd
  split at hown
  · next hb => simp [hb, Body.kind] at hd
  · next hb => simp [hb, Body.kind] at hd
  · next hb => simp [hb, Body.kind] at hd
  · next hb => simp [hb, Body.kind] at hd
  · exact hown
  · next hnot =>
    cases hb : (_ : Node Nat).body with
    | definition name => exact hnot name hb
    | string _ | number _ | boolean | enum _ | object _ | array _ | group _ _ | reference _ =>
      rw [hb] at hd
      simp [Body.kind] at hd

/-- A keyword of what no branch lists as its one property. -/
theorem exists_name_of_not_isAddressable {n : Node Nat} {parts : List Part}
    (hl : Labelled n (reserved n.kind)) (hd : n.kind ≠ .definition)
    (ha : n.isAddressable ≠ true) : ∃ k ∈ Entries.names (members cfg n parts),
      k ≠ "properties" ∧ k ≠ "required" ∧ k ≠ "not" := by
  have hmem : ∀ {k : String} {v : Value}, Entries.find? (members cfg n parts) k = some v →
      k ∈ Entries.names (members cfg n parts) := fun h => by
    rw [Entries.mem_names_iff, h]
    rfl
  unfold Node.isAddressable Node.kind at ha
  cases hb : n.body with
  | object _ =>
    have htyped : n.kind.isTyped = true := by
      rw [Node.kind, hb]
      rfl
    exact ⟨"type", hmem (find?_members_type (hl.free_type htyped) htyped), by decide⟩
  | reference _ => exact ⟨"$ref", hmem (find?_members_pointer hl hb), by decide⟩
  | group kind clauses =>
    have hinner : ∀ {k}, k ∈ Entries.names (groupMembers cfg kind clauses parts) →
        k ∈ Entries.names (members cfg n parts) := fun h => by
      rw [Entries.mem_names_iff] at h ⊢
      rw [find?_members, inner_group hb, Option.isSome_or, Option.isSome_or, h]
      rfl
    by_cases hk : kind = .ifBlock
    · subst hk
      refine ⟨"if", hinner ?_, by decide⟩
      unfold groupMembers blockMembers
      cases clauses <;> exact List.mem_cons_self
    · refine ⟨kind.name, hinner ?_, by cases kind <;> decide⟩
      rw [groupMembers_of_ne hk]
      exact List.mem_singleton_self _
  | definition _ => exact absurd (by rw [Node.kind, hb]; rfl) hd
  | string _ | number _ | boolean | enum _ | array _ =>
    rw [hb] at ha
    exact absurd rfl ha

/-- A branch is read back as one. -/
theorem branch_yields {names : List String} {o : Outline} {below : Reader}
    (hr : o.Readable names) (hb : o.Bare) (h : Reads below cfg o) (kind : EdgeKind)
    (path : String) :
    ∃ o', (branch below (o.asBranch cfg) kind path).Yields (some o') ∧ BranchMirrors cfg o o' := by
  have hd := hr.kind_ne_definition
  obtain ⟨n, bs⟩ := o
  obtain ⟨hl, ht, _, _⟩ := hr
  by_cases ha : n.isAddressable = true
  · have hg : n.kind.isGroup = false := by
      unfold Node.isAddressable at ha
      generalize n.kind = k at ha
      cases k with
      | group _ => simp [NodeKind.isAddressable] at ha
      | string | number | boolean | enum | object | array | definition | reference => rfl
    obtain ⟨o', ho', hm, hkey⟩ := h
      { role := .field, schema := written cfg (mk n bs), key := n.key, required := n.required,
        path := path ++ "/properties/" ++ n.key } rfl
      (fun h => absurd (hg.symm.trans h) (by decide)) (fun h => by cases h)
    refine ⟨o', ?_, hm.branch fun _ => hkey hg⟩
    unfold asBranch wrapped Decompile.branch
    rw [node, if_pos ha]
    dsimp only
    rw [branchInner_wrapped (v := written cfg (mk n bs)) (isWrappable_members hl ha ht)]
    exact ho'
  · obtain ⟨k, hk, hp, hreq, _⟩ := exists_name_of_not_isAddressable hl hd ha
    obtain ⟨o', ho', hm, _⟩ := h
      { role := .content, schema := written cfg (mk n bs),
        key := Key.derive (titleOf (members cfg n (parts cfg bs))) kind.name, path := path } rfl
      (fun _ => rfl) (fun _ => hb)
    refine ⟨o', ?_, hm.branch fun h => absurd h ha⟩
    unfold asBranch wrapped Decompile.branch
    rw [node, if_neg ha, written]
    dsimp only
    rw [branchInner_of_mem hk hp hreq]
    exact ho'

theorem names_subset_of_sameMembers {as bs : Members} (h : Value.sameMembers as bs = true) :
    ∀ k ∈ Entries.names as, k ∈ Entries.names bs := by
  induction as with
  | nil => simp [Entries.names]
  | cons a as ih =>
    obtain ⟨name, v⟩ := a
    rw [Value.sameMembers, Bool.and_eq_true] at h
    intro k hk
    rcases List.mem_cons.1 hk with rfl | hk
    · rw [Entries.mem_names_iff]
      cases hfind : Entries.find? bs k with
      | none => simp [hfind] at h
      | some w => rfl
    · exact ih h.2 k hk

/-- A branch that is written is not the one that no value satisfies. -/
theorem same_failingBranch {names : List String} {o : Outline} (hr : o.Readable names) :
    (o.asBranch cfg).same failingBranch = false := by
  have hname : ∀ {ms : Members} {k : String}, k ∈ Entries.names ms → k ≠ "not" →
      (Value.obj ms).same failingBranch = false := by
    intro ms k hk hne
    rw [Bool.eq_false_iff]
    intro h
    unfold failingBranch at h
    rw [Value.same, Bool.and_eq_true] at h
    exact hne (List.mem_singleton.1 (names_subset_of_sameMembers h.2 k hk))
  have hd := hr.kind_ne_definition
  obtain ⟨n, bs⟩ := o
  obtain ⟨hl, _, _, _⟩ := hr
  unfold asBranch wrapped
  rw [node]
  by_cases ha : n.isAddressable = true
  · rw [if_pos ha]
    exact hname (k := "properties") List.mem_cons_self (by decide)
  · obtain ⟨k, hk, _, _, hnot⟩ := exists_name_of_not_isAddressable hl hd ha
    rw [if_neg ha, written]
    exact hname hk hnot

end Outline

end FormGraph

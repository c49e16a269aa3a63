import FormGraph.Graph.Signature
import FormGraph.Proofs.Outcome

/-!
# What a description determines

Two nodes with the same description, in one graph or in two, agree in all that a document is made of:
their kind, texts, default, attributes and extras, their key and required mark where the position
carries them, the conditions of their clauses, and the descriptions of what hangs below them
(`Signature.agree_of_describe`). What they do not need to agree in is what the document does not carry.
-/

namespace FormGraph

/-! ## Names -/

theorem NodeKind.name_injective {k l : NodeKind} (h : k.name = l.name) : k = l := by
  cases k <;> cases l <;> first
    | rfl
    | (rename_i a b; revert h; cases a <;> cases b <;> decide)
    | (rename_i a; revert h; cases a <;> decide)
    | (revert h; decide)

theorem Operator.name_injective {o p : Operator} (h : o.name = p.name) : o = p := by
  revert h
  cases o <;> cases p <;> decide

theorem Condition.eq_of_toMembers {c d : Condition} (h : c.toMembers = d.toMembers) : c = d := by
  simp only [toMembers, List.cons.injEq, Prod.mk.injEq, Value.str.injEq, true_and, and_true] at h
  exact Condition.ext h.1 (Operator.name_injective h.2.1) h.2.2

/-! ## Attributes -/

section Attributes

variable {σ : Type}

/-- Rows with different names determine what is in them, also what is left out. -/
theorem Attribute.get_eq_of_rows {a b : σ} (fields : List (Attribute σ))
    (names : (fields.map (·.name)).Nodup)
    (h : ((fields.map fun f => (f.name, f.get a)).filter fun r => !r.2.isNull) =
      (fields.map fun f => (f.name, f.get b)).filter fun r => !r.2.isNull) :
    ∀ f ∈ fields, f.get a = f.get b := by
  induction fields with
  | nil => exact fun _ hf => absurd hf List.not_mem_nil
  | cons f fields ih =>
    rw [List.map_cons, List.nodup_cons] at names
    have hother : ∀ (c : σ) (v : Value),
        (f.name, v) ∉ (fields.map fun f => (f.name, f.get c)).filter fun r => !r.2.isNull := by
      intro c v hmem
      obtain ⟨f', hf', heq⟩ := List.mem_map.1 (List.mem_filter.1 hmem).1
      exact names.1 (List.mem_map.2 ⟨f', hf', congrArg Prod.fst heq⟩)
    have hnull : ∀ {v : Value}, v.isNull = true → v = .null := by
      intro v hv
      cases v <;> first | rfl | cases hv
    rw [List.map_cons, List.map_cons, List.filter_cons, List.filter_cons] at h
    cases ha : (f.get a).isNull with
    | true =>
      cases hb : (f.get b).isNull with
      | true =>
        simp only [ha, hb, Bool.not_true, Bool.false_eq_true, if_false] at h
        exact List.forall_mem_cons.2 ⟨(hnull ha).trans (hnull hb).symm, ih names.2 h⟩
      | false =>
        simp only [ha, hb, Bool.not_true, Bool.not_false, Bool.false_eq_true, if_false,
          if_true] at h
        exact absurd (h ▸ List.mem_cons_self) (hother a (f.get b))
    | false =>
      cases hb : (f.get b).isNull with
      | true =>
        simp only [ha, hb, Bool.not_true, Bool.not_false, Bool.false_eq_true, if_false,
          if_true] at h
        exact absurd (h ▸ List.mem_cons_self) (hother b (f.get a))
      | false =>
        simp only [ha, hb, Bool.not_false, if_true, List.cons.injEq, Prod.mk.injEq,
          true_and] at h
        exact List.forall_mem_cons.2 ⟨h.1, ih names.2 h.2⟩

/-- A value in a row, or no row where the value is null, determines the value. -/
theorem eq_of_loneRow {name : String} {v w : Value}
    (h : (if v.isNull then [] else [(name, v)] : Members) = if w.isNull then [] else [(name, w)]) :
    v = w := by
  cases v <;> cases w <;> simp_all [Value.isNull]

end Attributes

/-- Bodies that are no groups are determined by their kind and their attributes. -/
theorem Body.eq_of_rows {ρ : Type} {b c : Body ρ} {show₁ show₂ : Clause ρ → Value}
    (hkind : b.kind = c.kind) (hgroup : b.kind.isGroup = false) (h : b.rows show₁ = c.rows show₂) :
    b = c := by
  cases b with
  | string a =>
    cases c with
    | string a' =>
      have hget := Attribute.get_eq_of_rows StringAttributes.set.fields (by decide) h
      obtain ⟨_, _, _, _⟩ := a
      obtain ⟨_, _, _, _⟩ := a'
      simpa [StringAttributes.set] using hget
    | _ => cases hkind
  | number a =>
    cases c with
    | number a' =>
      have hget := Attribute.get_eq_of_rows NumberAttributes.set.fields (by decide) h
      obtain ⟨_, _, _, _, _⟩ := a
      obtain ⟨_, _, _, _, _⟩ := a'
      simpa [NumberAttributes.set] using hget
    | _ => cases hkind
  | boolean =>
    cases c with
    | boolean => rfl
    | _ => cases hkind
  | enum a =>
    cases c with
    | enum a' =>
      have hget := Attribute.get_eq_of_rows EnumAttributes.set.fields (by decide) h
      obtain ⟨_, _, _⟩ := a
      obtain ⟨_, _, _⟩ := a'
      simpa [EnumAttributes.set] using hget
    | _ => cases hkind
  | object a =>
    cases c with
    | object a' =>
      have hget := Attribute.get_eq_of_rows ObjectAttributes.set.fields (by decide) h
      obtain ⟨_, _, _⟩ := a
      obtain ⟨_, _, _⟩ := a'
      simpa [ObjectAttributes.set] using hget
    | _ => cases hkind
  | array a =>
    cases c with
    | array a' =>
      have hget := Attribute.get_eq_of_rows ArrayAttributes.set.fields (by decide) h
      obtain ⟨_, _, _, _⟩ := a
      obtain ⟨_, _, _, _⟩ := a'
      simpa [ArrayAttributes.set] using hget
    | _ => cases hkind
  | group k cs => simp [Body.kind, NodeKind.isGroup] at hgroup
  | definition name =>
    cases c with
    | definition name' => rw [eq_of_loneRow h]
    | _ => cases hkind
  | reference target =>
    cases c with
    | reference target' => rw [eq_of_loneRow h]
    | _ => cases hkind

/-! ## Descriptions -/

namespace Signature

open Graph

/-- Both descriptions are there, and they are the same. -/
def Same {γ : Type} (x y : Except Fault γ) : Prop := ∃ v, x = .ok v ∧ y = .ok v

/-- Lists that are described by the same list are described alike item by item. -/
theorem forall₂_same {α β γ : Type} {f : α → Except Fault γ} {f' : β → Except Fault γ}
    {as : List α} {bs : List β} {vs : List γ} (h : as.mapM f = .ok vs)
    (h' : bs.mapM f' = .ok vs) : List.Forall₂ (fun a b => Same (f a) (f' b)) as bs := by
  rw [mapM_eq_ok_iff] at h h'
  induction h generalizing bs with
  | nil =>
    cases h'
    exact .nil
  | cons hv _ ih =>
    cases h' with
    | cons hv' h' => exact .cons ⟨_, hv, hv'⟩ (ih h')

variable {g g' : Graph} {below below' : View → NodeId → Except Fault Value} {id id' : NodeId}
  {n n' : Node NodeId}

/-- What a description consists of, without the widget. -/
theorem describe_ok {addressable : Bool} {v : Value} (hn : g.node? id = some n)
    (h : describe g below ⟨addressable, false⟩ id = .ok v) :
    ∃ own inner, contents g below false id n = .ok inner ∧
      (n.kind.isGroup = true → ∃ cs, n.clauses.mapM (clause g below false) = .ok cs ∧
        own = ("clauses", .list cs)) ∧
      (n.kind.isGroup = false → own = ("attrs", Value.obj (n.body.rows Clause.toValue))) ∧
      v = .obj ([("kind", .str n.kind.name), ("title", n.title), ("description", n.description),
          ("extras", .obj n.extras)] ++ n.default.toList.map (fun v => ("default", v)) ++
        (if addressable then [("key", .str n.key), ("required", .bool n.required)] else []) ++
        own :: inner) := by
  unfold describe at h
  rw [hn] at h
  dsimp only at h
  cases hg : n.kind.isGroup with
  | true =>
    rw [hg, if_pos rfl, bind_eq_ok_iff] at h
    obtain ⟨cs, hcs, h⟩ := h
    obtain ⟨own, hown, h⟩ := bind_eq_ok_iff.1 h
    obtain rfl := pure_eq_ok_iff.1 hown
    obtain ⟨inner, hinner, h⟩ := bind_eq_ok_iff.1 h
    obtain rfl := pure_eq_ok_iff.1 h
    exact ⟨_, inner, hinner, fun _ => ⟨cs, hcs, rfl⟩, fun h => absurd h (by decide), by simp⟩
  | false =>
    rw [hg, if_neg Bool.false_ne_true, bind_eq_ok_iff] at h
    obtain ⟨own, hown, h⟩ := h
    obtain rfl := pure_eq_ok_iff.1 hown
    obtain ⟨inner, hinner, h⟩ := bind_eq_ok_iff.1 h
    obtain rfl := pure_eq_ok_iff.1 h
    exact ⟨_, inner, hinner, fun h => absurd h (by decide), fun _ => rfl, by simp⟩

/-- Nodes with the same description are of one kind, also where only one of the descriptions has the
key. -/
theorem kind_eq_of_describe {addressable addressable' : Bool} (hn : g.node? id = some n)
    (hn' : g'.node? id' = some n')
    (h : Same (describe g below ⟨addressable, false⟩ id)
      (describe g' below' ⟨addressable', false⟩ id')) : n.kind = n'.kind := by
  obtain ⟨v, hv, hv'⟩ := h
  obtain ⟨_, _, _, _, _, rfl⟩ := describe_ok hn hv
  obtain ⟨_, _, _, _, _, heq⟩ := describe_ok hn' hv'
  simp only [List.cons_append, Value.obj.injEq, List.cons.injEq, Prod.mk.injEq,
    Value.str.injEq] at heq
  exact NodeKind.name_injective heq.1.2

/-- Two nodes agree in all that a document is made of, as far as the descriptions of what is below
them tell. -/
structure Agree (g g' : Graph) (below below' : View → NodeId → Except Fault Value)
    (addressable : Bool) (c c' : NodeId × Node NodeId) : Prop where
  /-- They are of one kind. -/
  kind : c.2.kind = c'.2.kind
  /-- They have the same title. -/
  title : c.2.title = c'.2.title
  /-- They have the same description. -/
  description : c.2.description = c'.2.description
  /-- They have the same extras. -/
  extras : c.2.extras = c'.2.extras
  /-- They have the same default, or both none. -/
  default : c.2.default = c'.2.default
  /-- They have the same key and required mark where the position carries them. -/
  field : addressable = true → c.2.key = c'.2.key ∧ c.2.required = c'.2.required
  /-- Unless they are groups they have the same attributes. -/
  body : c.2.kind.isGroup = false → c.2.body = c'.2.body
  /-- The clauses of groups are described alike. -/
  clauses : c.2.kind.isGroup = true → ∃ cs, c.2.clauses.mapM (clause g below false) = .ok cs ∧
    c'.2.clauses.mapM (clause g' below' false) = .ok cs
  /-- So is what hangs below them. -/
  contents : ∃ inner, Signature.contents g below false c.1 c.2 = .ok inner ∧
    Signature.contents g' below' false c'.1 c'.2 = .ok inner

/-- Nodes with the same description agree in all that a document is made of. -/
theorem agree_of_describe {addressable : Bool} (hn : g.node? id = some n)
    (hn' : g'.node? id' = some n')
    (h : Same (describe g below ⟨addressable, false⟩ id)
      (describe g' below' ⟨addressable, false⟩ id')) :
    Agree g g' below below' addressable (id, n) (id', n') := by
  have hkind := kind_eq_of_describe hn hn' h
  obtain ⟨v, hv, hv'⟩ := h
  obtain ⟨own, inner, hinner, hclauses, hattrs, rfl⟩ := describe_ok hn hv
  obtain ⟨own', inner', hinner', hclauses', hattrs', heq⟩ := describe_ok hn' hv'
  -- the default, the key and the node's own part stand under different names
  have hnames : own.1 = own'.1 ∧ own.1 ≠ "default" ∧ own.1 ≠ "key" := by
    cases hg : n.kind.isGroup with
    | true =>
      obtain ⟨_, _, rfl⟩ := hclauses hg
      obtain ⟨_, _, rfl⟩ := hclauses' (hkind ▸ hg)
      exact ⟨rfl, by simp, by simp⟩
    | false =>
      obtain rfl := hattrs hg
      obtain rfl := hattrs' (hkind ▸ hg)
      exact ⟨rfl, by simp, by simp⟩
  obtain ⟨name, own⟩ := own
  obtain ⟨name', own'⟩ := own'
  dsimp only at hnames
  obtain ⟨rfl, hdefault, hkey⟩ := hnames
  have hparts : n.title = n'.title ∧ n.description = n'.description ∧ n.extras = n'.extras ∧
      n.default = n'.default ∧
      (addressable = true → n.key = n'.key ∧ n.required = n'.required) ∧ own = own' ∧
      inner = inner' := by
    cases hd : n.default <;> cases hd' : n'.default <;> cases addressable <;>
      simp_all [and_assoc]
  obtain ⟨htitle, hdescription, hextras, hdefault, hfield, rfl, rfl⟩ := hparts
  refine ⟨hkind, htitle, hdescription, hextras, hdefault, hfield, fun hg => ?_, fun hg => ?_,
    inner, hinner, hinner'⟩
  · have hrows := (hattrs hg).symm.trans (hattrs' (hkind ▸ hg))
    rw [Prod.mk.injEq, Value.obj.injEq] at hrows
    exact Body.eq_of_rows hkind hg hrows.2
  · obtain ⟨cs, hcs, hown⟩ := hclauses hg
    obtain ⟨cs', hcs', hown'⟩ := hclauses' (hkind ▸ hg)
    have hlists := hown.symm.trans hown'
    rw [Prod.mk.injEq, Value.list.injEq] at hlists
    exact ⟨cs, hcs, hlists.2 ▸ hcs'⟩

/-- The clauses of groups with the same description have the same conditions, and branches with the
same descriptions. -/
theorem Agree.forall₂_clauses {addressable : Bool} {c c' : NodeId × Node NodeId}
    (h : Agree g g' below below' addressable c c') (hg : c.2.kind.isGroup = true) :
    List.Forall₂ (fun e e' => e.condition = e'.condition ∧
      Same (branch g below false e.onTrue) (branch g' below' false e'.onTrue) ∧
      Same (branch g below false e.onFalse) (branch g' below' false e'.onFalse))
      c.2.clauses c'.2.clauses := by
  obtain ⟨cs, hcs, hcs'⟩ := h.clauses hg
  refine (forall₂_same hcs hcs').imp fun e e' hsame => ?_
  obtain ⟨v, hv, hv'⟩ := hsame
  simp only [clause, bind_eq_ok_iff, pure_eq_ok_iff] at hv hv'
  obtain ⟨onTrue, htrue, onFalse, hfalse, rfl⟩ := hv
  obtain ⟨onTrue', htrue', onFalse', hfalse', heq⟩ := hv'
  simp only [Value.obj.injEq, List.cons.injEq, Prod.mk.injEq, true_and, and_true] at heq
  obtain ⟨hcondition, rfl, rfl⟩ := heq
  exact ⟨(Condition.eq_of_toMembers hcondition).symm, ⟨_, htrue, htrue'⟩, _, hfalse, hfalse'⟩

/-- The fields of objects with the same description have the same descriptions, and so do the
groups. -/
theorem Agree.forall₂_children {addressable : Bool} {c c' : NodeId × Node NodeId}
    (h : Agree g g' below below' addressable c c') (hobject : c.2.kind = .object) :
    ∃ cs cs', g.children c.1 = .ok cs ∧ g'.children c'.1 = .ok cs' ∧
      List.Forall₂ (fun f f' => Same (below ⟨true, false⟩ f.1) (below' ⟨true, false⟩ f'.1))
        (cs.filter fun f => !f.2.kind.isGroup) (cs'.filter fun f => !f.2.kind.isGroup) ∧
      List.Forall₂ (fun f f' => Same (below ⟨false, false⟩ f.1) (below' ⟨false, false⟩ f'.1))
        (cs.filter fun f => f.2.kind.isGroup) (cs'.filter fun f => f.2.kind.isGroup) := by
  have hbody := h.body (by rw [hobject]; rfl)
  obtain ⟨a, ha⟩ : ∃ a, c.2.body = .object a := by
    unfold Node.kind at hobject
    cases hb : c.2.body <;> rw [hb] at hobject <;> first | exact ⟨_, rfl⟩ | cases hobject
  obtain ⟨inner, hinner, hinner'⟩ := h.contents
  unfold Signature.contents at hinner hinner'
  rw [ha] at hinner
  rw [← hbody, ha] at hinner'
  simp only [bind_eq_ok_iff, pure_eq_ok_iff] at hinner hinner'
  obtain ⟨cs, hcs, fields, hfields, groups, hgroups, rfl⟩ := hinner
  obtain ⟨cs', hcs', fields', hfields', groups', hgroups', heq⟩ := hinner'
  simp only [List.cons.injEq, Prod.mk.injEq, Value.list.injEq, true_and, and_true] at heq
  obtain ⟨rfl, rfl⟩ := heq
  exact ⟨cs, cs', hcs, hcs', forall₂_same hfields hfields', forall₂_same hgroups hgroups'⟩

/-- The items of arrays with the same description have the same descriptions. -/
theorem Agree.forall₂_items {addressable : Bool} {c c' : NodeId × Node NodeId}
    (h : Agree g g' below below' addressable c c') (harray : c.2.kind = .array) :
    List.Forall₂ (fun x x' => Same (below ⟨false, false⟩ x) (below' ⟨false, false⟩ x'))
      (g.childIds c.1) (g'.childIds c'.1) := by
  have hbody := h.body (by rw [harray]; rfl)
  obtain ⟨a, ha⟩ : ∃ a, c.2.body = .array a := by
    unfold Node.kind at harray
    cases hb : c.2.body <;> rw [hb] at harray <;> first | exact ⟨_, rfl⟩ | cases harray
  obtain ⟨inner, hinner, hinner'⟩ := h.contents
  unfold Signature.contents at hinner hinner'
  rw [ha] at hinner
  rw [← hbody, ha] at hinner'
  simp only [bind_eq_ok_iff, pure_eq_ok_iff] at hinner hinner'
  obtain ⟨items, hitems, rfl⟩ := hinner
  obtain ⟨items', hitems', heq⟩ := hinner'
  simp only [List.cons.injEq, Prod.mk.injEq, Value.list.injEq, true_and, and_true] at heq
  obtain rfl := heq
  exact forall₂_same hitems hitems'

/-- A node that is there is described by an object. -/
theorem describe_ne_null {addressable : Bool} (hn : g.node? id = some n) :
    describe g below ⟨addressable, false⟩ id ≠ .ok .null := by
  intro h
  obtain ⟨_, _, _, _, _, heq⟩ := describe_ok hn h
  cases heq

/-- Branches with the same description are both none or both there, where no clause names a branch
that is not there. -/
theorem branch_same {o o' : Option NodeId} (hthere : ∀ t ∈ o, (g.node? t).isSome)
    (hthere' : ∀ t ∈ o', (g'.node? t).isSome)
    (hnull : ∀ {a t m}, g.node? t = some m → below ⟨a, false⟩ t ≠ .ok .null)
    (hnull' : ∀ {a t m}, g'.node? t = some m → below' ⟨a, false⟩ t ≠ .ok .null)
    (h : Same (branch g below false o) (branch g' below' false o')) :
    (o = none ∧ o' = none) ∨ ∃ t m t' m', o = some t ∧ o' = some t' ∧ g.node? t = some m ∧
      g'.node? t' = some m' ∧
      Same (below ⟨m.isAddressable, false⟩ t) (below' ⟨m'.isAddressable, false⟩ t') := by
  obtain ⟨v, hv, hv'⟩ := h
  cases o with
  | none =>
    obtain rfl : Value.null = v := Except.ok.inj hv
    cases o' with
    | none => exact Or.inl ⟨rfl, rfl⟩
    | some t' =>
      obtain ⟨m', hm'⟩ := Option.isSome_iff_exists.1 (hthere' t' rfl)
      simp only [branch, hm'] at hv'
      exact absurd hv' (hnull' hm')
  | some t =>
    obtain ⟨m, hm⟩ := Option.isSome_iff_exists.1 (hthere t rfl)
    simp only [branch, hm] at hv
    cases o' with
    | none =>
      obtain rfl : Value.null = v := Except.ok.inj hv'
      exact absurd hv (hnull hm)
    | some t' =>
      obtain ⟨m', hm'⟩ := Option.isSome_iff_exists.1 (hthere' t' rfl)
      simp only [branch, hm'] at hv'
      exact Or.inr ⟨t, m, t', m', rfl, rfl, hm, hm', v, hv, hv'⟩

end Signature

end FormGraph

import FormGraph.Proofs.Describing.Determined
import FormGraph.Proofs.Forest.Basic
import FormGraph.Proofs.Writing.Yields

/-!
# Nodes with the same description are written alike

The description of a node and the document made of it are two walks over what is below the node, each
with rules of its own for the positions it comes to. Where the first walk says the same of two nodes,
the second one writes the same (`Compile.determines_node`): the proof goes down both walks at once, in
both graphs.
-/

namespace FormGraph

namespace Graph

/-- No clause names a branch that is not there. -/
def BranchesThere (g : Graph) : Prop :=
  ∀ {id : NodeId} {n : Node NodeId} {c : Clause NodeId} {k : EdgeKind} {t : NodeId},
    g.node? id = some n → c ∈ n.clauses → c.target k = some t → (g.node? t).isSome

end Graph

namespace Signature

variable {g g' : Graph} {below below' : View → NodeId → Except Fault Value} {a : Bool}
  {c c' : NodeId × Node NodeId}

theorem Agree.annotations_eq (h : Agree g g' below below' a c c') :
    Compile.annotations c.2 = Compile.annotations c'.2 := by
  unfold Compile.annotations
  rw [h.title, h.description, h.default]

theorem Agree.withExtras_eq (h : Agree g g' below below' a c c') :
    Compile.withExtras c.2 = Compile.withExtras c'.2 := by
  unfold Compile.withExtras
  rw [h.extras]

end Signature

namespace Compile

open Graph Signature

variable {g g' : Graph} {cfg : DocumentConfig} {say say' : View → NodeId → Except Fault Value}
  {below below' : NodeId → Node NodeId → Compiling Value}

/-- What is said of the nodes below determines how they are written. -/
structure Determines (g g' : Graph) (say say' : View → NodeId → Except Fault Value)
    (below below' : NodeId → Node NodeId → Compiling Value) : Prop where
  /-- Of a node that is there, something is said in the first graph, -/
  said : ∀ {a t m}, g.node? t = some m → say ⟨a, false⟩ t ≠ .ok .null
  /-- and in the second one. -/
  said' : ∀ {a t m}, g'.node? t = some m → say' ⟨a, false⟩ t ≠ .ok .null
  /-- Nodes of which the same is said are of one kind, whatever the position carries. -/
  kind : ∀ {a a' t t' m m'}, g.node? t = some m → g'.node? t' = some m' →
    Same (say ⟨a, false⟩ t) (say' ⟨a', false⟩ t') → m.kind = m'.kind
  /-- They have the same key and required mark where the position carries these. -/
  field : ∀ {t t' m m'}, g.node? t = some m → g'.node? t' = some m' →
    Same (say ⟨true, false⟩ t) (say' ⟨true, false⟩ t') → m.key = m'.key ∧ m.required = m'.required
  /-- They are written alike. -/
  writes : ∀ {a t t' m m'}, g.node? t = some m → g'.node? t' = some m' →
    Same (say ⟨a, false⟩ t) (say' ⟨a, false⟩ t') → (below t m).Alike (below' t' m')

/-! ## Groups -/

section Groups

variable (hd : Determines g g' say say' below below')

include hd

theorem alike_branch {t t' : NodeId} {m m' : Node NodeId} (hm : g.node? t = some m)
    (hm' : g'.node? t' = some m')
    (h : Same (say ⟨m.isAddressable, false⟩ t) (say' ⟨m'.isAddressable, false⟩ t')) :
    (branch g below t).Alike (branch g' below' t') := by
  have hkind : m.isAddressable = m'.isAddressable :=
    congrArg NodeKind.isAddressable (hd.kind hm hm' h)
  rw [← hkind] at h
  unfold branch
  rw [hm, hm']
  refine (hd.writes hm hm' h).bind fun v => ?_
  rw [← hkind]
  cases haddr : m.isAddressable with
  | false => exact .refl _
  | true =>
    rw [haddr] at h
    obtain ⟨hkey, hrequired⟩ := hd.field hm hm' h
    rw [hkey, hrequired]
    exact .refl _

theorem alike_branchUnder {o o' : Option NodeId} (hthere : ∀ t ∈ o, (g.node? t).isSome)
    (hthere' : ∀ t ∈ o', (g'.node? t).isSome)
    (h : Same (Signature.branch g say false o) (Signature.branch g' say' false o'))
    (keyword : String) :
    (branchUnder g below keyword o).Alike (branchUnder g' below' keyword o') ∧
      o.isNone = o'.isNone := by
  rcases branch_same hthere hthere' hd.said hd.said' h with
    ⟨rfl, rfl⟩ | ⟨t, m, t', m', rfl, rfl, hm, hm', hsame⟩
  · exact ⟨.refl _, rfl⟩
  · exact ⟨(alike_branch hd hm hm' hsame).bind fun _ => .refl _, rfl⟩

/-- Two clauses with the same condition, and with branches of which the same is said. -/
def ClauseAlike (g g' : Graph) (say say' : View → NodeId → Except Fault Value)
    (c c' : Clause NodeId) : Prop :=
  c.condition = c'.condition ∧
    Same (Signature.branch g say false c.onTrue) (Signature.branch g' say' false c'.onTrue) ∧
    Same (Signature.branch g say false c.onFalse) (Signature.branch g' say' false c'.onFalse)

theorem alike_clause {c c' : Clause NodeId} (hthere : ∀ k, ∀ t ∈ c.target k, (g.node? t).isSome)
    (hthere' : ∀ k, ∀ t ∈ c'.target k, (g'.node? t).isSome) (h : ClauseAlike g g' say say' c c')
    (kind : GroupKind) : (clause g cfg below kind c).Alike (clause g' cfg below' kind c') := by
  obtain ⟨hcondition, htrue, hfalse⟩ := h
  obtain ⟨htrue, -⟩ := alike_branchUnder hd (hthere .thenBranch) (hthere' .thenBranch) htrue "then"
  obtain ⟨hfalse, hnone⟩ :=
    alike_branchUnder hd (hthere .elseBranch) (hthere' .elseBranch) hfalse "else"
  have hnone : c.onFalse.isNone = c'.onFalse.isNone := hnone
  unfold clause
  rw [hcondition, hnone]
  exact (Compiling.Alike.refl _).bind fun _ => htrue.bind fun _ => hfalse.bind fun _ => .refl _

variable {cs cs' : List (Clause NodeId)}
  (hthere : ∀ c ∈ cs, ∀ k, ∀ t ∈ c.target k, (g.node? t).isSome)
  (hthere' : ∀ c ∈ cs', ∀ k, ∀ t ∈ c.target k, (g'.node? t).isSome)

include hthere hthere'

theorem alike_clauses (h : List.Forall₂ (ClauseAlike g g' say say') cs cs') (kind : GroupKind) :
    (cs.mapM (clause g cfg below kind)).Alike (cs'.mapM (clause g' cfg below' kind)) := by
  refine .mapM ?_
  induction h with
  | nil => exact .nil
  | cons hc _ ih =>
    rw [List.forall_mem_cons] at hthere hthere'
    exact .cons (alike_clause hd hthere.1 hthere'.1 hc kind) (ih hthere.2 hthere'.2)

theorem alike_ifBlock (h : List.Forall₂ (ClauseAlike g g' say say') cs cs') :
    (ifBlock g below cs).Alike (ifBlock g' below' cs') := by
  have htests : (cs.mapM fun c => Value.obj <$> c.condition.fragment) =
      cs'.mapM fun c => Value.obj <$> c.condition.fragment := by
    clear hthere hthere'
    induction h with
    | nil => rfl
    | cons hc _ ih => rw [List.mapM_cons, List.mapM_cons, ih, hc.1]
  cases h with
  | nil => exact .refl _
  | cons hc hcs =>
    obtain ⟨-, htrue, hfalse⟩ := hc
    rw [List.forall_mem_cons] at hthere hthere'
    obtain ⟨htrue, -⟩ :=
      alike_branchUnder hd (hthere.1 .thenBranch) (hthere'.1 .thenBranch) htrue "then"
    obtain ⟨hfalse, -⟩ :=
      alike_branchUnder hd (hthere.1 .elseBranch) (hthere'.1 .elseBranch) hfalse "else"
    unfold ifBlock
    dsimp only
    rw [htests]
    exact (Compiling.Alike.refl _).bind fun _ => htrue.bind fun _ => hfalse.bind fun _ => .refl _

end Groups

/-! ## Objects -/

section Objects

/-- A group among the children of an object may be written after the fields that follow it. -/
theorem alike_group_last {c : NodeId × Node NodeId} {fields : List (NodeId × Node NodeId)}
    (hc : c.2.kind.isGroup = true) (hfields : ∀ f ∈ fields, f.2.kind.isGroup = false)
    (parts : ObjectParts) {γ : Type} (next : ObjectParts → Compiling γ) :
    (objectChild below parts c >>= fun p => fields.foldlM (objectChild below) p >>= next).Alike
      (fields.foldlM (objectChild below) parts >>= fun p => objectChild below p c >>= next) := by
  induction fields generalizing parts with
  | nil =>
    simp only [List.foldlM_nil, pure_bind]
    exact .refl _
  | cons f fields ih =>
    obtain ⟨hf, hfields⟩ := List.forall_mem_cons.1 hfields
    simp only [List.foldlM_cons, bind_assoc]
    refine .trans ?_ ((Compiling.Alike.refl _).bind fun p => ih hfields p)
    simp only [objectChild, hc, hf, if_true, Bool.false_eq_true, if_false, bind_assoc, pure_bind]
    exact .comm _ _ _

/-- The fields of an object may be written before its groups. -/
theorem alike_fields_first (cs : List (NodeId × Node NodeId)) (parts : ObjectParts) :
    (cs.foldlM (objectChild below) parts).Alike
      (((cs.filter fun c => !c.2.kind.isGroup) ++ cs.filter fun c => c.2.kind.isGroup).foldlM
        (objectChild below) parts) := by
  induction cs generalizing parts with
  | nil => exact .refl _
  | cons c cs ih =>
    rw [List.foldlM_cons, List.filter_cons, List.filter_cons]
    refine ((Compiling.Alike.refl _).bind fun p => ih p).trans ?_
    cases hc : c.2.kind.isGroup with
    | false =>
      simp only [Bool.not_false, if_true, Bool.false_eq_true, if_false, List.cons_append,
        List.foldlM_cons]
      exact .refl _
    | true =>
      simp only [Bool.not_true, if_true, Bool.false_eq_true, if_false, List.foldlM_append,
        List.foldlM_cons]
      refine alike_group_last hc (fun f hf => ?_) parts _
      simpa using (List.mem_filter.1 hf).2

variable (hd : Determines g g' say say' below below')

include hd

theorem alike_objectChild {a : Bool} {c c' : NodeId × Node NodeId} (hc : g.node? c.1 = some c.2)
    (hc' : g'.node? c'.1 = some c'.2) (hgroup : c.2.kind.isGroup = !a)
    (h : Same (say ⟨a, false⟩ c.1) (say' ⟨a, false⟩ c'.1)) (parts : ObjectParts) :
    (objectChild below parts c).Alike (objectChild below' parts c') := by
  unfold objectChild
  rw [← hd.kind hc hc' h, hgroup]
  refine (hd.writes hc hc' h).bind fun v => ?_
  cases a with
  | false => exact .refl _
  | true =>
    obtain ⟨hkey, hrequired⟩ := hd.field hc hc' h
    rw [hkey, hrequired]
    exact .refl _

/-- So are the children that are chosen by being groups or not. -/
theorem alike_chosen {a : Bool} {id id' : NodeId} {cs cs' : List (NodeId × Node NodeId)}
    {p : NodeId × Node NodeId → Bool} (hcs : g.children id = .ok cs)
    (hcs' : g'.children id' = .ok cs') (hp : ∀ f, p f = true → f.2.kind.isGroup = !a)
    (h : List.Forall₂ (fun f f' => Same (say ⟨a, false⟩ f.1) (say' ⟨a, false⟩ f'.1))
      (cs.filter p) (cs'.filter p)) :
    List.Forall₂ (fun f f' => ∀ parts, (objectChild below parts f).Alike
      (objectChild below' parts f')) (cs.filter p) (cs'.filter p) := by
  refine (forall₂_with_mem h).imp fun f f' ⟨hf, hf', hsame⟩ parts => ?_
  rw [List.mem_filter] at hf hf'
  exact alike_objectChild hd ((children_ok hcs).2 f hf.1) ((children_ok hcs').2 f' hf'.1)
    (hp f hf.2) hsame parts

theorem alike_objectBody {a : Bool} {c c' : NodeId × Node NodeId}
    (h : Agree g g' say say' a c c') (hobject : c.2.kind = .object) :
    (objectBody g below c.1 c.2).Alike (objectBody g' below' c'.1 c'.2) := by
  obtain ⟨cs, cs', hcs, hcs', hfields, hgroups⟩ := h.forall₂_children hobject
  have hchildren : (cs.foldlM (objectChild below) {}).Alike
      (cs'.foldlM (objectChild below') {}) := by
    refine (alike_fields_first cs _).trans (.trans (.foldlM ?_ _) (alike_fields_first cs' _).symm)
    exact List.rel_append
      (alike_chosen hd hcs hcs' (fun f hf => by simpa using hf) hfields)
      (alike_chosen hd hcs hcs' (fun f hf => by simpa using hf) hgroups)
  have hlist : ∀ groups, (groupList c.2 groups).Alike (groupList c'.2 groups) := by
    intro groups
    unfold groupList
    rw [h.extras]
    split
    · exact .refl _
    · split
      · exact .refl _
      · exact (Compiling.Alike.of_gives (.warning _) (.warning _)).bind fun _ => .refl _
  unfold objectBody
  rw [hcs, hcs', Compiling.ofExcept_ok_bind, Compiling.ofExcept_ok_bind]
  exact hchildren.bind fun parts => (hlist _).bind fun _ => .refl _

theorem alike_arrayBody (hf : Forest g) (hf' : Forest g') {a : Bool} {c c' : NodeId × Node NodeId}
    (h : Agree g g' say say' a c c') (harray : c.2.kind = .array) :
    (arrayBody g below c.1).Alike (arrayBody g' below' c'.1) := by
  have hitems := h.forall₂_items harray
  unfold arrayBody
  cases hids : g.childIds c.1 with
  | nil =>
    rw [hids, List.forall₂_nil_left_iff] at hitems
    rw [hitems]
    exact .refl _
  | cons x xs =>
    obtain ⟨x', xs', hsame, -, hids'⟩ := List.forall₂_cons_left_iff.1 (hids ▸ hitems)
    obtain ⟨m, hm⟩ := Option.isSome_iff_exists.1 (hf.child_present (hids ▸ List.mem_cons_self))
    obtain ⟨m', hm'⟩ :=
      Option.isSome_iff_exists.1 (hf'.child_present (hids' ▸ List.mem_cons_self))
    rw [hids']
    dsimp only
    rw [pointedAt_eq_ok_iff.2 hm, pointedAt_eq_ok_iff.2 hm', Compiling.ofExcept_ok_bind,
      Compiling.ofExcept_ok_bind]
    exact (hd.writes hm hm' hsame).bind fun _ => .refl _

end Objects

/-! ## Nodes -/

section Nodes

variable (hd : Determines g g' say say' below below') (hf : Forest g) (hf' : Forest g')
  (hb : g.BranchesThere) (hb' : g'.BranchesThere)

include hd hf hf' hb hb'

theorem alike_group {a : Bool} {c c' : NodeId × Node NodeId} (hc : g.node? c.1 = some c.2)
    (hc' : g'.node? c'.1 = some c'.2) (h : Agree g g' say say' a c c') {kind : GroupKind}
    {cs cs' : List (Clause NodeId)} (hbody : c.2.body = .group kind cs)
    (hbody' : c'.2.body = .group kind cs') :
    (group g cfg below c.1 c.2 kind cs).Alike (group g' cfg below' c'.1 c'.2 kind cs') := by
  have hgroup : c.2.kind.isGroup = true := by rw [Node.kind, hbody]; rfl
  have hclauses := h.forall₂_clauses hgroup
  have hcs : c.2.clauses = cs := by rw [Node.clauses, hbody]; rfl
  have hcs' : c'.2.clauses = cs' := by rw [Node.clauses, hbody']; rfl
  rw [hcs, hcs'] at hclauses
  have hthere : ∀ c ∈ cs, ∀ k, ∀ t ∈ c.target k, (g.node? t).isSome := fun e he k t ht =>
    hb hc (hcs ▸ he) ht
  have hthere' : ∀ c ∈ cs', ∀ k, ∀ t ∈ c.target k, (g'.node? t).isSome := fun e he k t ht =>
    hb' hc' (hcs' ▸ he) ht
  unfold group
  rw [h.annotations_eq, h.withExtras_eq]
  refine (Compiling.Alike.of_gives (gives_noteUnused fun e he => hf.target_present he)
    (gives_noteUnused fun e he => hf'.target_present he)).bind fun _ => ?_
  cases kind with
  | ifBlock => exact (alike_ifBlock hd hthere hthere' hclauses).bind fun _ => .refl _
  | allOf | anyOf | oneOf =>
    exact (alike_clauses hd hthere hthere' hclauses _).bind fun _ => .refl _

/-- Nodes that agree, with what is below them, are written alike. -/
theorem alike_fragment {a : Bool} (c c' : NodeId × Node NodeId) (hc : g.node? c.1 = some c.2)
    (hc' : g'.node? c'.1 = some c'.2) (h : Agree g g' say say' a c c') :
    (fragment g cfg below c.1 c.2).Alike (fragment g' cfg below' c'.1 c'.2) := by
  cases hg : c.2.kind.isGroup with
  | true =>
    obtain ⟨kind, cs, hbody⟩ : ∃ kind cs, c.2.body = .group kind cs := by
      unfold Node.kind at hg
      cases hb : c.2.body <;> rw [hb] at hg <;> first | exact ⟨_, _, rfl⟩ | cases hg
    obtain ⟨cs', hbody'⟩ : ∃ cs', c'.2.body = .group kind cs' := by
      have hkind := h.kind
      unfold Node.kind at hkind
      rw [hbody] at hkind
      cases hb : c'.2.body <;> rw [hb] at hkind <;> cases hkind
      exact ⟨_, rfl⟩
    unfold fragment
    rw [hbody, hbody']
    exact alike_group hd hf hf' hb hb' hc hc' h hbody hbody'
  | false =>
    have hbody := h.body hg
    unfold fragment
    rw [← hbody, h.annotations_eq, h.withExtras_eq, h.kind]
    cases hb : c.2.body with
    | group => simp [Node.kind, hb, Body.kind, NodeKind.isGroup] at hg
    | object attributes =>
      exact (alike_objectBody hd h (by rw [Node.kind, hb]; rfl)).bind fun _ => .refl _
    | array attributes =>
      exact (alike_arrayBody hd hf hf' h (by rw [Node.kind, hb]; rfl)).bind fun _ => .refl _
    | string | number | boolean | enum | definition | reference => exact .refl _

/-- One level up, descriptions still determine what is written. -/
theorem Determines.step : Determines g g' (describe g say) (describe g' say')
    (fragment g cfg below) (fragment g' cfg below') where
  said := describe_ne_null
  said' := describe_ne_null
  kind := kind_eq_of_describe
  field hm hm' h := (agree_of_describe hm hm' h).field rfl
  writes hm hm' h :=
    alike_fragment hd hf hf' hb hb' (_, _) (_, _) hm hm' (agree_of_describe hm hm' h)

end Nodes

/-- Nodes with the same description are written alike. -/
theorem determines_node (cfg : DocumentConfig) (hf : Forest g) (hf' : Forest g') (hb : g.BranchesThere)
    (hb' : g'.BranchesThere) (depth : Nat) : ∀ depth' : Nat,
    Determines g g' (Signature.node g depth) (Signature.node g' depth') (node g cfg depth)
      (node g' cfg depth') := by
  have hnone : ∀ {g : Graph} {a : Bool} {x : NodeId} {v : Value},
      Signature.node g 0 ⟨a, false⟩ x ≠ .ok v := fun h => by cases h
  have hsaid : ∀ {g : Graph} {a : Bool} {x : NodeId} {m : Node NodeId} (d : Nat),
      g.node? x = some m → Signature.node g d ⟨a, false⟩ x ≠ .ok .null := by
    intro g a x m d hm
    cases d with
    | zero => exact hnone
    | succ d => exact describe_ne_null hm
  induction depth with
  | zero =>
    -- where no depth is left nothing is said, so there is nothing that could be the same
    exact fun depth' => ⟨hsaid 0, hsaid depth', fun _ _ ⟨_, h, _⟩ => absurd h hnone,
      fun _ _ ⟨_, h, _⟩ => absurd h hnone, fun _ _ ⟨_, h, _⟩ => absurd h hnone⟩
  | succ depth ih =>
    intro depth'
    cases depth' with
    | zero =>
      exact ⟨hsaid _, hsaid 0, fun _ _ ⟨_, _, h⟩ => absurd h hnone,
        fun _ _ ⟨_, _, h⟩ => absurd h hnone, fun _ _ ⟨_, _, h⟩ => absurd h hnone⟩
    | succ depth' => exact (ih depth').step hf hf' hb hb'

end Compile

end FormGraph

import FormGraph.Proofs.Describing.Renamed
import FormGraph.Proofs.SiblingKeys.Edit
import FormGraph.Proofs.Tidy
import FormGraph.Proofs.Writing.Wanted
import Mathlib.Logic.Relation

/-!
# Which tidy graphs can be written

Writing a document of a tidy graph can only fail at a condition: the name of a property that it
tests must not be a list or an object. What the writer does with one node is said by
`succeeds_fragment_iff`, which says whom it goes on to; so a graph can be written exactly when all
conditions of the nodes that the writer comes to can (`Graph.compile_isOk_iff_of_tidy`).
-/

namespace FormGraph

/-! ## Writings that succeed -/

namespace Compiling

variable {α β : Type} {x : Compiling α}

/-- The writing comes to a result. -/
def Succeeds (x : Compiling α) : Prop := ∃ a, x.run.value = .ok a

theorem Gives.succeeds {a : α} {refs : List Value} (h : x.Gives a refs) : x.Succeeds := ⟨a, h.1⟩

theorem succeeds_pure (a : α) : (pure a : Compiling α).Succeeds := ⟨a, rfl⟩

theorem succeeds_ofExcept_iff {x : Except Fault α} : (ofExcept x).Succeeds ↔ ∃ a, x = .ok a :=
  Iff.rfl

/-- A chain whose rest succeeds or not whatever its first step gives. -/
theorem succeeds_bind_iff {f : α → Compiling β} {P : Prop}
    (h : ∀ a, x.run.value = .ok a → ((f a).Succeeds ↔ P)) :
    (x >>= f).Succeeds ↔ x.Succeeds ∧ P := by
  unfold Succeeds
  rw [value_bind]
  exact isOk_bind_iff h

/-- What is done with a result of a writing that can always be done. -/
theorem succeeds_bind_of_total {f : α → Compiling β} (h : ∀ a, (f a).Succeeds) :
    (x >>= f).Succeeds ↔ x.Succeeds := by
  rw [succeeds_bind_iff fun a _ => iff_of_true (h a) trivial, and_true]

theorem succeeds_mapM_iff {f : α → Compiling β} {as : List α} :
    (as.mapM f).Succeeds ↔ ∀ a ∈ as, (f a).Succeeds := by
  induction as with
  | nil => exact iff_of_true (succeeds_pure []) fun _ ha => absurd ha List.not_mem_nil
  | cons a as ih =>
    rw [List.mapM_cons, List.forall_mem_cons, ← ih]
    exact succeeds_bind_iff fun b _ => succeeds_bind_of_total fun _ => succeeds_pure _

theorem succeeds_foldlM_iff {f : β → α → Compiling β} {P : α → Prop} {as : List α}
    (h : ∀ a ∈ as, ∀ b, (f b a).Succeeds ↔ P a) (b : β) :
    (as.foldlM f b).Succeeds ↔ ∀ a ∈ as, P a := by
  induction as generalizing b with
  | nil => exact iff_of_true (succeeds_pure b) fun _ ha => absurd ha List.not_mem_nil
  | cons a as ih =>
    rw [List.foldlM_cons, List.forall_mem_cons, ← h a List.mem_cons_self b]
    exact succeeds_bind_iff fun b' _ => ih (fun x hx => h x (List.mem_cons_of_mem _ hx)) b'

end Compiling

/-! ## Where the writer goes on to -/

namespace Graph

variable {g : Graph}

/-- Where the writer goes on to from a node. -/
def Leads (g : Graph) (x y : NodeId) : Prop := g.IsChild y x ∨ ∃ k, g.Points x y k

/-- In a tidy graph clauses agree with the edges. -/
theorem Tidy.agrees (ht : g.Tidy) : Agrees g := by
  refine agrees_iff.2 fun id t k ⟨c, hc, hk⟩ => ?_
  cases hn : g.node? id with
  | none =>
    rw [clausesAt_of_absent hn] at hc
    exact absurd hc List.not_mem_nil
  | some n => exact ht.clause hn (clausesAt_of_node? hn ▸ hc) hk

theorem Leads.owned {x y : NodeId} (h : g.Leads x y) (ht : g.Tidy) :
    ∃ k, g.owningEdge y = some ⟨x, y, k⟩ := by
  rcases h with h | ⟨k, h⟩
  · exact ⟨_, h⟩
  · exact ⟨k, ht.agrees.edge h⟩

/-- What has an owner is no definition. -/
theorem SoundBut.ne_definition {loose : NodeId → Prop} (hs : SoundBut loose g) {x : NodeId}
    {e : Edge} {n : Node NodeId} (he : g.owningEdge x = some e) (hn : g.node? x = some n) :
    n.kind ≠ .definition := by
  intro hk
  rw [hs.definition_top hn hk] at he
  cases he

/-- A group leads to the branches of its clauses. -/
theorem leads_iff_of_group (ht : g.Tidy) {x y : NodeId} {n : Node NodeId} (hn : g.node? x = some n)
    (hgroup : n.kind.isGroup = true) : g.Leads x y ↔ ∃ c ∈ n.clauses, ∃ k, c.target k = some y := by
  have hchild : ¬ g.IsChild y x := by
    intro h
    have hfits : isContainer n.kind .child = true := ht.fits h hn
    cases hk : n.kind with
    | group k =>
      rw [hk] at hfits
      cases hfits
    | string | number | boolean | enum | object | array | definition | reference =>
      rw [hk] at hgroup
      cases hgroup
  unfold Leads Points
  rw [clausesAt_of_node? hn, or_iff_right hchild]
  exact ⟨fun ⟨k, c, hc, ht⟩ => ⟨c, hc, k, ht⟩, fun ⟨c, hc, k, ht⟩ => ⟨k, c, hc, ht⟩⟩

/-- Anything else leads to its children. -/
theorem leads_iff_of_field (hf : Forest g) {x y : NodeId} {n : Node NodeId}
    (hn : g.node? x = some n) (hgroup : n.kind.isGroup = false) :
    g.Leads x y ↔ y ∈ g.childIds x := by
  unfold Leads Points
  rw [clausesAt_of_node? hn, Node.clauses_eq_nil hgroup, hf.mem_childIds_iff]
  exact or_iff_left fun ⟨_, _, hc, _⟩ => List.not_mem_nil hc

end Graph

namespace Compile

open Graph Compiling

variable {g : Graph} {cfg : DocumentConfig} {below : NodeId → Node NodeId → Compiling Value}

/-! ## One node -/

/-- What is there under a name can be written. -/
def CanWrite (g : Graph) (below : NodeId → Node NodeId → Compiling Value) (x : NodeId) : Prop :=
  ∀ m, g.node? x = some m → (below x m).Succeeds

theorem canWrite_iff {x : NodeId} {m : Node NodeId} (hm : g.node? x = some m) :
    CanWrite g below x ↔ (below x m).Succeeds :=
  ⟨fun h => h m hm, fun h _ hm' => Option.some.inj (hm.symm.trans hm') ▸ h⟩

theorem succeeds_branch_iff {x : NodeId} : (branch g below x).Succeeds ↔ CanWrite g below x := by
  unfold branch
  cases hx : g.node? x with
  | none => exact iff_of_true ⟨_, rfl⟩ fun m hm => by rw [hx] at hm; cases hm
  | some m =>
    rw [canWrite_iff hx]
    refine succeeds_bind_of_total fun v => ?_
    split_ifs <;> exact succeeds_pure _

theorem succeeds_branchUnder_iff {keyword : String} {target : Option NodeId} :
    (branchUnder g below keyword target).Succeeds ↔ ∀ x, target = some x → CanWrite g below x := by
  cases target with
  | none => exact iff_of_true (succeeds_pure _) fun x hx => by cases hx
  | some x =>
    rw [show (∀ y, some x = some y → CanWrite g below y) ↔ CanWrite g below x by simp,
      ← succeeds_branch_iff]
    exact succeeds_bind_of_total fun _ => succeeds_pure _

theorem isOk_fragment_iff {c : Condition} :
    (∃ f, c.fragment = .ok f) ↔ c.field.isScalar = true := by
  unfold Condition.fragment
  split_ifs with h
  · exact iff_of_true ⟨_, rfl⟩ h
  · exact iff_of_false (by simp [breakDown]) h

/-- The branches of a clause can be written. -/
def CanBranch (g : Graph) (below : NodeId → Node NodeId → Compiling Value) (c : Clause NodeId) :
    Prop :=
  ∀ k x, c.target k = some x → CanWrite g below x

theorem canBranch_iff {c : Clause NodeId} : CanBranch g below c ↔
    (∀ x, c.onTrue = some x → CanWrite g below x) ∧
      ∀ x, c.onFalse = some x → CanWrite g below x := by
  constructor
  · exact fun h => ⟨fun x => h .thenBranch x, fun x => h .elseBranch x⟩
  · rintro ⟨htrue, hfalse⟩ k x hx
    cases k with
    | child => cases hx
    | thenBranch => exact htrue x hx
    | elseBranch => exact hfalse x hx

theorem succeeds_clause_iff {kind : GroupKind} {c : Clause NodeId} :
    (clause g cfg below kind c).Succeeds ↔
      c.condition.field.isScalar = true ∧ CanBranch g below c := by
  unfold clause
  rw [canBranch_iff, ← isOk_fragment_iff, ← succeeds_branchUnder_iff, ← succeeds_branchUnder_iff]
  exact succeeds_bind_iff fun _ _ => succeeds_bind_iff fun _ _ =>
    succeeds_bind_of_total fun _ => succeeds_pure _

/-- Where the clauses share their branches, those of the first one are those of all. -/
theorem succeeds_ifBlock_iff {cs : List (Clause NodeId)}
    (hsame : ∀ c ∈ cs, ∀ d ∈ cs, c.branches = d.branches) :
    (ifBlock g below cs).Succeeds ↔
      ∀ c ∈ cs, c.condition.field.isScalar = true ∧ CanBranch g below c := by
  cases cs with
  | nil => exact iff_of_true (succeeds_pure _) fun c hc => absurd hc List.not_mem_nil
  | cons first rest =>
    have htests : (ofExcept ((first :: rest).mapM
        fun c => Value.obj <$> c.condition.fragment)).Succeeds ↔
          ∀ c ∈ first :: rest, c.condition.field.isScalar = true := by
      rw [succeeds_ofExcept_iff, isOk_mapM_iff]
      refine forall₂_congr fun c _ => ?_
      rw [← isOk_fragment_iff, map_eq_pure_bind]
      exact isOk_bind_of_total fun f => ⟨Value.obj f, rfl⟩
    have hbranches : (∀ c ∈ first :: rest, CanBranch g below c) ↔ CanBranch g below first := by
      refine ⟨fun h => h first List.mem_cons_self, fun h c hc => ?_⟩
      obtain ⟨htrue, hfalse⟩ := Prod.mk.inj (hsame c hc first List.mem_cons_self)
      rw [canBranch_iff, htrue, hfalse]
      exact canBranch_iff.1 h
    rw [forall₂_and, hbranches, canBranch_iff, ← htests, ← succeeds_branchUnder_iff,
      ← succeeds_branchUnder_iff]
    exact succeeds_bind_iff fun _ _ => succeeds_bind_iff fun _ _ =>
      succeeds_bind_of_total fun _ => succeeds_pure _

theorem succeeds_objectBody_iff (hf : Forest g) {id : NodeId} {n : Node NodeId} :
    (objectBody g below id n).Succeeds ↔ ∀ x ∈ g.childIds id, CanWrite g below x := by
  obtain ⟨cs, hcs, hids, hnodes⟩ := hf.children_eq id
  have hchildren : (cs.foldlM (objectChild below) {}).Succeeds ↔
      ∀ c ∈ cs, CanWrite g below c.1 := by
    refine succeeds_foldlM_iff (fun c hc parts => ?_) _
    rw [canWrite_iff (hnodes c hc)]
    refine succeeds_bind_of_total fun v => ?_
    split_ifs <;> exact succeeds_pure _
  have hlist : ∀ groups, (groupList n groups).Succeeds := by
    intro groups
    unfold groupList
    split
    · exact succeeds_pure _
    · split
      · exact succeeds_pure _
      · exact ⟨_, rfl⟩
  unfold objectBody
  rw [hcs, ofExcept_ok_bind, ← hids, List.forall_mem_map, ← hchildren]
  exact succeeds_bind_of_total fun parts =>
    (succeeds_bind_of_total fun _ => succeeds_pure _).2 (hlist _)

/-- Where there is one item at most, it is all that is written of an array. -/
theorem succeeds_arrayBody_iff (hf : Forest g) {id : NodeId}
    (hsingle : (g.childIds id).length ≤ 1) :
    (arrayBody g below id).Succeeds ↔ ∀ x ∈ g.childIds id, CanWrite g below x := by
  unfold arrayBody
  cases hids : g.childIds id with
  | nil => exact iff_of_true (succeeds_pure _) fun x hx => absurd hx List.not_mem_nil
  | cons x xs =>
    obtain rfl : xs = [] := by
      rw [hids, List.length_cons] at hsingle
      exact List.eq_nil_of_length_eq_zero (by omega)
    have hx : x ∈ g.childIds id := hids ▸ List.mem_cons_self
    obtain ⟨m, hm⟩ := Option.isSome_iff_exists.1 (hf.child_present hx)
    rw [List.forall_mem_singleton, canWrite_iff hm]
    dsimp only
    rw [pointedAt_eq_ok_iff.2 hm, ofExcept_ok_bind]
    exact succeeds_bind_of_total fun _ => succeeds_pure _

/-- The conditions of a node can be written. -/
def CanTest (g : Graph) (x : NodeId) : Prop :=
  ∀ c ∈ g.clausesAt x, c.condition.field.isScalar = true

theorem succeeds_group_iff (ht : g.Tidy) {x : NodeId} {n : Node NodeId} (hn : g.node? x = some n)
    {kind : GroupKind} {cs : List (Clause NodeId)} (hbody : n.body = .group kind cs) :
    (group g cfg below x n kind cs).Succeeds ↔
      ∀ c ∈ cs, c.condition.field.isScalar = true ∧ CanBranch g below c := by
  have hclauses : n.clauses = cs := by rw [Node.clauses, hbody]; rfl
  have hnotes : (noteUnused g x n).Succeeds :=
    (gives_noteUnused fun e he => ht.toForest.target_present he).succeeds
  unfold group
  rw [succeeds_bind_iff (P := ∀ c ∈ cs, c.condition.field.isScalar = true ∧ CanBranch g below c)
    fun _ _ => ?_, and_iff_right hnotes]
  cases kind with
  | ifBlock =>
    have hsame := ht.block hn (by rw [Node.kind, hbody]; rfl)
    rw [hclauses] at hsame
    rw [← succeeds_ifBlock_iff hsame]
    exact succeeds_bind_of_total fun _ => succeeds_pure _
  | allOf | anyOf | oneOf =>
    rw [← forall₂_congr fun c _ => succeeds_clause_iff, ← succeeds_mapM_iff]
    exact succeeds_bind_of_total fun _ => succeeds_pure _

/-- A node can be written when its conditions can, and what it leads to. -/
theorem succeeds_fragment_iff (ht : g.Tidy) {x : NodeId} {n : Node NodeId} (hn : g.node? x = some n)
    (hk : n.kind ≠ .definition) : (fragment g cfg below x n).Succeeds ↔
      CanTest g x ∧ ∀ y, g.Leads x y → CanWrite g below y := by
  have hf := ht.toForest
  have hkind : n.kind = n.body.kind := rfl
  have hfield : n.kind.isGroup = false → ((CanTest g x ∧ ∀ y, g.Leads x y → CanWrite g below y) ↔
      ∀ y ∈ g.childIds x, CanWrite g below y) := by
    intro hgroup
    have htest : CanTest g x := by
      rw [CanTest, clausesAt_of_node? hn, Node.clauses_eq_nil hgroup]
      exact fun c hc => absurd hc List.not_mem_nil
    rw [and_iff_right htest]
    exact forall_congr' fun y => imp_congr_left (leads_iff_of_field hf hn hgroup)
  have hleaf : n.kind.isLeaf = true → ∀ y ∈ g.childIds x, CanWrite g below y := by
    intro hl y hy
    obtain ⟨e, he, -, -⟩ := mem_edgesFrom_of_mem_childIds hy
    rw [ht.edgesFrom_leaf hn hl] at he
    exact absurd he List.not_mem_nil
  unfold fragment
  cases hbody : n.body with
  | group kind cs =>
    rw [hbody] at hkind
    have hclauses : n.clauses = cs := by rw [Node.clauses, hbody]; rfl
    have hleads := fun y => leads_iff_of_group (y := y) ht hn (by rw [hkind]; rfl)
    simp only [succeeds_group_iff ht hn hbody, CanTest, clausesAt_of_node? hn, hleads, hclauses]
    constructor
    · intro h
      refine ⟨fun c hc => (h c hc).1, ?_⟩
      rintro y ⟨c, hc, k, hk⟩
      exact (h c hc).2 k y hk
    · rintro ⟨htest, hrest⟩ c hc
      exact ⟨htest c hc, fun k y hk => hrest y ⟨c, hc, k, hk⟩⟩
  | reference target =>
    rw [hbody] at hkind
    obtain ⟨name, rfl, -⟩ := ht.target hn (v := target) (by rw [Node.target?, hbody])
    exact iff_of_true ⟨_, rfl⟩ ((hfield (by rw [hkind]; rfl)).2 (hleaf (by rw [hkind]; rfl)))
  | object own =>
    rw [hbody] at hkind
    rw [hfield (by rw [hkind]; rfl), ← succeeds_objectBody_iff hf]
    exact succeeds_bind_of_total fun _ => succeeds_pure _
  | array own =>
    rw [hbody] at hkind
    rw [hfield (by rw [hkind]; rfl), ← succeeds_arrayBody_iff hf (ht.single hn hkind)]
    exact succeeds_bind_of_total fun _ => succeeds_pure _
  | definition name => exact absurd (hkind.trans (congrArg Body.kind hbody)) hk
  | string | number | boolean | enum =>
    rw [hbody] at hkind
    exact iff_of_true ⟨_, rfl⟩ ((hfield (by rw [hkind]; rfl)).2 (hleaf (by rw [hkind]; rfl)))

/-! ## A node and what is below it -/

/-- A node can be written when the conditions of all nodes that the writer comes to can. -/
theorem succeeds_node_iff (ht : g.Tidy) (depth : Nat) : ∀ {x : NodeId} {n : Node NodeId},
    g.node? x = some n → n.kind ≠ .definition → (g.subtreeIds x).length ≤ depth →
      ((node g cfg depth x n).Succeeds ↔ ∀ y, Relation.ReflTransGen g.Leads x y → CanTest g y) := by
  induction depth with
  | zero =>
    intro x n _ _ hdepth
    exact absurd (subtree_pos ht.toForest x) (by omega)
  | succ depth ih =>
    intro x n hn hk hdepth
    have hbelow : ∀ y, g.Leads x y → (CanWrite g (node g cfg depth) y ↔
        ∀ z, Relation.ReflTransGen g.Leads y z → CanTest g z) := by
      intro y hy
      obtain ⟨k, hedge⟩ := hy.owned ht
      obtain ⟨m, hm⟩ := Option.isSome_iff_exists.1 (ht.present hedge).1
      have hlt : (g.subtreeIds y).length < (g.subtreeIds x).length :=
        subtree_lt ht.toForest hedge rfl
      rw [canWrite_iff hm]
      exact ih hm (ht.ne_definition hedge hm) (by omega)
    show (fragment g cfg (node g cfg depth) x n).Succeeds ↔ _
    rw [succeeds_fragment_iff ht hn hk, forall₂_congr hbelow]
    constructor
    · rintro ⟨hown, hrest⟩ z hz
      rcases Relation.ReflTransGen.cases_head hz with rfl | ⟨y, hxy, hyz⟩
      · exact hown
      · exact hrest y hxy z hyz
    · exact fun h => ⟨h x .refl, fun y hxy z hyz => h z (.head hxy hyz)⟩

/-- A definition can be written when the conditions of all nodes that the writer comes to from its
content can. -/
theorem succeeds_definition_iff (ht : g.Tidy) {name : String} :
    (definition g cfg name).Succeeds ↔ ∀ x, g.contentId? name = some x →
      ∀ y, Relation.ReflTransGen g.Leads x y → CanTest g y := by
  unfold definition content
  cases hid : g.contentId? name with
  | none => exact iff_of_true ⟨_, rfl⟩ fun x hx => by cases hx
  | some x =>
    obtain ⟨d, -, hx⟩ := Option.bind_eq_some_iff.1 hid
    obtain ⟨e, he, rfl, -⟩ := mem_edgesFrom_of_mem_childIds (List.mem_of_head? hx)
    have hedge := ht.owned he
    obtain ⟨n, hn⟩ := Option.isSome_iff_exists.1 (ht.present hedge).1
    have hcontent : (some e.target).mapM (fun id => do return (id, ← g.pointedAt id)) =
        Except.ok (some (e.target, n)) := by
      rw [Option.mapM_some, pointedAt_eq_ok_iff.2 hn]
      rfl
    have hle := subtree_le_size ht.toForest (ht.present hedge).1
    rw [hcontent, ofExcept_ok_bind]
    simp only [Option.some.injEq, forall_eq']
    exact succeeds_node_iff ht _ hn (ht.ne_definition hedge hn) (Nat.le_succ_of_le hle)

end Compile

namespace Graph

open Compile

variable {g : Graph} {cfg : DocumentConfig}

/-- The nodes that are written into the document: those that the writer comes to from the root and
from the contents of the definitions that are wanted. -/
def Written (g : Graph) (cfg : DocumentConfig) (x : NodeId) : Prop :=
  ∃ top, (top = g.rootId ∨ ∃ name, Wanted g cfg name ∧ g.contentId? name = some top) ∧
    Relation.ReflTransGen g.Leads top x

/-- A tidy graph can be written exactly when the conditions of all nodes that are written can. -/
theorem compile_isOk_iff_of_tidy (ht : g.Tidy) :
    (∃ r, g.compile cfg = .ok r) ↔ ∀ x, g.Written cfg x → CanTest g x := by
  have htexts : g.PointsAtTexts := fun id n t hn hv =>
    (ht.target hn hv).imp fun _ h => h.1
  obtain ⟨root, hroot, hkind⟩ := ht.root
  have hwriting : rootWriting g cfg = node g cfg (depth g) g.rootId root :=
    rootWriting_eq (pointedAt_eq_ok_iff.2 hroot)
  have htop : (∃ v, (rootWriting g cfg).run.value = .ok v) ↔
      ∀ y, Relation.ReflTransGen g.Leads g.rootId y → CanTest g y := by
    rw [hwriting]
    exact succeeds_node_iff ht _ hroot (by rw [hkind]; decide)
      (Nat.le_succ_of_le (subtree_le_size ht.toForest (by rw [hroot]; rfl)))
  have hdefinition : ∀ name, Wanted g cfg name →
      ((∃ v, (definition g cfg name).run.value = .ok v) ↔ ∀ x, g.contentId? name = some x →
        ∀ y, Relation.ReflTransGen g.Leads x y → CanTest g y) :=
    fun _ _ => succeeds_definition_iff ht
  rw [compile_isOk_iff htexts, htop, forall₂_congr hdefinition]
  constructor
  · rintro ⟨hall, hwanted⟩ x ⟨top, rfl | ⟨name, hname, hid⟩, hx⟩
    · exact hall x hx
    · exact hwanted name hname top hid x hx
  · intro h
    exact ⟨fun y hy => h y ⟨_, Or.inl rfl, hy⟩,
      fun name hname x hid y hy => h y ⟨x, Or.inr ⟨name, hname, hid⟩, hy⟩⟩

end Graph

end FormGraph

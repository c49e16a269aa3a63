import FormGraph.Proofs.Agreement.Basic
import FormGraph.Proofs.Writing.Wanted
import Mathlib.Logic.Relation

/-!
# The references that are written

From a node the writer goes on to the children of an object, the item of an array and the branches of
a group that it writes (`Graph.WritesOn`): of an `if` block those of the first clause, of any other
group those of all clauses. What is pointed at while a node is written is what the references point at
that the writer comes to in this way from the node (`Compile.pointsAt_node`), whatever the graph looks
like.
-/

namespace FormGraph

/-- The clauses of a group whose branches are written. -/
def Node.writtenClauses (n : Node NodeId) : List (Clause NodeId) :=
  if n.kind = .group .ifBlock then n.clauses.take 1 else n.clauses

namespace Graph

/-- Where the writer goes on to from a node. -/
inductive WritesOn (g : Graph) (x : NodeId) : NodeId → Prop where
  /-- From an object to its children, -/
  | child {n : Node NodeId} {y : NodeId} (node : g.node? x = some n) (object : n.kind = .object)
    (child : y ∈ g.childIds x) : WritesOn g x y
  /-- from an array to its first item, -/
  | item {n : Node NodeId} {y : NodeId} (node : g.node? x = some n) (array : n.kind = .array)
    (first : (g.childIds x).head? = some y) : WritesOn g x y
  /-- and from a group to the branches of the clauses that are written. -/
  | branch {n : Node NodeId} {y : NodeId} {c : Clause NodeId} {k : EdgeKind}
    (node : g.node? x = some n) (written : c ∈ n.writtenClauses) (target : c.target k = some y) :
    WritesOn g x y

/-- A reference that is written with a node points at the value. -/
def PointsFrom (g : Graph) (top : NodeId) (t : Value) : Prop :=
  ∃ x n, Relation.ReflTransGen g.WritesOn top x ∧ g.node? x = some n ∧ n.target? = some t

variable {g : Graph} {x : NodeId} {n : Node NodeId} {t : Value}

/-- The reference is the node itself, or is written with a node that the writer goes on to. -/
theorem pointsFrom_iff (hn : g.node? x = some n) :
    g.PointsFrom x t ↔ n.target? = some t ∨ ∃ y, g.WritesOn x y ∧ g.PointsFrom y t := by
  constructor
  · rintro ⟨z, m, hz, hm, ht⟩
    rcases Relation.ReflTransGen.cases_head hz with rfl | ⟨y, hy, hz⟩
    · exact Or.inl (Option.some.inj (hn.symm.trans hm) ▸ ht)
    · exact Or.inr ⟨y, hy, z, m, hz, hm, ht⟩
  · rintro (ht | ⟨y, hy, z, m, hz, hm, ht⟩)
    · exact ⟨x, n, .refl, hn, ht⟩
    · exact ⟨z, m, .head hy hz, hm, ht⟩

/-- With a node that is missing nothing is written. -/
theorem not_pointsFrom_of_missing (hx : g.node? x = none) : ¬ g.PointsFrom x t := by
  rintro ⟨z, m, hz, hm, -⟩
  rcases Relation.ReflTransGen.cases_head hz with rfl | ⟨y, hy, -⟩
  · rw [hx] at hm
    cases hm
  · cases hy with
    | child node | item node | branch node =>
      rw [hx] at node
      cases node

/-- From an object the writer goes on to its children. -/
theorem writesOn_iff_of_object (hn : g.node? x = some n) (hk : n.kind = .object) {y : NodeId} :
    g.WritesOn x y ↔ y ∈ g.childIds x := by
  constructor
  · intro h
    cases h with
    | child _ _ child => exact child
    | item node array =>
      rw [← Option.some.inj (hn.symm.trans node), hk] at array
      cases array
    | branch node written =>
      rw [← Option.some.inj (hn.symm.trans node), Node.writtenClauses, if_neg (by simp [hk]),
        Node.clauses_eq_nil (by rw [hk]; rfl)] at written
      exact absurd written List.not_mem_nil
  · exact .child hn hk

/-- From an array the writer goes on to its first item. -/
theorem writesOn_iff_of_array (hn : g.node? x = some n) (hk : n.kind = .array) {y : NodeId} :
    g.WritesOn x y ↔ (g.childIds x).head? = some y := by
  constructor
  · intro h
    cases h with
    | item _ _ first => exact first
    | child node object =>
      rw [← Option.some.inj (hn.symm.trans node), hk] at object
      cases object
    | branch node written =>
      rw [← Option.some.inj (hn.symm.trans node), Node.writtenClauses, if_neg (by simp [hk]),
        Node.clauses_eq_nil (by rw [hk]; rfl)] at written
      exact absurd written List.not_mem_nil
  · exact .item hn hk

/-- From any other node the writer goes on to the branches of the clauses that are written. -/
theorem writesOn_iff_of_other (hn : g.node? x = some n) (hobject : n.kind ≠ .object)
    (harray : n.kind ≠ .array) {y : NodeId} :
    g.WritesOn x y ↔ ∃ c ∈ n.writtenClauses, ∃ k, c.target k = some y := by
  constructor
  · intro h
    cases h with
    | child node object => exact absurd (Option.some.inj (hn.symm.trans node) ▸ object) hobject
    | item node array => exact absurd (Option.some.inj (hn.symm.trans node) ▸ array) harray
    | branch node written target =>
      exact ⟨_, Option.some.inj (hn.symm.trans node) ▸ written, _, target⟩
  · rintro ⟨c, hc, k, hk⟩
    exact .branch hn hc hk

end Graph

/-! ## Writings that point at values -/

namespace Compiling

variable {α β : Type} {P Q : Value → Prop}

/-- Where the writing succeeds, exactly these values are pointed at. -/
def PointsAt (x : Compiling α) (P : Value → Prop) : Prop :=
  ∀ a, x.run.value = .ok a → ∀ t, t ∈ x.references ↔ P t

namespace PointsAt

theorem congr {x : Compiling α} (h : x.PointsAt P) (hPQ : ∀ t, P t ↔ Q t) : x.PointsAt Q :=
  fun a ha t => (h a ha t).trans (hPQ t)

/-- Nothing is pointed at where only warnings are noted. -/
theorem silent {x : Compiling α} (h : x.run.All fun n => n.reference? = none) :
    x.PointsAt fun _ => False := by
  refine fun a _ t => iff_of_false (fun ht => ?_) id
  obtain ⟨n, hn, href⟩ := List.mem_filterMap.1 ht
  rw [h n hn] at href
  cases href

theorem pure (a : α) : (Pure.pure a : Compiling α).PointsAt fun _ => False := silent (all_pure a)

theorem ofExcept (x : Except Fault α) : (Compiling.ofExcept x).PointsAt fun _ => False :=
  silent (all_ofExcept x)

theorem reference (target : Value) : (note (.reference target)).PointsAt fun t => t = target :=
  fun _ _ _ => List.mem_singleton

/-- One step after the other points at what each of them does. -/
theorem bind {x : Compiling α} {f : α → Compiling β} (hx : x.PointsAt P)
    (hf : ∀ a, x.run.value = .ok a → (f a).PointsAt Q) :
    (x >>= f).PointsAt fun t => P t ∨ Q t := by
  intro b hb t
  obtain ⟨a, ha, hb⟩ := value_bind_eq_ok_iff.1 hb
  rw [references_bind ha, List.mem_append, hx a ha t, hf a ha b hb t]

/-- A step first that points at nothing. -/
theorem after {x : Compiling α} {f : α → Compiling β} (hx : x.PointsAt fun _ => False)
    (hf : ∀ a, x.run.value = .ok a → (f a).PointsAt Q) : (x >>= f).PointsAt Q :=
  (hx.bind hf).congr fun _ => or_iff_right id

/-- A step last that points at nothing. -/
theorem andThen {x : Compiling α} {f : α → Compiling β} (hx : x.PointsAt P)
    (hf : ∀ a, (f a).PointsAt fun _ => False) : (x >>= f).PointsAt P :=
  (hx.bind fun a _ => hf a).congr fun _ => or_iff_left id

theorem mapM {f : α → Compiling β} {P : α → Value → Prop} {as : List α}
    (h : ∀ a ∈ as, (f a).PointsAt (P a)) : (as.mapM f).PointsAt fun t => ∃ a ∈ as, P a t := by
  induction as with
  | nil =>
    rw [List.mapM_nil]
    exact (pure []).congr fun _ => iff_of_false id fun ⟨_, ha, _⟩ => List.not_mem_nil ha
  | cons a as ih =>
    rw [List.mapM_cons]
    refine ((h a List.mem_cons_self).bind fun b _ =>
      (ih fun x hx => h x (List.mem_cons_of_mem _ hx)).andThen fun _ => pure _).congr fun t => ?_
    simp only [List.mem_cons, exists_eq_or_imp]

theorem foldlM {f : β → α → Compiling β} {P : α → Value → Prop} {as : List α}
    (h : ∀ a ∈ as, ∀ b, (f b a).PointsAt (P a)) (b : β) :
    (as.foldlM f b).PointsAt fun t => ∃ a ∈ as, P a t := by
  induction as generalizing b with
  | nil =>
    rw [List.foldlM_nil]
    exact (pure b).congr fun _ => iff_of_false id fun ⟨_, ha, _⟩ => List.not_mem_nil ha
  | cons a as ih =>
    rw [List.foldlM_cons]
    refine ((h a List.mem_cons_self b).bind fun c _ =>
      ih (fun x hx => h x (List.mem_cons_of_mem _ hx)) c).congr fun t => ?_
    simp only [List.mem_cons, exists_eq_or_imp]

end PointsAt

end Compiling

namespace Compile

open Graph Compiling

variable {g : Graph} {cfg : DocumentConfig} {below : NodeId → Node NodeId → Compiling Value}

/-! ## One node -/

/-- Both branches of a clause. -/
theorem exists_target_iff (g : Graph) (c : Clause NodeId) (t : Value) :
    ((∃ y, c.onTrue = some y ∧ g.PointsFrom y t) ∨ ∃ y, c.onFalse = some y ∧ g.PointsFrom y t) ↔
      ∃ k y, c.target k = some y ∧ g.PointsFrom y t := by
  constructor
  · rintro (⟨y, hy, ht⟩ | ⟨y, hy, ht⟩)
    · exact ⟨.thenBranch, y, hy, ht⟩
    · exact ⟨.elseBranch, y, hy, ht⟩
  · rintro ⟨k, y, hy, ht⟩
    cases k with
    | child => cases hy
    | thenBranch => exact Or.inl ⟨y, hy, ht⟩
    | elseBranch => exact Or.inr ⟨y, hy, ht⟩

section Below

variable (hbelow : ∀ x m, g.node? x = some m → (below x m).PointsAt (g.PointsFrom x))

include hbelow

theorem pointsAt_branch (x : NodeId) : (branch g below x).PointsAt (g.PointsFrom x) := by
  unfold branch
  cases hx : g.node? x with
  | none =>
    exact (PointsAt.silent (all_bind (all_note rfl) fun _ _ => all_pure _)).congr fun t =>
      iff_of_false id (not_pointsFrom_of_missing hx)
  | some m =>
    refine (hbelow x m hx).andThen fun v => ?_
    split_ifs <;> exact .pure _

theorem pointsAt_branchUnder (keyword : String) (target : Option NodeId) :
    (branchUnder g below keyword target).PointsAt
      fun t => ∃ y, target = some y ∧ g.PointsFrom y t := by
  cases target with
  | none => exact (PointsAt.pure _).congr fun t => by simp
  | some y => exact ((pointsAt_branch hbelow y).andThen fun _ => .pure _).congr fun t => by simp

theorem pointsAt_clause (kind : GroupKind) (c : Clause NodeId) :
    (clause g cfg below kind c).PointsAt
      fun t => ∃ k y, c.target k = some y ∧ g.PointsFrom y t := by
  unfold clause
  refine ((PointsAt.ofExcept _).after fun test _ => (pointsAt_branchUnder hbelow "then" _).bind
    fun _ _ => (pointsAt_branchUnder hbelow "else" _).andThen fun _ => .pure _).congr ?_
  exact exists_target_iff g c

theorem pointsAt_ifBlock (cs : List (Clause NodeId)) :
    (ifBlock g below cs).PointsAt
      fun t => ∃ c ∈ cs.take 1, ∃ k y, c.target k = some y ∧ g.PointsFrom y t := by
  cases cs with
  | nil => exact (PointsAt.pure _).congr fun t => by simp
  | cons c cs =>
    refine ((PointsAt.ofExcept _).after fun tests _ => (pointsAt_branchUnder hbelow "then" _).bind
      fun _ _ => (pointsAt_branchUnder hbelow "else" _).andThen fun _ => .pure _).congr fun t => ?_
    rw [exists_target_iff g c t]
    simp

theorem pointsAt_group {x : NodeId} {n : Node NodeId} {kind : GroupKind}
    {cs : List (Clause NodeId)} (hbody : n.body = .group kind cs) :
    (group g cfg below x n kind cs).PointsAt
      fun t => ∃ c ∈ n.writtenClauses, ∃ k y, c.target k = some y ∧ g.PointsFrom y t := by
  have hkind : n.kind = .group kind := by rw [Node.kind, hbody]; rfl
  have hclauses : n.clauses = cs := by rw [Node.clauses, hbody]; rfl
  have hunused : (noteUnused g x n).PointsAt fun _ => False :=
    .silent (all_noteUnused (fun _ _ => rfl) x n)
  unfold group Node.writtenClauses
  rw [hclauses, hkind]
  refine hunused.after fun _ _ => ?_
  cases kind with
  | ifBlock =>
    rw [if_pos rfl]
    exact (pointsAt_ifBlock hbelow cs).andThen fun _ => .pure _
  | allOf | anyOf | oneOf =>
    rw [if_neg (by decide)]
    exact (PointsAt.mapM fun c _ => pointsAt_clause hbelow _ c).andThen fun _ =>
      .silent (all_bind (all_pure _) fun _ _ => all_pure _)

theorem pointsAt_objectBody (x : NodeId) (n : Node NodeId) :
    (objectBody g below x n).PointsAt fun t => ∃ y ∈ g.childIds x, g.PointsFrom y t := by
  unfold objectBody
  refine (PointsAt.ofExcept _).after fun cs hcs => ?_
  obtain ⟨hids, hnodes⟩ := children_ok (show g.children x = .ok cs from hcs)
  have hparts : (cs.foldlM (objectChild below) {}).PointsAt
      fun t => ∃ c ∈ cs, g.PointsFrom c.1 t := by
    refine .foldlM (fun c hc parts => ?_) _
    unfold objectChild
    refine (hbelow c.1 c.2 (hnodes c hc)).andThen fun v => ?_
    split_ifs <;> exact .pure _
  refine (hparts.andThen fun parts =>
    (PointsAt.silent (all_groupList (fun _ _ => rfl) n _)).after fun _ _ => .pure _).congr fun t => ?_
  rw [← hids]
  simp only [List.mem_map, Prod.exists, exists_and_right, exists_eq_right]

theorem pointsAt_arrayBody (x : NodeId) :
    (arrayBody g below x).PointsAt
      fun t => ∃ y, (g.childIds x).head? = some y ∧ g.PointsFrom y t := by
  unfold arrayBody
  cases g.childIds x with
  | nil => exact (PointsAt.pure _).congr fun t => by simp
  | cons y ys =>
    refine ((PointsAt.ofExcept _).after fun m hm =>
      (hbelow y m (pointedAt_eq_ok_iff.1 hm)).andThen fun _ => .pure _).congr fun t => ?_
    simp

/-- What is pointed at while a node is written, when that is so for all nodes below it. -/
theorem pointsAt_fragment {x : NodeId} {n : Node NodeId} (hn : g.node? x = some n) :
    (fragment g cfg below x n).PointsAt (g.PointsFrom x) := by
  have hfrom := fun t => pointsFrom_iff (t := t) hn
  have hkind : n.kind = n.body.kind := rfl
  unfold fragment
  cases hbody : n.body with
  | group kind cs =>
    rw [hbody] at hkind
    refine (pointsAt_group hbelow hbody).congr fun t => ?_
    rw [hfrom t, Node.target?, hbody]
    simp only [writesOn_iff_of_other hn (by rw [hkind]; simp [Body.kind])
      (by rw [hkind]; simp [Body.kind]), reduceCtorEq, false_or]
    constructor
    · rintro ⟨c, hc, k, y, hy, ht⟩
      exact ⟨y, ⟨c, hc, k, hy⟩, ht⟩
    · rintro ⟨y, ⟨c, hc, k, hy⟩, ht⟩
      exact ⟨c, hc, k, y, hy, ht⟩
  | reference target =>
    rw [hbody] at hkind
    have hnone : ∀ y, ¬ g.WritesOn x y := by
      intro y
      rw [writesOn_iff_of_other hn (by rw [hkind]; simp [Body.kind]) (by rw [hkind]; simp [Body.kind]),
        Node.writtenClauses, if_neg (by rw [hkind]; simp [Body.kind]),
        Node.clauses_eq_nil (by rw [hkind]; rfl)]
      rintro ⟨c, hc, -⟩
      exact List.not_mem_nil hc
    have hreference : (do
        Compiling.note (.reference target)
        return .obj (withExtras n (("$ref", .str (pointer target)) :: annotations n)) :
          Compiling Value).PointsAt (g.PointsFrom x) := by
      refine ((PointsAt.reference target).andThen fun _ => .pure _).congr fun t => ?_
      rw [hfrom t, Node.target?, hbody]
      simp only [hnone, false_and, exists_false, or_false, Option.some.injEq]
      exact eq_comm
    dsimp only
    split_ifs
    · exact (PointsAt.silent (all_throw _)).after fun a ha => by cases ha
    · exact hreference
  | object own =>
    rw [hbody] at hkind
    refine ((pointsAt_objectBody hbelow x n).andThen fun _ => .pure _).congr fun t => ?_
    rw [hfrom t, Node.target?, hbody]
    simp only [writesOn_iff_of_object hn hkind, reduceCtorEq, false_or]
  | array own =>
    rw [hbody] at hkind
    refine ((pointsAt_arrayBody hbelow x).andThen fun _ => .pure _).congr fun t => ?_
    rw [hfrom t, Node.target?, hbody]
    simp only [writesOn_iff_of_array hn hkind, reduceCtorEq, false_or]
  | string | number | boolean | enum | definition =>
    rw [hbody] at hkind
    refine ((PointsAt.pure _).after fun _ _ => .pure _).congr fun t => iff_of_false id ?_
    rw [hfrom t, Node.target?, hbody]
    simp only [writesOn_iff_of_other hn (by rw [hkind]; simp [Body.kind])
      (by rw [hkind]; simp [Body.kind]), Node.writtenClauses, Node.clauses, hbody]
    simp [hkind, Body.kind, Body.clauses]

end Below

/-! ## A node with what is below it, and a definition -/

/-- What is pointed at while a node is written. -/
theorem pointsAt_node (depth : Nat) : ∀ x n, g.node? x = some n →
    (node g cfg depth x n).PointsAt (g.PointsFrom x) := by
  induction depth with
  | zero => exact fun _ _ _ a ha => by cases ha
  | succ depth ih => exact fun x n hn => pointsAt_fragment ih hn

theorem pointsAt_rootWriting : (rootWriting g cfg).PointsAt (g.PointsFrom g.rootId) :=
  (PointsAt.ofExcept _).after fun n hn => pointsAt_node _ _ n (pointedAt_eq_ok_iff.1 hn)

/-- What is pointed at while the content of a definition is written. -/
theorem pointsAt_definition (name : String) : (definition g cfg name).PointsAt
    fun t => ∃ top, g.contentId? name = some top ∧ g.PointsFrom top t := by
  unfold definition
  refine (PointsAt.ofExcept _).after fun content hcontent => ?_
  cases content with
  | none =>
    refine (PointsAt.pure _).congr fun t => iff_of_false id ?_
    rintro ⟨top, htop, -⟩
    have hcontent : g.content name = .ok none := hcontent
    unfold content at hcontent
    rw [htop, Option.mapM_some] at hcontent
    cases hm : g.pointedAt top <;> rw [hm] at hcontent <;> cases hcontent
  | some c =>
    obtain ⟨top, m⟩ := c
    obtain ⟨htop, hm⟩ := content_ok (show g.content name = .ok (some (top, m)) from hcontent)
    refine (pointsAt_node _ top m hm).congr fun t => ?_
    simp [htop]

end Compile

end FormGraph

import FormGraph.Proofs.Ownership.Import
import FormGraph.Proofs.Ownership.Change

/-!
# Clauses that agree with the edges

A clause names its branches, and so do the edges below its group. The two agree when every branch
that a clause names hangs below the group of the clause over an edge of the matching kind. What the
clauses of a graph name is `Points`; a step of an edit is described by what it does to `Points` and
to the owning edges.
-/

namespace FormGraph

namespace Clause

/-- Names that agree on the branches of a clause give it the same branches. -/
theorem bindTargets_congr {c : Clause NodeId} {f h : NodeId → Option NodeId}
    (heq : ∀ k, ∀ t ∈ c.target k, f t = h t) : c.bindTargets f = c.bindTargets h := by
  have hone : ∀ k, (c.target k).bind f = (c.target k).bind h :=
    fun k => Option.bind_congr (heq k)
  show (⟨c.condition, c.onTrue.bind f, c.onFalse.bind f⟩ : Clause NodeId) =
    ⟨c.condition, c.onTrue.bind h, c.onFalse.bind h⟩
  exact congr (congrArg (Clause.mk c.condition) (hone .thenBranch)) (hone .elseBranch)

theorem bindTargets_some (c : Clause NodeId) : c.bindTargets some = c := by
  obtain ⟨_, onTrue, onFalse⟩ := c
  simp [bindTargets]

/-- Names that are kept leave a clause as it is. -/
theorem bindTargets_eq_self {c : Clause NodeId} {f : NodeId → Option NodeId}
    (h : ∀ k, ∀ t ∈ c.target k, f t = some t) : c.bindTargets f = c :=
  (bindTargets_congr h).trans c.bindTargets_some

/-- Clauses let go of nothing that they do not name. -/
theorem map_bindTargets_eq_self {cs : List (Clause NodeId)} {f : NodeId → Option NodeId}
    (h : ∀ c ∈ cs, ∀ k, ∀ t ∈ c.target k, f t = some t) : cs.map (bindTargets f) = cs :=
  (List.map_congr_left fun c hc => bindTargets_eq_self (h c hc)).trans (List.map_id cs)

theorem bindTargets_bindTargets (f h : NodeId → Option NodeId) (c : Clause NodeId) :
    (c.bindTargets f).bindTargets h = c.bindTargets fun t => (f t).bind h := by
  show (⟨c.condition, (c.onTrue.bind f).bind h, (c.onFalse.bind f).bind h⟩ : Clause NodeId) = _
  rw [Option.bind_assoc, Option.bind_assoc]
  rfl

end Clause

/-- What is new has no clauses. -/
theorem Body.clauses_initial (kind : NodeKind) : (Body.initial kind : Body ρ).clauses = [] := by
  cases kind <;> rfl

namespace Node

/-- What is written into the clauses of a node is there if the node is a group. -/
theorem clauses_setClauses (n : Node ρ) (cs : List (Clause ρ)) :
    (n.setClauses cs).clauses = if n.kind.isGroup then cs else [] := by
  obtain ⟨_, body, _, _, _, _, _, _, _⟩ := n
  cases body <;> rfl

theorem clauses_eq_nil {n : Node ρ} (h : n.kind.isGroup = false) : n.clauses = [] := by
  obtain ⟨_, body, _, _, _, _, _, _, _⟩ := n
  cases body with
  | group k cs => simp [kind, Body.kind, NodeKind.isGroup] at h
  | string | number | boolean | enum | object | array | definition | reference => rfl

theorem clauses_setClauses_map (n : Node ρ) (f : Clause ρ → Clause ρ) :
    (n.setClauses (n.clauses.map f)).clauses = n.clauses.map f := by
  rw [clauses_setClauses]
  cases h : n.kind.isGroup with
  | true => rfl
  | false => simp [clauses_eq_nil h]

/-- Writing clauses that come from those of the node is changing its clauses. -/
theorem setClauses_map (n : Node NodeId) (f : Clause NodeId → Clause NodeId) :
    n.setClauses (n.clauses.map f) = n.mapClauses f := by
  obtain ⟨_, body, _, _, _, _, _, _, _⟩ := n
  cases body <;> rfl

/-- Changes that agree on the clauses of a node make the same of it. -/
theorem mapClauses_congr {n : Node NodeId} {f h : Clause NodeId → Clause NodeId}
    (heq : ∀ c ∈ n.clauses, f c = h c) : n.mapClauses f = n.mapClauses h := by
  obtain ⟨_, body, _, _, _, _, _, _, _⟩ := n
  cases body with
  | group k cs =>
    have hcs : cs.map f = cs.map h := List.map_congr_left heq
    simp only [mapClauses, Body.mapClauses, hcs]
  | string | number | boolean | enum | object | array | definition | reference => rfl

/-- Changing clauses into themselves changes nothing. -/
theorem mapClauses_eq_self {n : Node NodeId} {f : Clause NodeId → Clause NodeId}
    (h : ∀ c ∈ n.clauses, f c = c) : n.mapClauses f = n := by
  refine (mapClauses_congr (h := id) h).trans ?_
  obtain ⟨_, body, _, _, _, _, _, _, _⟩ := n
  cases body <;> simp [mapClauses, Body.mapClauses]

/-- Names that agree on the branches of a node's clauses give it the same clauses. -/
theorem bindTargets_congr {n : Node NodeId} {f h : NodeId → Option NodeId}
    (heq : ∀ c ∈ n.clauses, ∀ k, ∀ t ∈ c.target k, f t = h t) :
    n.mapClauses (Clause.bindTargets f) = n.mapClauses (Clause.bindTargets h) :=
  mapClauses_congr fun c hc => Clause.bindTargets_congr (heq c hc)

/-- Renaming branches to themselves changes nothing. -/
theorem mapClauses_bindTargets_some (n : Node NodeId) :
    n.mapClauses (Clause.bindTargets some) = n :=
  mapClauses_eq_self fun c _ => c.bindTargets_some

end Node

theorem Clause.isBranch_of_target {c : Clause ρ} {k : EdgeKind} {t : ρ} (h : c.target k = some t) :
    k.isBranch = true := by
  cases k with
  | child => simp [Clause.target] at h
  | thenBranch | elseBranch => rfl

namespace Graph

variable {g g' : Graph}

/-- The clauses of the node of that name. -/
def clausesAt (g : Graph) (id : NodeId) : List (Clause NodeId) :=
  ((g.node? id).map Node.clauses).getD []

theorem clausesAt_of_node? {id : NodeId} {n : Node NodeId} (h : g.node? id = some n) :
    g.clausesAt id = n.clauses := by
  rw [clausesAt, h, Option.map_some, Option.getD_some]

theorem clausesAt_of_absent {id : NodeId} (h : g.node? id = none) : g.clausesAt id = [] := by
  rw [clausesAt, h, Option.map_none, Option.getD_none]

theorem clausesAt_congr {id : NodeId} (h : g'.node? id = g.node? id) :
    g'.clausesAt id = g.clausesAt id := by
  rw [clausesAt, clausesAt, h]

theorem clausesAt_putNode (id : NodeId) (n : Node NodeId) (x : NodeId) :
    (g.putNode id n).clausesAt x = if id = x then n.clauses else g.clausesAt x := by
  rw [clausesAt, node?_putNode]
  split <;> rfl

@[simp] theorem clausesAt_wire (e : Edge) (es : List Edge) (x : NodeId) :
    (g.wire e es).clausesAt x = g.clausesAt x := rfl

@[simp] theorem clausesAt_next (x : NodeId) : g.next.clausesAt x = g.clausesAt x := rfl

@[simp] theorem clausesAt_detach (id x : NodeId) :
    (g.detach id).clausesAt x = g.clausesAt x :=
  clausesAt_congr (node?_detach g id x)

theorem clausesAt_dropAll (ids : List NodeId) (x : NodeId) :
    (g.dropAll ids).clausesAt x = if x ∈ ids then [] else g.clausesAt x := by
  rw [clausesAt, node?_dropAll]
  split <;> rfl

theorem clausesAt_retarget (id old : NodeId) (new : Option NodeId) (x : NodeId) :
    (g.retarget id old new).clausesAt x =
      if id = x then
        (g.clausesAt x).map (Clause.bindTargets fun t => if t = old then new else some t)
      else g.clausesAt x := by
  rw [clausesAt, node?_retarget]
  split
  · rw [Option.map_map]
    cases hn : g.node? x with
    | none => rw [clausesAt_of_absent hn]; rfl
    | some n =>
      rw [clausesAt_of_node? hn]
      exact Node.clauses_setClauses_map n _
  · rfl

/-- The group that a branch leaves lets go of it in its clauses. -/
theorem Forest.node?_freed_group (hf : Forest g) {id : NodeId} {e : Edge} (ho : g.owningEdge id = some e)
    (hk : e.kind.isBranch = true) :
    (g.freed id).node? e.source = (g.node? e.source).map fun n =>
      n.mapClauses (Clause.bindTargets fun t => if t = id then none else some t) := by
  obtain rfl : e.target = id := (hf.listed ho).1
  rw [freed, ho, node?_releaseBranch]
  dsimp only
  rw [if_pos ⟨hk, rfl⟩, node?_detach]
  congr 1
  funext n
  exact Node.setClauses_map n _

/-- A node that is not the group that a branch leaves stays. -/
theorem node?_freed_of_ne {id x : NodeId}
    (hx : ∀ e, g.owningEdge id = some e → e.kind.isBranch = true → e.source ≠ x) :
    (g.freed id).node? x = g.node? x := by
  rw [freed, node?_releaseBranch, node?_detach]
  cases ho : g.owningEdge id with
  | none => rfl
  | some e => exact if_neg fun h => hx e ho h.1 h.2

/-- The clauses of the group that a branch leaves let go of it, and those of other groups stay. -/
theorem Forest.clausesAt_freed (hf : Forest g) (id x : NodeId) :
    (g.freed id).clausesAt x =
        (g.clausesAt x).map (Clause.bindTargets fun t => if t = id then none else some t) ∨
      (g.freed id).clausesAt x = g.clausesAt x ∧
        ∀ e, g.owningEdge id = some e → e.kind.isBranch = true → e.source ≠ x := by
  by_cases hgroup : ∀ e, g.owningEdge id = some e → e.kind.isBranch = true → e.source ≠ x
  · exact Or.inr ⟨clausesAt_congr (node?_freed_of_ne hgroup), hgroup⟩
  · push Not at hgroup
    obtain ⟨e, ho, hk, rfl⟩ := hgroup
    refine Or.inl ?_
    rw [clausesAt, clausesAt, hf.node?_freed_group ho hk]
    cases g.node? e.source with
    | none => rfl
    | some n => exact Node.clauses_mapClauses n _

/-- A clause of the group names the node as its branch of the kind. -/
def Points (g : Graph) (id t : NodeId) (k : EdgeKind) : Prop :=
  ∃ c ∈ g.clausesAt id, c.target k = some t

theorem Points.isBranch {id t : NodeId} {k : EdgeKind} (h : g.Points id t k) :
    k.isBranch = true := by
  obtain ⟨c, _, ht⟩ := h
  exact Clause.isBranch_of_target ht

theorem Points.congr {id t : NodeId} {k : EdgeKind} (h : g'.Points id t k)
    (he : g'.clausesAt id = g.clausesAt id) : g.Points id t k := by
  obtain ⟨c, hc, ht⟩ := h
  exact ⟨c, he ▸ hc, ht⟩

/-- A node that no clause names leaves all nodes as they are. -/
theorem Forest.node?_freed_of_unnamed (hf : Forest g) {id : NodeId}
    (h : ∀ x k, ¬ g.Points x id k) (x : NodeId) : (g.freed id).node? x = g.node? x := by
  by_cases hgroup : ∀ e, g.owningEdge id = some e → e.kind.isBranch = true → e.source ≠ x
  · exact node?_freed_of_ne hgroup
  · push Not at hgroup
    obtain ⟨e, ho, hk, rfl⟩ := hgroup
    rw [hf.node?_freed_group ho hk]
    cases hn : g.node? e.source with
    | none => rfl
    | some n =>
      refine congrArg some ((Node.bindTargets_congr fun c hc k t ht => if_neg ?_).trans
        (Node.mapClauses_bindTargets_some n))
      rintro rfl
      exact h e.source k ⟨c, clausesAt_of_node? hn ▸ hc, ht⟩

/-- What the clauses name after `old` was made `new` is something else that they named, or `new` in
the place of `old`. -/
theorem Points.of_retarget {id old x t : NodeId} {new : Option NodeId} {k : EdgeKind}
    (h : (g.retarget id old new).Points x t k) :
    (g.Points x t k ∧ (id = x → t ≠ old)) ∨ (id = x ∧ new = some t ∧ g.Points x old k) := by
  obtain ⟨c, hc, ht⟩ := h
  rw [clausesAt_retarget] at hc
  by_cases hx : id = x
  · rw [if_pos hx] at hc
    obtain ⟨d, hd, rfl⟩ := List.mem_map.1 hc
    rw [Clause.target_bindTargets, Option.bind_eq_some_iff] at ht
    obtain ⟨u, hu, ht⟩ := ht
    by_cases hold : u = old
    · rw [if_pos hold] at ht
      exact Or.inr ⟨hx, ht, d, hd, hold ▸ hu⟩
    · rw [if_neg hold] at ht
      obtain rfl := Option.some.inj ht
      exact Or.inl ⟨⟨d, hd, hu⟩, fun _ => hold⟩
  · rw [if_neg hx] at hc
    exact Or.inl ⟨⟨c, hc, ht⟩, fun h => absurd h hx⟩

/-- Every branch that a clause names hangs below the group, over a branch edge of a kind that `suits`
the place in the clause. -/
def Attached (suits : EdgeKind → EdgeKind → Prop) (g : Graph) : Prop :=
  ∀ ⦃id t : NodeId⦄ ⦃k : EdgeKind⦄, g.Points id t k →
    ∃ k', suits k k' ∧ k'.isBranch = true ∧ g.owningEdge t = some ⟨id, t, k'⟩

/-- Every branch that a clause names hangs below the group over an edge of its kind. -/
abbrev Agrees (g : Graph) : Prop := Attached Eq g

theorem Agrees.edge (ha : Agrees g) {id t : NodeId} {k : EdgeKind} (hp : g.Points id t k) :
    g.owningEdge t = some ⟨id, t, k⟩ := by
  obtain ⟨_, rfl, _, ho⟩ := ha hp
  exact ho

theorem agrees_iff :
    Agrees g ↔ ∀ ⦃id t : NodeId⦄ ⦃k : EdgeKind⦄, g.Points id t k →
      g.owningEdge t = some ⟨id, t, k⟩ :=
  ⟨fun ha _ _ _ hp => ha.edge hp, fun h _ _ k hp => ⟨k, rfl, hp.isBranch, h hp⟩⟩

namespace Attached

variable {suits : EdgeKind → EdgeKind → Prop}

/-- A step after which the clauses name nothing new, and nothing that changed its owner, leaves what
they name attached. -/
theorem shrink (ha : Attached suits g)
    (h : ∀ {x t k}, g'.Points x t k → g.Points x t k ∧ g'.owningEdge t = g.owningEdge t) :
    Attached suits g' := by
  intro id t k hp
  obtain ⟨hp, ho⟩ := h hp
  rw [ho]
  exact ha hp

/-- Clauses do not name nodes that are not there. -/
theorem target_present (ha : Attached suits g) (hf : Forest g) {id t : NodeId} {k : EdgeKind}
    (hp : g.Points id t k) : (g.node? t).isSome := by
  obtain ⟨_, _, _, ho⟩ := ha hp
  exact (hf.present ho).1

/-- What a clause names hangs below its group. -/
theorem source_eq (ha : Attached suits g) {id t : NodeId} {k : EdgeKind} {e : Edge}
    (hp : g.Points id t k) (ho : g.owningEdge t = some e) :
    e.source = id ∧ suits k e.kind ∧ e.kind.isBranch = true := by
  obtain ⟨_, hk, hbranch, howner⟩ := ha hp
  rw [ho] at howner
  obtain rfl := Option.some.inj howner
  exact ⟨rfl, hk, hbranch⟩

/-- Where a node is taken off its branch, all clauses let go of it. -/
theorem clausesAt_freed (ha : Attached suits g) (hf : Forest g) (id x : NodeId) :
    (g.freed id).clausesAt x =
      (g.clausesAt x).map (Clause.bindTargets fun t => if t = id then none else some t) := by
  rcases hf.clausesAt_freed id x with h | ⟨h, hgroup⟩
  · exact h
  · -- a group that the node does not leave as a branch does not name it
    refine h.trans (Clause.map_bindTargets_eq_self fun c hc k t ht => if_neg ?_).symm
    rintro rfl
    obtain ⟨_, _, hbranch, ho⟩ := ha ⟨c, hc, ht⟩
    exact hgroup _ ho hbranch rfl

/-- A node that is taken off its branch is named by no clause any more. -/
theorem released (ha : Attached suits g) (hf : Forest g) {id x t : NodeId} {k : EdgeKind}
    (hp : (g.freed id).Points x t k) : g.Points x t k ∧ t ≠ id := by
  obtain ⟨c, hc, ht⟩ := hp
  rw [ha.clausesAt_freed hf] at hc
  obtain ⟨d, hd, rfl⟩ := List.mem_map.1 hc
  rw [Clause.target_bindTargets, Option.bind_eq_some_iff] at ht
  obtain ⟨u, hu, hut⟩ := ht
  split_ifs at hut with hne
  obtain rfl := Option.some.inj hut
  exact ⟨⟨d, hd, hu⟩, hne⟩

/-- Something new hangs in the place of a branch, and the clauses that named the branch come to name
what is new. -/
theorem replaced {e : Edge} {old new : NodeId}
    (hnew : g.owningEdge new = some ⟨e.source, new, e.kind⟩)
    (hold : ∀ x k, g.Points x old k → e.source = x ∧ suits k e.kind ∧ e.kind.isBranch = true)
    (hrest : ∀ x t k, g.Points x t k → t ≠ old →
      ∃ k', suits k k' ∧ k'.isBranch = true ∧ g.owningEdge t = some ⟨x, t, k'⟩) :
    Attached suits (if e.kind.isBranch then g.retarget e.source old (some new) else g) := by
  intro x t k hp
  by_cases hk : e.kind.isBranch = true
  · rw [if_pos hk] at hp ⊢
    rw [owningEdge_retarget]
    rcases hp.of_retarget with ⟨hp, hne⟩ | ⟨_, ht, hp⟩
    · refine hrest x t k hp fun heq => ?_
      rw [heq] at hp
      exact hne (hold x k hp).1 heq
    · obtain ⟨hx, hkind, _⟩ := hold x k hp
      refine ⟨e.kind, hkind, hk, ?_⟩
      rw [← Option.some.inj ht, hnew, hx]
  · rw [if_neg hk] at hp ⊢
    refine hrest x t k hp fun heq => hk ?_
    rw [heq] at hp
    exact (hold x k hp).2.2

/-- Writing clauses that name branches of the group leaves what clauses name attached. -/
theorem write (ha : Attached suits g) {id : NodeId} {n : Node NodeId} {cs : List (Clause NodeId)}
    (hn : ∀ c ∈ cs, ∀ {t k}, c.target k = some t →
      ∃ k', suits k k' ∧ k'.isBranch = true ∧ g.owningEdge t = some ⟨id, t, k'⟩) :
    Attached suits (g.putNode id (n.setClauses cs)).next := by
  intro x t k hp
  obtain ⟨c, hc, ht⟩ := hp
  rw [clausesAt_next, clausesAt_putNode] at hc
  by_cases hx : id = x
  · rw [if_pos hx, Node.clauses_setClauses] at hc
    split_ifs at hc
    · rw [owningEdge_next, owningEdge_putNode, ← hx]
      exact hn c hc ht
    · simp at hc
  · rw [if_neg hx] at hc
    exact ha ⟨c, hc, ht⟩

end Attached

end Graph

end FormGraph

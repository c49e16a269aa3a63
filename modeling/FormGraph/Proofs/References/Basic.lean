import FormGraph.Proofs.Ownership.Change
import FormGraph.Proofs.Reachable

/-!
# Where references point

References are names, not edges: nothing but `targetAt` sees them. A step of an edit is described by
what it does to it, and most steps leave it as it is. Removing a reference takes its target away and
that of no other node; copying a subtree brings in the targets of the originals once more.
-/

namespace FormGraph

namespace Node

@[simp] theorem target?_setClauses (n : Node ρ) (cs : List (Clause ρ)) :
    (n.setClauses cs).target? = n.target? := by
  obtain ⟨_, body, _, _, _, _, _, _, _⟩ := n
  cases body <;> rfl

theorem kind_of_target? {n : Node ρ} {v : Value} (h : n.target? = some v) : n.kind = .reference := by
  obtain ⟨_, body, _, _, _, _, _, _, _⟩ := n
  cases body with
  | reference target => rfl
  | string | number | boolean | enum | object | array | group | definition => simp [target?] at h

theorem target?_of_kind {n : Node ρ} (h : n.kind = .reference) : ∃ v, n.target? = some v := by
  obtain ⟨_, body, _, _, _, _, _, _, _⟩ := n
  cases body with
  | reference target => exact ⟨target, rfl⟩
  | string | number | boolean | enum | object | array | group | definition =>
    simp [kind, Body.kind] at h

end Node

namespace Graph

variable {g g' old : Graph} {s : IdSupply}

/-- Where the node of that name points, if it is a reference. -/
def targetAt (g : Graph) (id : NodeId) : Option Value := (g.node? id).bind Node.target?

theorem targetAt_eq_some_iff {id : NodeId} {v : Value} :
    g.targetAt id = some v ↔ ∃ n, g.node? id = some n ∧ n.target? = some v :=
  Option.bind_eq_some_iff

theorem targetAt_of_node? {id : NodeId} {n : Node NodeId} (h : g.node? id = some n) :
    g.targetAt id = n.target? := by
  rw [targetAt, h, Option.bind_some]

theorem targetAt_of_absent {id : NodeId} (h : g.node? id = none) : g.targetAt id = none := by
  rw [targetAt, h, Option.bind_none]

theorem present_of_targetAt {id : NodeId} {v : Value} (h : g.targetAt id = some v) :
    (g.node? id).isSome := by
  obtain ⟨n, hn, _⟩ := targetAt_eq_some_iff.1 h
  rw [hn]
  rfl

theorem mem_referencesTo_iff {name : String} {id : NodeId} :
    id ∈ g.referencesTo name ↔ g.targetAt id = some (.str name) := by
  unfold referencesTo
  rw [List.mem_map, targetAt_eq_some_iff]
  constructor
  · rintro ⟨⟨id, n⟩, hmem, rfl⟩
    obtain ⟨hentry, htarget⟩ := List.mem_filter.1 hmem
    exact ⟨n, Table.mem_entries_iff.1 hentry, by simpa using htarget⟩
  · rintro ⟨n, hn, htarget⟩
    exact ⟨(id, n), List.mem_filter.2 ⟨Table.mem_entries_iff.2 hn, by simpa using htarget⟩, rfl⟩

/-! ## Targets after a step -/

theorem targetAt_putNode (id : NodeId) (n : Node NodeId) (x : NodeId) :
    (g.putNode id n).targetAt x = if id = x then n.target? else g.targetAt x := by
  rw [targetAt, node?_putNode]
  split <;> rfl

/-- A node that is replaced by one that points where it did changes no target. -/
theorem targetAt_putNode_of_same {id : NodeId} {n n' : Node NodeId} (hn : g.node? id = some n)
    (hsame : n'.target? = n.target?) (x : NodeId) : (g.putNode id n').targetAt x = g.targetAt x := by
  rw [targetAt_putNode]
  split
  · next hx => rw [← hx, targetAt_of_node? hn, hsame]
  · rfl

@[simp] theorem targetAt_setEdges (id : NodeId) (es : List Edge) (x : NodeId) :
    (g.setEdges id es).targetAt x = g.targetAt x := rfl

@[simp] theorem targetAt_wire (e : Edge) (es : List Edge) (x : NodeId) :
    (g.wire e es).targetAt x = g.targetAt x := rfl

@[simp] theorem targetAt_define (name : String) (id x : NodeId) :
    (g.define name id).targetAt x = g.targetAt x := rfl

@[simp] theorem targetAt_undefine (name : String) (x : NodeId) :
    (g.undefine name).targetAt x = g.targetAt x := rfl

@[simp] theorem targetAt_next (x : NodeId) : g.next.targetAt x = g.targetAt x := rfl

@[simp] theorem targetAt_detach (id x : NodeId) : (g.detach id).targetAt x = g.targetAt x := by
  rw [targetAt, node?_detach, targetAt]

theorem targetAt_drop (id x : NodeId) :
    (g.drop id).targetAt x = if id = x then none else g.targetAt x := by
  rw [targetAt, node?_drop]
  split <;> rfl

theorem targetAt_dropAll (ids : List NodeId) (x : NodeId) :
    (g.dropAll ids).targetAt x = if x ∈ ids then none else g.targetAt x := by
  rw [targetAt, node?_dropAll]
  split <;> rfl

@[simp] theorem targetAt_retarget (groupId t : NodeId) (new : Option NodeId) (x : NodeId) :
    (g.retarget groupId t new).targetAt x = g.targetAt x := by
  rw [targetAt, node?_retarget]
  split
  · rw [Option.bind_map, targetAt]
    congr 1
    funext n
    exact Node.target?_setClauses n _
  · rfl

@[simp] theorem targetAt_releaseBranch (e : Option Edge) (x : NodeId) :
    (g.releaseBranch e).targetAt x = g.targetAt x := by
  cases e with
  | none => rfl
  | some e =>
    unfold releaseBranch
    dsimp only
    split
    · exact targetAt_retarget e.source e.target none x
    · rfl

@[simp] theorem targetAt_freed (id x : NodeId) : (g.freed id).targetAt x = g.targetAt x := by
  rw [freed, targetAt_releaseBranch, targetAt_detach]

/-! ## Removing references -/

theorem targetAt_removeSubtree (id x : NodeId) :
    (g.removeSubtree old id).targetAt x = if x ∈ old.subtreeIds id then none else g.targetAt x := by
  rw [removeSubtree_eq, targetAt_dropAll, targetAt_freed]

/-- Removing references one after the other takes their targets away and no others. -/
theorem targetAt_removeAll (hold : Sound old) (refs : List NodeId)
    (hrefs : ∀ ref ∈ refs, old.kind? ref = some .reference) (x : NodeId) :
    ∀ g : Graph, (refs.foldl (fun h ref => h.removeSubtree old ref) g).targetAt x =
      if x ∈ refs then none else g.targetAt x := by
  induction refs with
  | nil => simp
  | cons ref refs ih =>
    intro g
    rw [List.foldl_cons, ih fun y hy => hrefs y (List.mem_cons_of_mem _ hy),
      targetAt_removeSubtree]
    simp only [hold.mem_subtreeIds_of_reference (hrefs ref List.mem_cons_self), List.mem_cons]
    by_cases hx : x = ref
    · simp [hx]
    · simp [hx]

/-! ## Inlining references -/

/-- The copies point where their originals do. -/
theorem Copied.targetAt {source : NodeId} {pairs : List (NodeId × NodeId)}
    (hc : Copied old g g' source pairs) {p : NodeId × NodeId} (hp : p ∈ pairs) :
    g'.targetAt p.2 = old.targetAt p.1 := by
  obtain ⟨n, hn, hcopy⟩ := hc.node p hp
  rw [targetAt_of_node? hcopy, targetAt_of_node? hn, copiedNode, Node.target?_setClauses]

theorem Copied.targetAt_outside {source : NodeId} {pairs : List (NodeId × NodeId)}
    (hc : Copied old g g' source pairs) {x : NodeId} (hx : ∀ p ∈ pairs, p.2 ≠ x) :
    g'.targetAt x = g.targetAt x := by
  rw [Graph.targetAt, (hc.outside x hx).1, Graph.targetAt]

/-- Hanging a copy in the place of the reference leaves the targets alone. -/
theorem CopyInPlace.targetAt {ref content : NodeId} {r : Graph × IdSupply}
    (i : CopyInPlace old g s ref content r) (x : NodeId) : r.1.targetAt x = i.copied.targetAt x := by
  have hwired : i.wired.targetAt x = i.copied.targetAt x := by
    rw [CopyInPlace.wired, targetAt_wire]
    exact targetAt_putNode_of_same i.top_eq
      (show (standIn i.top i.node).target? = i.top.target? from rfl) x
  rw [i.eq_wired]
  split
  · rw [targetAt_retarget, hwired]
  · exact hwired

/-- What inlining a reference does to the targets: the reference is gone, the other nodes that were
there point where they did, and what is new are copies of what is below the content. -/
structure Inlined (old : Graph) (ref : NodeId) (content : Option NodeId) (g g' : Graph) : Prop where
  /-- The reference points nowhere any more. -/
  gone : g'.targetAt ref = none
  /-- The other references point where they did. -/
  kept : ∀ {x v}, x ≠ ref → g.targetAt x = some v → g'.targetAt x = some v
  /-- What points anywhere did so before, or is a copy under a new name. -/
  back : ∀ {x v}, g'.targetAt x = some v → g.targetAt x = some v ∨
    old.node? x = none ∧ ∃ c ∈ content, ∃ y ∈ old.subtreeIds c, old.targetAt y = some v
  /-- There is a copy of everything below the content, under a name that was free. -/
  copies : ∀ {c}, c ∈ content → (g.owningEdge ref).isSome → ∀ y ∈ old.subtreeIds c,
    ∃ x, g.node? x = none ∧ g'.targetAt x = old.targetAt y

theorem inlined_of_inlineReference (hs : Sound g) (hold : Sound old) (hsup : Supplied g s)
    (hsupOld : Supplied old s) {ref : NodeId} (hkind : g.kind? ref = some .reference)
    (hkind' : old.kind? ref = some .reference) {content : Option NodeId} {r : Graph × IdSupply}
    (h : (g.inlineReference old ref content).run s = .ok r) : Inlined old ref content g r.1 := by
  rcases hs.inPlace_of_inlineReference hold hsup hkind h with ⟨hnone, rfl⟩ | ⟨contentId, rfl, ⟨i⟩⟩
  · -- the reference is only removed
    have htarget : ∀ x, (g.removeSubtree old ref).targetAt x = if x = ref then none else g.targetAt x := by
      intro x
      simp only [targetAt_removeSubtree, hold.mem_subtreeIds_of_reference hkind']
    refine ⟨by rw [htarget, if_pos rfl], fun hx hv => by rw [htarget, if_neg hx, hv],
      fun {x v} hv => ?_, fun {c} hc ho => ?_⟩
    · rw [htarget] at hv
      split_ifs at hv
      exact Or.inl hv
    · rcases hnone with rfl | hnone
      · simp at hc
      · rw [hnone] at ho
        simp at ho
  have horiginal : ∀ p ∈ i.pairs, p.1 ∈ old.subtreeIds contentId := fun p hp =>
    hold.toForest.mem_subtreeIds_iff.2 ((i.copies.originals p.1).2 ⟨p, hp, rfl⟩)
  have hcopy : ∀ p ∈ i.pairs, r.1.targetAt p.2 = old.targetAt p.1 := fun p hp => by
    rw [i.targetAt, i.copies.targetAt hp]
  have houtside : ∀ x, (∀ p ∈ i.pairs, p.2 ≠ x) →
      r.1.targetAt x = if ref = x then none else g.targetAt x := by
    intro x hx
    rw [i.targetAt, i.copies.targetAt_outside hx, targetAt_drop, targetAt_detach]
  refine ⟨?_, fun {x v} hx hv => ?_, fun {x v} hv => ?_, fun {c} hmem _ y hy => ?_⟩
  · rw [houtside ref (i.ne_of_present hsup (present_of_kind? hkind)), if_pos rfl]
  · rw [houtside x (i.ne_of_present hsup (present_of_targetAt hv)), if_neg (Ne.symm hx), hv]
  · rcases Copied.name_or_outside i.pairs x with ⟨p, hp, rfl⟩ | hx
    · rw [hcopy p hp] at hv
      exact Or.inr ⟨i.fresh hsupOld p hp, contentId, rfl, p.1, horiginal p hp, hv⟩
    · rw [houtside x hx] at hv
      split_ifs at hv
      exact Or.inl hv
  · obtain rfl := Option.some.inj hmem
    obtain ⟨p, hp, rfl⟩ := (i.copies.originals y).1 (hold.toForest.mem_subtreeIds_iff.1 hy)
    exact ⟨p.2, i.fresh hsup p hp, hcopy p hp⟩

end Graph

end FormGraph

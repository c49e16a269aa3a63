import FormGraph.Proofs.Forest.Basic
import Mathlib.Logic.Relation

/-!
# Walks through a forest

The two walks of a graph stop after a number of steps that they are given, and pass over what they
met before. They miss nothing: in every graph `ancestors` gives every node above
(`mem_ancestors_iff`), so the test for cycles is exact (`wouldCycle_iff`), and `subtreeIds` gives every
node that is reached over edges, each once (`mem_subtreeIds_iff_reached`, `nodup_subtreeIds`). In a
forest, those are the nodes below (`Forest.mem_subtreeIds_iff`).

`Visits` is the second walk without a limit. Every walk ends, and below a tree it keeps to the
recursive order, `PreOrders` (`walked_subtreeIds`): as long as no node is met twice, the names on the
stack are those that the recursion has still to come back to.
-/

namespace FormGraph

namespace Graph

variable {g : Graph}

/-! ## Climbing -/

/-- Among nodes with owners, all different, there are no more than the table of owners has rows. -/
theorem length_le_owners {ids : List NodeId} (hn : ids.Nodup)
    (ho : ∀ x ∈ ids, (g.owningEdge x).isSome) : ids.length ≤ g.owners.size := by
  have hsub : ids ⊆ g.owners.names := fun x hx => Table.mem_names_iff.2 (ho x hx)
  have hle := hn.length_le_of_subset hsub
  rwa [Table.names, Entries.names, List.length_map] at hle

theorem below_of_mem_climb {fuel : Nat} {seen : List NodeId} {id x : NodeId}
    (h : x ∈ g.climb fuel seen id) : ∃ e, g.owningEdge id = some e ∧ Below g x e.source := by
  induction fuel generalizing seen id with
  | zero => simp [climb] at h
  | succ fuel ih =>
    unfold climb at h
    cases ho : g.owningEdge id with
    | none => simp [parentId, ho] at h
    | some e =>
      simp only [parentId, ho, Option.map_some] at h
      split_ifs at h
      · simp at h
      · refine ⟨e, rfl, ?_⟩
        rcases List.mem_cons.1 h with rfl | h
        · exact .refl
        · obtain ⟨f, hf, hb⟩ := ih h
          exact .step hf hb

/-- Climbing from a node among some with their owners stays among them. -/
theorem mem_of_below {ids : List NodeId}
    (hc : ∀ y ∈ ids, ∀ e, g.owningEdge y = some e → e.source ∈ ids) {x id : NodeId}
    (h : Below g x id) (hid : id ∈ ids) : x ∈ ids := by
  induction h with
  | refl => exact hid
  | step h _ ih => exact ih (hc _ hid _ h)

/-- A climb with enough steps left meets every node above that it has not met yet. The nodes that it
has met all have their owners among them, but for the last one; so where the climb stops because it
comes back to one of them, all that is above has been met. -/
theorem mem_climb (fuel : Nat) :
    ∀ (seen : List NodeId) (id : NodeId), seen.Nodup →
      (∀ y ∈ seen, y ≠ id → ∃ f, g.owningEdge y = some f ∧ f.source ∈ seen) →
      (seen = [] ∨ id ∈ seen) → g.owners.size < fuel + seen.length →
      ∀ (x : NodeId) (e : Edge), g.owningEdge id = some e → Below g x e.source →
        x ∈ seen ∨ x ∈ g.climb fuel seen id := by
  induction fuel with
  | zero =>
    intro seen id hn hs _ hfuel x e he _
    have hle : seen.length ≤ g.owners.size := length_le_owners hn fun y hy => by
      by_cases hy' : y = id
      · rw [hy', he]
        rfl
      · obtain ⟨f, hf, _⟩ := hs y hy hy'
        rw [hf]
        rfl
    omega
  | succ fuel ih =>
    intro seen id hn hs hid hfuel x e he hb
    unfold climb
    simp only [parentId, he, Option.map_some]
    by_cases hback : e.source ∈ seen
    · refine Or.inl (mem_of_below (fun y hy f hf => ?_) hb hback)
      by_cases hy' : y = id
      · rw [hy', he] at hf
        exact Option.some.inj hf ▸ hback
      · obtain ⟨f', hf', hsource⟩ := hs y hy hy'
        rw [hf] at hf'
        exact Option.some.inj hf' ▸ hsource
    · rw [if_neg hback]
      rcases below_iff.1 hb with rfl | ⟨f, hf, hup⟩
      · exact Or.inr List.mem_cons_self
      · have hmet := ih (e.source :: seen) e.source (List.nodup_cons.2 ⟨hback, hn⟩) ?_
          (Or.inr List.mem_cons_self) (by rw [List.length_cons]; omega) x f hf hup
        · rcases hmet with hx | hx
          · rcases List.mem_cons.1 hx with rfl | hx
            · exact Or.inr List.mem_cons_self
            · exact Or.inl hx
          · exact Or.inr (List.mem_cons_of_mem _ hx)
        · intro y hy hne
          have hy := (List.mem_cons.1 hy).resolve_left hne
          by_cases hy' : y = id
          · exact ⟨e, hy' ▸ he, List.mem_cons_self⟩
          · obtain ⟨f', hf', hsource⟩ := hs y hy hy'
            exact ⟨f', hf', List.mem_cons_of_mem _ hsource⟩

/-- The ancestors of a node are its parent and everything that the parent is below of. -/
theorem mem_ancestors_iff {id x : NodeId} :
    x ∈ g.ancestors id ↔ ∃ e, g.owningEdge id = some e ∧ Below g x e.source := by
  constructor
  · exact below_of_mem_climb
  · rintro ⟨e, he, hb⟩
    have hmet := mem_climb (g := g) (g.owners.size + 1) [] id List.nodup_nil (by simp) (Or.inl rfl)
      (by simp) x e he hb
    exact hmet.resolve_left List.not_mem_nil

theorem nodup_climb {fuel : Nat} {seen : List NodeId} {id : NodeId} :
    (g.climb fuel seen id).Nodup ∧ ∀ x ∈ g.climb fuel seen id, x ∉ seen := by
  induction fuel generalizing seen id with
  | zero => exact ⟨List.nodup_nil, by simp [climb]⟩
  | succ fuel ih =>
    unfold climb
    cases g.parentId id with
    | none => exact ⟨List.nodup_nil, by simp⟩
    | some p =>
      dsimp only
      split_ifs with hp
      · exact ⟨List.nodup_nil, by simp⟩
      · obtain ⟨hnodup, hfresh⟩ := @ih (p :: seen) p
        refine ⟨List.nodup_cons.2 ⟨fun h => hfresh p h List.mem_cons_self, hnodup⟩, fun x hx => ?_⟩
        rcases List.mem_cons.1 hx with rfl | hx
        · exact hp
        · exact fun h => hfresh x hx (List.mem_cons_of_mem _ h)

/-- No ancestor is met twice. -/
theorem nodup_ancestors (id : NodeId) : (g.ancestors id).Nodup := nodup_climb.1

/-- The test for cycles is exact: a move makes one when the new parent is below the moved node. -/
theorem wouldCycle_iff {moving parent : NodeId} :
    g.wouldCycle moving parent = true ↔ Below g moving parent := by
  unfold wouldCycle
  rw [Bool.or_eq_true, decide_eq_true_eq, List.contains_iff_mem, mem_ancestors_iff, below_iff]

/-! ## Visiting what hangs below -/

/-- How many edges lie below the nodes that were not met yet. -/
def edgesLeft (g : Graph) (seen : List NodeId) : Nat :=
  ((g.outgoing.entries.filter fun r => r.1 ∉ seen).flatMap (·.2)).length

theorem edgesLeft_nil : g.edgesLeft [] = g.edgeCount := by
  unfold edgesLeft edgeCount edges Table.values Entries.values
  simp [List.flatMap_def]

/-- Meeting a node leaves the edges below it behind. -/
theorem edgesLeft_cons {seen : List NodeId} {id : NodeId} (h : id ∉ seen) :
    g.edgesLeft seen = g.edgesLeft (id :: seen) + (g.edgesFrom id).length := by
  unfold edgesLeft edgesFrom Table.find?
  generalize hrows : g.outgoing.entries = rows
  have hn : (Entries.names rows).Nodup := hrows ▸ g.outgoing.nodup
  clear hrows
  induction rows with
  | nil => simp
  | cons r rs ih =>
    obtain ⟨name, es⟩ := r
    simp only [Entries.names, List.map_cons, List.nodup_cons] at hn
    have ih := ih hn.2
    by_cases hr : name = id
    · subst hr
      have habsent : Entries.find? rs name = none := by
        rw [Entries.find?_eq_none_iff]
        exact hn.1
      rw [habsent] at ih
      simp only [List.filter_cons, h, not_false_iff, decide_true, if_true,
        List.flatMap_cons, List.length_append, List.mem_cons, true_or, not_true, decide_false, Entries.find?,
        Option.getD_some]
      simp only [Option.getD_none, List.length_nil, Nat.add_zero] at ih
      simp only [List.mem_cons] at ih
      simp only [Bool.false_eq_true, if_false]
      omega
    · by_cases hs : name ∈ seen
      · simp only [List.filter_cons, hs, List.mem_cons, or_true, Entries.find?, hr, if_false]
        simpa using ih
      · simp only [List.filter_cons, hs, List.mem_cons, hr, or_false, not_false_iff, decide_true,
          if_true, List.flatMap_cons, List.length_append, Entries.find?, if_false]
        simp only [List.mem_cons] at ih
        omega

/-- The names of what hangs directly below a node, in the order of its edges. -/
def targetIds (g : Graph) (id : NodeId) : List NodeId := (g.edgesFrom id).map (·.target)

/-- The second node hangs directly below the first one, over an edge of any kind. -/
def Joined (g : Graph) (a b : NodeId) : Prop := ∃ e ∈ g.edgesFrom a, e.target = b

/-- The visit without a limit to its steps: where the nodes `seen` were met before and those on `stack`
are still to look at, it ends after `n` steps, having met `ids` in that order. -/
inductive Visits (g : Graph) : Nat → List NodeId → List NodeId → List NodeId → Prop where
  /-- Nothing is left to look at. -/
  | done {seen : List NodeId} : Visits g 0 seen [] []
  /-- A node that was met before is passed over. -/
  | skip {n : Nat} {id : NodeId} {seen stack ids : List NodeId} (h : id ∈ seen)
    (rest : Visits g n seen stack ids) : Visits g (n + 1) seen (id :: stack) ids
  /-- With a node that was not, what hangs directly below it is to be looked at first. -/
  | meet {n : Nat} {id : NodeId} {seen stack ids : List NodeId} (h : id ∉ seen)
    (rest : Visits g n (id :: seen) (g.targetIds id ++ stack) ids) :
    Visits g (n + 1) seen (id :: stack) (id :: ids)

theorem joined_iff {a b : NodeId} : g.Joined a b ↔ b ∈ g.targetIds a := List.mem_map.symm

/-- A visit ends. Each step takes a name off the stack, and only what is met puts names onto it, one
for each edge below it; so the names on the stack and the edges below what was not met yet become
fewer. -/
theorem visits_visit (fuel : Nat) :
    ∀ seen stack : List NodeId, stack.length + g.edgesLeft seen ≤ fuel →
      ∃ n ≤ fuel, g.Visits n seen stack (g.visit fuel seen stack) := by
  induction fuel with
  | zero =>
    intro seen stack hle
    obtain rfl : stack = [] := List.eq_nil_of_length_eq_zero (by omega)
    exact ⟨0, Nat.le_refl 0, .done⟩
  | succ fuel ih =>
    intro seen stack hle
    cases stack with
    | nil => exact ⟨0, Nat.zero_le _, .done⟩
    | cons id stack =>
      rw [List.length_cons] at hle
      unfold visit
      by_cases hid : id ∈ seen
      · obtain ⟨n, hn, hrest⟩ := ih seen stack (by omega)
        rw [if_pos hid]
        exact ⟨n + 1, Nat.succ_le_succ hn, .skip hid hrest⟩
      · have hcount := g.edgesLeft_cons hid
        obtain ⟨n, hn, hrest⟩ := ih (id :: seen) (g.targetIds id ++ stack) (by
          rw [targetIds, List.length_append, List.length_map]
          omega)
        rw [if_neg hid]
        exact ⟨n + 1, Nat.succ_le_succ hn, .meet hid hrest⟩

theorem visits_subtreeIds (g : Graph) (id : NodeId) :
    ∃ n ≤ g.edgeCount + 1, g.Visits n [] [id] (g.subtreeIds id) :=
  visits_visit _ [] [id] (Nat.le_of_eq (by rw [edgesLeft_nil, List.length_singleton, Nat.add_comm]))

namespace Visits

variable {n n' : Nat} {seen stack ids ids' : List NodeId}

/-- There is one way to go. -/
theorem unique (h : g.Visits n seen stack ids) (h' : g.Visits n' seen stack ids') : ids' = ids := by
  induction h generalizing n' ids' with
  | done =>
    cases h' with
    | done => rfl
  | skip hid _ ih =>
    cases h' with
    | skip _ hrest => exact ih hrest
    | meet hnew _ => exact absurd hid hnew
  | meet hnew _ ih =>
    cases h' with
    | skip hid _ => exact absurd hid hnew
    | meet _ hrest => rw [ih hrest]

/-- Nothing is met again. -/
theorem not_mem_seen (h : g.Visits n seen stack ids) : ∀ x ∈ ids, x ∉ seen := by
  induction h with
  | done => exact fun _ hx => absurd hx List.not_mem_nil
  | skip _ _ ih => exact ih
  | meet hnew _ ih =>
    refine List.forall_mem_cons.2 ⟨hnew, fun x hx hseen => ?_⟩
    exact ih x hx (List.mem_cons_of_mem _ hseen)

theorem nodup (h : g.Visits n seen stack ids) : ids.Nodup := by
  induction h with
  | done => exact List.nodup_nil
  | skip _ _ ih => exact ih
  | meet _ rest ih => exact List.nodup_cons.2 ⟨fun h => rest.not_mem_seen _ h List.mem_cons_self, ih⟩

/-- Where a node is met now, it counts as met before for what comes later. -/
theorem seen_or_met {id x : NodeId} (h : x ∈ id :: seen ∨ x ∈ ids) : x ∈ seen ∨ x ∈ id :: ids := by
  rw [List.mem_cons] at h ⊢
  tauto

/-- Everything on the stack is met. -/
theorem mem_of_mem_stack (h : g.Visits n seen stack ids) : ∀ x ∈ stack, x ∈ seen ∨ x ∈ ids := by
  induction h with
  | done => exact fun _ hx => absurd hx List.not_mem_nil
  | skip hid _ ih => exact List.forall_mem_cons.2 ⟨Or.inl hid, ih⟩
  | meet _ _ ih =>
    refine List.forall_mem_cons.2 ⟨Or.inr List.mem_cons_self, fun x hx => ?_⟩
    exact seen_or_met (ih x (List.mem_append_right _ hx))

/-- With a node everything is met that hangs directly below it. -/
theorem mem_of_joined (h : g.Visits n seen stack ids) {x y : NodeId} (hx : x ∈ ids)
    (hxy : g.Joined x y) : y ∈ seen ∨ y ∈ ids := by
  induction h with
  | done => exact absurd hx List.not_mem_nil
  | skip _ _ ih => exact ih hx
  | meet _ rest ih =>
    rcases List.mem_cons.1 hx with rfl | hx
    · exact seen_or_met (rest.mem_of_mem_stack y (List.mem_append_left _ (joined_iff.1 hxy)))
    · exact seen_or_met (ih hx)

/-- What is met is reached from the stack. -/
theorem reached (h : g.Visits n seen stack ids) :
    ∀ x ∈ ids, ∃ top ∈ stack, Relation.ReflTransGen g.Joined top x := by
  induction h with
  | done => exact fun _ hx => absurd hx List.not_mem_nil
  | skip _ _ ih =>
    intro x hx
    obtain ⟨top, htop, hreach⟩ := ih x hx
    exact ⟨top, List.mem_cons_of_mem _ htop, hreach⟩
  | @meet _ id _ _ _ _ _ ih =>
    refine List.forall_mem_cons.2 ⟨⟨id, List.mem_cons_self, .refl⟩, fun x hx => ?_⟩
    obtain ⟨top, htop, hreach⟩ := ih x hx
    rcases List.mem_append.1 htop with hbelow | hstack
    · exact ⟨id, List.mem_cons_self, .head (joined_iff.2 hbelow) hreach⟩
    · exact ⟨top, List.mem_cons_of_mem _ hstack, hreach⟩

end Visits

/-- No node is visited twice. -/
theorem nodup_subtreeIds (id : NodeId) : (g.subtreeIds id).Nodup := by
  obtain ⟨_, _, h⟩ := visits_subtreeIds g id
  exact h.nodup

/-- The visit of a node meets exactly what is reached from it. -/
theorem mem_subtreeIds_iff_reached {id x : NodeId} :
    x ∈ g.subtreeIds id ↔ Relation.ReflTransGen g.Joined id x := by
  obtain ⟨_, _, h⟩ := visits_subtreeIds g id
  constructor
  · intro hx
    obtain ⟨top, htop, hreach⟩ := h.reached x hx
    rwa [List.mem_singleton.1 htop] at hreach
  · intro hx
    induction hx with
    | refl => exact (h.mem_of_mem_stack id List.mem_cons_self).resolve_left List.not_mem_nil
    | tail _ hjoined ih => exact (h.mem_of_joined ih hjoined).resolve_left List.not_mem_nil

theorem head?_subtreeIds (g : Graph) (id : NodeId) : (g.subtreeIds id).head? = some id := by
  obtain ⟨_, _, h⟩ := visits_subtreeIds g id
  generalize g.subtreeIds id = ids at h
  cases h with
  | skip hid _ => exact absurd hid List.not_mem_nil
  | meet _ _ => rfl

/-- In a forest, what is reached from a node is what hangs below it. -/
theorem Forest.reached_iff (hf : Forest g) {a b : NodeId} :
    Relation.ReflTransGen g.Joined a b ↔ Below g a b := by
  constructor
  · intro h
    induction h with
    | refl => exact .refl
    | tail _ hjoined ih =>
      obtain ⟨e, he, rfl⟩ := hjoined
      exact .step (hf.owned he) (hf.source_eq he ▸ ih)
  · intro h
    induction h with
    | refl => exact .refl
    | step he _ ih =>
      obtain ⟨rfl, hm⟩ := hf.listed he
      exact ih.tail ⟨_, hm, rfl⟩

/-- The visit of a node meets exactly what is below it. -/
theorem Forest.mem_subtreeIds_iff (hf : Forest g) {id x : NodeId} :
    x ∈ g.subtreeIds id ↔ Below g id x :=
  mem_subtreeIds_iff_reached.trans hf.reached_iff

/-! ## How much is below a node -/

/-- What hangs directly below a node has less below it. -/
theorem subtree_lt (hf : Forest g) {id x : NodeId} {e : Edge} (ho : g.owningEdge x = some e)
    (hs : e.source = id) : (g.subtreeIds x).length < (g.subtreeIds id).length := by
  have hup : Below g id x := .step ho (hs ▸ .refl)
  have hnot : id ∉ g.subtreeIds x := by
    rw [hf.mem_subtreeIds_iff]
    intro hdown
    exact hf.not_below_owner ho (hs ▸ hdown)
  have hsub : id :: g.subtreeIds x ⊆ g.subtreeIds id := by
    intro y hy
    rw [hf.mem_subtreeIds_iff]
    rcases List.mem_cons.1 hy with rfl | hy
    · exact .refl
    · exact hup.trans (hf.mem_subtreeIds_iff.1 hy)
  exact (List.nodup_cons.2 ⟨hnot, nodup_subtreeIds x⟩).length_le_of_subset hsub

theorem subtree_pos (hf : Forest g) (id : NodeId) : 0 < (g.subtreeIds id).length :=
  List.length_pos_of_mem (hf.mem_subtreeIds_iff.2 .refl)

/-- Below a node that is there are no more nodes than the graph has. -/
theorem subtree_le_size (hf : Forest g) {id : NodeId} (hn : (g.node? id).isSome) :
    (g.subtreeIds id).length ≤ g.nodes.size := by
  have hsub : g.subtreeIds id ⊆ g.nodes.names := by
    intro x hx
    rw [Table.mem_names_iff]
    rcases below_iff.1 (hf.mem_subtreeIds_iff.1 hx) with rfl | ⟨e, he, _⟩
    · exact hn
    · exact (hf.present he).1
  have hle := (nodup_subtreeIds id).length_le_of_subset hsub
  rwa [Table.names, Entries.names, List.length_map] at hle

/-! ## Pre-order -/

/-- What is reached from the node is a tree: no edge leads back to the node, and no two edges lead to
the same one. -/
structure TreeBelow (g : Graph) (id : NodeId) : Prop where
  /-- No edge leads to the node. -/
  top : ∀ {x : NodeId}, Relation.ReflTransGen g.Joined id x → id ∉ g.targetIds x
  /-- The edges below a node lead to different nodes. -/
  nodup : ∀ {x : NodeId}, Relation.ReflTransGen g.Joined id x → (g.targetIds x).Nodup
  /-- A node hangs directly below one node only. -/
  one_parent : ∀ {x y z : NodeId}, Relation.ReflTransGen g.Joined id x →
    Relation.ReflTransGen g.Joined id y → z ∈ g.targetIds x → z ∈ g.targetIds y → x = y

/-- The recursive walks from several nodes, one after the other: each lists its node, and then what the
walks from what hangs directly below that node list, in the order of the edges. -/
inductive PreOrders (g : Graph) : List NodeId → List NodeId → Prop where
  /-- There is no node to walk from. -/
  | nil : PreOrders g [] []
  /-- The walk from the first node comes before the others. -/
  | cons {id : NodeId} {ids below rest : List NodeId} (hbelow : PreOrders g (g.targetIds id) below)
    (hrest : PreOrders g ids rest) : PreOrders g (id :: ids) (id :: (below ++ rest))

theorem PreOrders.unique {tops ids ids' : List NodeId} (h : g.PreOrders tops ids)
    (h' : g.PreOrders tops ids') : ids' = ids := by
  induction h generalizing ids' with
  | nil =>
    cases h' with
    | nil => rfl
  | cons _ _ ihbelow ihrest =>
    cases h' with
    | cons hbelow hrest => rw [ihbelow hbelow, ihrest hrest]

/-- Walks can be divided. -/
theorem PreOrders.of_append {as bs ids : List NodeId} (h : g.PreOrders (as ++ bs) ids) :
    ∃ left right, g.PreOrders as left ∧ g.PreOrders bs right ∧ ids = left ++ right := by
  induction as generalizing ids with
  | nil => exact ⟨[], ids, .nil, h, rfl⟩
  | cons a as ih =>
    cases h with
    | cons hbelow hrest =>
      obtain ⟨left, right, hleft, hright, rfl⟩ := ih hrest
      exact ⟨_, right, .cons hbelow hleft, hright, by rw [List.cons_append, List.append_assoc]⟩

/-- How a visit stands that began with a node above a tree. -/
structure Frontier (g : Graph) (id : NodeId) (seen stack : List NodeId) : Prop where
  /-- What was met or is on the stack is reached from the node. -/
  reached : ∀ x ∈ seen ++ stack, Relation.ReflTransGen g.Joined id x
  /-- Apart from the node itself, it hangs directly below something that was met. -/
  hung : ∀ x ∈ seen ++ stack, x = id ∨ ∃ p ∈ seen, x ∈ g.targetIds p
  /-- Nothing on the stack was met yet. -/
  disjoint : stack.Disjoint seen
  /-- Nothing is on the stack twice. -/
  nodup : stack.Nodup

namespace Frontier

variable {id a : NodeId} {seen stack : List NodeId}

theorem start (g : Graph) (id : NodeId) : Frontier g id [] [id] where
  reached _ hx := List.mem_singleton.1 hx ▸ .refl
  hung _ hx := Or.inl (List.mem_singleton.1 hx)
  disjoint := List.disjoint_nil_right _
  nodup := List.nodup_singleton id

/-- In a tree, what hangs directly below a node that is met now was not met before and is not on the
stack. -/
theorem not_mem_of_target (ht : TreeBelow g id) (hf : Frontier g id seen (a :: stack)) {y : NodeId}
    (hy : y ∈ g.targetIds a) : y ∉ seen ++ a :: stack := by
  intro hmem
  have ha := hf.reached a (List.mem_append_right _ List.mem_cons_self)
  rcases hf.hung y hmem with rfl | ⟨p, hp, hyp⟩
  · exact ht.top ha hy
  · obtain rfl := ht.one_parent (hf.reached p (List.mem_append_left _ hp)) ha hyp hy
    exact hf.disjoint List.mem_cons_self hp

theorem step (ht : TreeBelow g id) (hf : Frontier g id seen (a :: stack)) :
    Frontier g id (a :: seen) (g.targetIds a ++ stack) := by
  have ha := hf.reached a (List.mem_append_right _ List.mem_cons_self)
  have hnew : ∀ y ∈ g.targetIds a, y ∉ seen ∧ y ≠ a ∧ y ∉ stack := by
    intro y hy
    simpa [not_or] using hf.not_mem_of_target ht hy
  have hsplit : ∀ x ∈ (a :: seen) ++ (g.targetIds a ++ stack),
      x ∈ g.targetIds a ∨ x ∈ seen ++ a :: stack := by
    intro x hx
    simp only [List.cons_append, List.mem_cons, List.mem_append] at hx ⊢
    tauto
  have hnodup := List.nodup_cons.1 hf.nodup
  refine ⟨fun x hx => ?_, fun x hx => ?_, ?_, ?_⟩
  · rcases hsplit x hx with hx | hx
    · exact ha.tail (joined_iff.2 hx)
    · exact hf.reached x hx
  · rcases hsplit x hx with hx | hx
    · exact Or.inr ⟨a, List.mem_cons_self, hx⟩
    · rcases hf.hung x hx with hid | ⟨p, hp, hx⟩
      · exact Or.inl hid
      · exact Or.inr ⟨p, List.mem_cons_of_mem _ hp, hx⟩
  · intro x hx hseen
    rcases List.mem_append.1 hx with hx | hx
    · exact (List.mem_cons.1 hseen).elim (hnew x hx).2.1 (hnew x hx).1
    · exact (List.mem_cons.1 hseen).elim (fun h => hnodup.1 (h ▸ hx))
        (hf.disjoint (List.mem_cons_of_mem _ hx))
  · exact (ht.nodup ha).append hnodup.2 fun x hx hstack => (hnew x hx).2.2 hstack

/-- From there, the visit lists what the recursive walks from the nodes on the stack list. -/
theorem preOrders (ht : TreeBelow g id) {n : Nat} {ids : List NodeId}
    (hv : g.Visits n seen stack ids) (hf : Frontier g id seen stack) : g.PreOrders stack ids := by
  induction hv with
  | done => exact .nil
  | skip hid _ _ => exact absurd hid (hf.disjoint List.mem_cons_self)
  | meet _ _ ih =>
    obtain ⟨below, rest, hbelow, hrest, rfl⟩ := (ih (hf.step ht)).of_append
    exact .cons hbelow hrest

end Frontier

theorem TreeBelow.preOrders_iff {id : NodeId} (ht : TreeBelow g id) {ids : List NodeId} :
    g.PreOrders [id] ids ↔ ids = g.subtreeIds id := by
  obtain ⟨_, _, hvisit⟩ := visits_subtreeIds g id
  have hwalk := (Frontier.start g id).preOrders ht hvisit
  exact ⟨hwalk.unique, fun h => h ▸ hwalk⟩

theorem Forest.treeBelow (hf : Forest g) (id : NodeId) : TreeBelow g id where
  top hx htarget := by
    obtain ⟨e, he, rfl⟩ := List.mem_map.1 htarget
    exact hf.not_below_owner (hf.owned he) (hf.source_eq he ▸ hf.reached_iff.1 hx)
  nodup _ := hf.nodup_targets _
  one_parent _ _ hzx hzy := by
    obtain ⟨e, he, rfl⟩ := List.mem_map.1 hzx
    obtain ⟨f, hf', htarget⟩ := List.mem_map.1 hzy
    rw [← hf.source_eq he, ← hf.source_eq hf', hf.edge_unique he hf' htarget.symm]

/-- In a forest every subtree is listed in pre-order. -/
theorem Forest.preOrders_subtreeIds (hf : Forest g) (id : NodeId) :
    g.PreOrders [id] (g.subtreeIds id) :=
  (hf.treeBelow id).preOrders_iff.2 rfl

/-! ## The theorem -/

/-- What the visit of a node lists. -/
structure Walked (g : Graph) (id : NodeId) (ids : List NodeId) : Prop where
  /-- The visit ends, after one step for the node and at most one for each edge. -/
  ends : ∃ n ≤ g.edgeCount + 1, g.Visits n [] [id] ids
  /-- It ends in no other way. -/
  ends_only : ∀ n ids', g.Visits n [] [id] ids' → ids' = ids
  /-- The node comes first. -/
  head : ids.head? = some id
  /-- What is reached from the node is listed, and nothing else. -/
  mem_iff : ∀ x, x ∈ ids ↔ Relation.ReflTransGen g.Joined id x
  /-- It is listed once. -/
  nodup : ids.Nodup
  /-- Where that is a tree, the order is that of the recursive walk. -/
  preOrder : TreeBelow g id → ∀ ids', g.PreOrders [id] ids' ↔ ids' = ids

/-- In every graph, also in one with cycles or with nodes below several others, the subtree of a name
is walked. -/
theorem walked_subtreeIds (g : Graph) (id : NodeId) : g.Walked id (g.subtreeIds id) := by
  obtain ⟨n, hn, hvisit⟩ := visits_subtreeIds g id
  exact
    { ends := ⟨n, hn, hvisit⟩
      ends_only := fun _ _ => hvisit.unique
      head := head?_subtreeIds g id
      mem_iff := fun _ => mem_subtreeIds_iff_reached
      nodup := hvisit.nodup
      preOrder := fun ht _ => ht.preOrders_iff }

/-- A node that hangs below two others, and an edge that leads back. -/
theorem walked_of_loop :
    ∃ g : Graph, g.targetIds "a" = ["b", "c"] ∧ g.targetIds "b" = ["c", "a"] ∧
      g.Walked "a" ["a", "b", "c"] := by
  let g : Graph := { Graph.empty .null .null with
    outgoing := (Table.empty.put "a" [⟨"a", "b", .child⟩, ⟨"a", "c", .child⟩]).put "b"
      [⟨"b", "c", .child⟩, ⟨"b", "a", .child⟩] }
  have hids : g.subtreeIds "a" = ["a", "b", "c"] := by decide
  exact ⟨g, by decide, by decide, hids ▸ walked_subtreeIds g "a"⟩

end Graph

end FormGraph

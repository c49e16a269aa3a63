import FormGraph.Proofs.Agreement.Basic
import FormGraph.Proofs.SiblingKeys.Edit
import FormGraph.Proofs.Tidy

/-!
# What a check that finds nothing says

A check of a tidy graph finds nothing but what is wrong with single nodes; the other way round, a
sound graph of which a check finds nothing is tidy (`tidy_of_check`), and nothing is wrong with any
of its nodes (`Tidy.node_of_check`).
-/

namespace FormGraph

/-- Of texts that leave nothing when each is kept once, there are none. -/
theorem eq_nil_of_distinct {texts : List String} (h : distinct texts = []) : texts = [] := by
  have hkept : ∀ rest seen : List String, seen ≠ [] →
      rest.foldl (fun seen t => if t ∈ seen then seen else seen ++ [t]) seen ≠ [] := by
    intro rest
    induction rest with
    | nil => exact fun _ hseen => hseen
    | cons u rest ih =>
      intro seen hseen
      rw [List.foldl_cons]
      split_ifs
      · exact ih seen hseen
      · exact ih _ (by simp)
  cases texts with
  | nil => rfl
  | cons t rest => exact absurd h (hkept rest [t] (by simp))

/-- A list in which no text is repeated has each text once. -/
theorem nodup_of_repeated {texts : List String} (h : Check.repeated texts = []) : texts.Nodup := by
  have honce : (texts.filter fun t => 1 < texts.count t) = [] := by
    refine eq_nil_of_distinct (List.eq_nil_of_length_eq_zero ?_)
    rw [← List.length_mergeSort, show List.mergeSort _ _ = [] from h, List.length_nil]
  rw [List.nodup_iff_count_le_one]
  intro t
  by_contra hcount
  have hmem : t ∈ texts.filter fun t => 1 < texts.count t := by
    rw [List.mem_filter, decide_eq_true_eq]
    exact ⟨List.count_pos_iff.1 (by omega), by omega⟩
  rw [honce] at hmem
  exact List.not_mem_nil hmem

namespace Check

variable {g : Graph} {id : NodeId} {n : Node NodeId}

/-- Attributes that nothing is wrong with are well typed. -/
theorem attributeTypes_of_node (h : node id n = .ok []) : attributeTypes n.body = [] := by
  unfold node at h
  dsimp only at h
  split_ifs at h with hnone
  · exact List.isEmpty_iff.1 hnone
  · have hfound := (List.append_eq_nil_iff.1 (pure_eq_ok_iff.1 h)).2
    exact List.map_eq_nil_iff.1 hfound

/-- What is not wrong with a node of a graph. -/
theorem nodeInGraph_eq_nil (h : nodeInGraph g id n = .ok []) :
    node id n = .ok [] ∧ (∃ below, g.children id = .ok below ∧ children id n below = []) ∧
      referenceTarget g n = .ok [] ∧ (n.kind.isGroup = true → clauses g id n = []) := by
  unfold nodeInGraph at h
  simp only [bind_eq_ok_iff, pure_eq_ok_iff, List.append_eq_nil_iff] at h
  obtain ⟨_, hnode, below, hbelow, _, htarget, ⟨⟨rfl, hchildren⟩, rfl⟩, hclauses⟩ := h
  refine ⟨hnode, ⟨below, hbelow, hchildren⟩, htarget, fun hgroup => ?_⟩
  rwa [if_pos hgroup] at hclauses

/-- Nothing is wrong with any node of a graph that nothing is wrong with. -/
theorem nodeInGraph_of_graph (h : graph g = .ok []) (hn : g.node? id = some n) :
    nodeInGraph g id n = .ok [] := by
  unfold graph at h
  cases hroot : g.node? g.rootId with
  | none => simp [hroot] at h
  | some root =>
    rw [hroot] at h
    simp only [bind_eq_ok_iff, pure_eq_ok_iff, List.append_eq_nil_iff] at h
    obtain ⟨found, hfound, _, hnone⟩ := h
    obtain ⟨complaints, hmem, hok⟩ :=
      exists_of_forall₂ (mapM_eq_ok_iff.1 hfound) (Table.mem_entries_iff.2 hn)
    rw [hok, List.flatten_eq_nil_iff.1 hnone complaints hmem]

end Check

namespace Graph

variable {g : Graph}

/-- The children of a node that nothing is wrong with have different keys, and an array has one. -/
theorem keys_and_single_of_check {id : NodeId} {n : Node NodeId}
    {below : List (NodeId × Node NodeId)} (hbelow : g.children id = .ok below)
    (h : Check.children id n below = []) :
    ((g.childIds id).map g.key?).Nodup ∧ (n.kind = .array → (g.childIds id).length ≤ 1) := by
  obtain ⟨hids, hnodes⟩ := children_ok hbelow
  unfold Check.children at h
  rw [List.append_eq_nil_iff, List.append_eq_nil_iff, List.map_eq_nil_iff] at h
  obtain ⟨⟨hkeys, hsingle⟩, -⟩ := h
  constructor
  · have hmap : below.map (g.key? ∘ Prod.fst) = (below.map fun c => c.2.key).map some := by
      rw [List.map_map]
      refine List.map_congr_left fun c hc => ?_
      show (g.node? c.1).map (·.key) = some c.2.key
      rw [hnodes c hc]
      rfl
    rw [← hids, List.map_map, hmap]
    exact (nodup_of_repeated hkeys).map fun _ _ => Option.some.inj
  · intro hk
    rw [← hids, List.length_map]
    by_contra hlt
    rw [if_pos (by simp [hk]; omega)] at hsingle
    exact absurd hsingle (by simp)

/-- The clauses of a group that nothing is wrong with point at branches of the group over matching
edges, and those of an `if` block share their branches. -/
theorem clauses_of_check {id : NodeId} {n : Node NodeId} (h : Check.clauses g id n = []) :
    (∀ c ∈ n.clauses, ∀ {k t}, c.target k = some t → t ∈ g.targetsOfKind id k) ∧
      (n.kind = .group .ifBlock → ∀ c ∈ n.clauses, ∀ d ∈ n.clauses, c.branches = d.branches) := by
  unfold Check.clauses at h
  rw [List.append_eq_nil_iff, List.flatMap_eq_nil_iff] at h
  obtain ⟨htargets, hblock⟩ := h
  constructor
  · intro c hc k t ht
    obtain ⟨i, hi⟩ := List.getElem?_of_mem hc
    have hnone := htargets (c, i) (List.mem_zipIdx_iff_getElem?.2 hi)
    unfold Check.clauseTargets at hnone
    rw [List.append_eq_nil_iff] at hnone
    obtain ⟨hthen, helse⟩ := hnone
    cases k with
    | child => cases ht
    | thenBranch =>
      rw [show c.onTrue = some t from ht] at hthen
      simpa using hthen
    | elseBranch =>
      rw [show c.onFalse = some t from ht] at helse
      simpa using helse
  · intro hk
    have hsame : ∀ c ∈ n.clauses, (n.clauses.map Clause.branches).head? = some c.branches := by
      intro c hc
      by_contra hdiffer
      rw [if_pos (by
        simp only [hk, decide_true, Bool.true_and, List.any_eq_true, List.mem_map,
          decide_eq_true_eq]
        exact ⟨_, ⟨c, hc, rfl⟩, hdiffer⟩)] at hblock
      exact absurd hblock (by simp)
    exact fun c hc d hd => Option.some.inj ((hsame c hc).symm.trans (hsame d hd))

/-- A reference that nothing is wrong with points at a definition. -/
theorem target_of_check {n : Node NodeId} {v : Value} (h : Check.referenceTarget g n = .ok [])
    (hv : n.target? = some v) : ∃ name, v = .str name ∧ g.definitions.has name = true := by
  unfold Check.referenceTarget at h
  simp only [hv] at h
  split_ifs at h with hlookup hknown
  · cases h
  · cases v with
    | str name => exact ⟨name, rfl, hknown⟩
    | null | bool _ | int _ | float _ | list _ | obj _ => cases hknown
  · exact absurd (Except.ok.inj h) (by simp)

/-- A sound graph of which a check finds nothing is tidy. -/
theorem tidy_of_check (hs : Sound g) (h : Check.graph g = .ok []) : g.Tidy := by
  have hnode : ∀ {id : NodeId} {n : Node NodeId}, g.node? id = some n → _ := fun hn =>
    Check.nodeInGraph_eq_nil (Check.nodeInGraph_of_graph h hn)
  have hchildren : ∀ {id : NodeId} {n : Node NodeId}, g.node? id = some n →
      ((g.childIds id).map g.key?).Nodup ∧ (n.kind = .array → (g.childIds id).length ≤ 1) := by
    intro id n hn
    obtain ⟨-, ⟨below, hbelow, hnone⟩, -, -⟩ := hnode hn
    exact keys_and_single_of_check hbelow hnone
  have hclauses : ∀ {id : NodeId} {n : Node NodeId} {c : Clause NodeId}, g.node? id = some n →
      c ∈ n.clauses → _ := fun {id n c} hn hc =>
    clauses_of_check ((hnode hn).2.2.2 (by
      by_contra hgroup
      rw [Node.clauses_eq_nil (by simpa using hgroup)] at hc
      exact List.not_mem_nil hc))
  refine { hs with
    keys := fun id => ?_
    single := fun hn hk => (hchildren hn).2 hk
    target := fun hn hv => target_of_check (hnode hn).2.2.1 hv
    clause := fun {id n c k t} hn hc ht => ?_
    block := fun {id n} hn hk c hc d hd => (hclauses hn hc).2 hk c hc d hd }
  · cases hn : g.node? id with
    | some n => exact (hchildren hn).1
    | none =>
      have hnil : g.childIds id = [] := by
        refine List.eq_nil_iff_forall_not_mem.2 fun x hx => ?_
        have hchild := (Forest.mem_childIds_iff hs.toForest).1 hx
        have hpresent := (hs.present hchild).2
        rw [hn] at hpresent
        cases hpresent
      rw [hnil]
      exact List.nodup_nil
  · obtain ⟨e, he, rfl⟩ := List.mem_map.1 ((hclauses hn hc).1 c hc ht)
    obtain ⟨hmem, hkind⟩ := List.mem_filter.1 he
    obtain rfl : e.kind = k := by simpa using hkind
    rw [hs.owned hmem, ← hs.source_eq hmem]

/-- In a graph of which a check finds nothing the attributes of all nodes are well typed. -/
theorem attributeTypes_of_check (h : Check.graph g = .ok []) {id : NodeId} {n : Node NodeId}
    (hn : g.node? id = some n) : Check.attributeTypes n.body = [] :=
  Check.attributeTypes_of_node (Check.nodeInGraph_eq_nil (Check.nodeInGraph_of_graph h hn)).1

end Graph

end FormGraph

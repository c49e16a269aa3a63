import FormGraph.Proofs.Agreement.Basic
import FormGraph.Proofs.Writing.Document
import FormGraph.Proofs.Writing.Matching

/-!
# What a sound graph shows

A sound graph whose clauses agree with its edges is a forest in which every clause points at what
hangs below its group, so it shows an outline at every node that is no definition, and a document
outline as a whole. The outline is no deeper than the nodes below are many, which is what the writers
go by.
-/

namespace FormGraph

/-- Pointing at positions in a list of names and then at the names there is pointing at the names. -/
theorem Node.mapClauses_positions {n : Node NodeId} {ids : List NodeId}
    (h : ∀ c ∈ n.clauses, ∀ (k : EdgeKind) (t : NodeId), c.target k = some t → t ∈ ids) :
    (n.mapClauses (Clause.bindTargets fun t => some (ids.idxOf t))).mapClauses
      (Clause.bindTargets fun i => ids[i]?) = n := by
  have hclause : ∀ c ∈ n.clauses,
      (c.bindTargets fun t => some (ids.idxOf t)).bindTargets (fun i => ids[i]?) = c := by
    intro c hc
    obtain ⟨condition, onTrue, onFalse⟩ := c
    have hback : ∀ {o : Option NodeId}, (∀ t, o = some t → t ∈ ids) →
        (o.bind fun t => some (ids.idxOf t)).bind (fun i => ids[i]?) = o := by
      intro o ho
      cases o with
      | none => rfl
      | some t => exact List.getElem?_idxOf (ho t rfl)
    exact congrArg₂ (Clause.mk condition) (hback (h _ hc .thenBranch)) (hback (h _ hc .elseBranch))
  obtain ⟨_, body, _, _, _, _, _, _, _⟩ := n
  cases body with
  | group k cs =>
    have hcs : (cs.map (Clause.bindTargets fun t => some (ids.idxOf t))).map
        (Clause.bindTargets fun i => ids[i]?) = cs := by
      rw [List.map_map]
      exact (List.map_congr_left hclause).trans (List.map_id' cs)
    simp only [mapClauses, Body.mapClauses, hcs]
  | string | number | boolean | enum | object | array | definition | reference => rfl

/-- A node is less deep than a bound when what hangs below it is. -/
theorem Outline.heightBelow_lt {bs : List (EdgeKind × Outline)} {bound : Nat} (hpos : 0 < bound)
    (h : ∀ b ∈ bs, b.2.height < bound) : Outline.heightBelow bs < bound := by
  induction bs with
  | nil => exact hpos
  | cons b bs ih =>
    obtain ⟨k, o⟩ := b
    rw [Outline.heightBelow]
    exact Nat.max_lt.2 ⟨h _ List.mem_cons_self, ih fun b hb => h b (List.mem_cons_of_mem _ hb)⟩

namespace Graph

variable {g : Graph}

/-- What hangs below a node is no definition. -/
theorem SoundBut.not_definition_below {loose : NodeId → Prop} (hs : SoundBut loose g) {id : NodeId}
    {e : Edge} {m : Node NodeId} (he : e ∈ g.edgesFrom id) (hm : g.node? e.target = some m) :
    m.kind ≠ .definition := by
  intro hd
  have howned := hs.owned he
  rw [hs.definition_top hm hd] at howned
  exact Option.some_ne_none _ howned.symm

/-- What hangs below a node is shown when each target of the edges there is. -/
theorem exists_hanging {id : NodeId} (P : NodeId → Outline → Prop) {es : List Edge}
    (hsource : ∀ e ∈ es, e.source = id) (h : ∀ e ∈ es, ∃ o, P e.target o) :
    ∃ hs : List (NodeId × EdgeKind × Outline),
      es = hs.map (fun h => ⟨id, h.1, h.2.1⟩) ∧ ∀ h ∈ hs, P h.1 h.2.2 := by
  induction es with
  | nil => exact ⟨[], rfl, fun _ hh => absurd hh List.not_mem_nil⟩
  | cons e es ih =>
    obtain ⟨hs, rfl, hall⟩ := ih (fun e' he' => hsource e' (List.mem_cons_of_mem _ he'))
      fun e' he' => h e' (List.mem_cons_of_mem _ he')
    obtain ⟨o, ho⟩ := h e List.mem_cons_self
    refine ⟨(e.target, e.kind, o) :: hs, ?_, List.forall_mem_cons.2 ⟨ho, hall⟩⟩
    rw [List.map_cons, ← hsource e List.mem_cons_self]

/-- A table of definitions has an outline when each of its nodes has a content. -/
theorem exists_definitions (P : NodeId → Option Outline → Prop) {entries : List (String × NodeId)}
    (h : ∀ e ∈ entries, ∃ content, P e.2 content) :
    ∃ ds : List DefinitionOutline, ds.map (·.name) = Entries.names entries ∧
      ∀ d ∈ ds, ∃ id, (d.name, id) ∈ entries ∧ P id d.content := by
  induction entries with
  | nil => exact ⟨[], rfl, fun _ hd => absurd hd List.not_mem_nil⟩
  | cons e entries ih =>
    obtain ⟨ds, hnames, hall⟩ := ih fun e' he' => h e' (List.mem_cons_of_mem _ he')
    obtain ⟨content, hcontent⟩ := h e List.mem_cons_self
    refine ⟨⟨e.1, content⟩ :: ds, congrArg (e.1 :: ·) hnames,
      List.forall_mem_cons.2 ⟨⟨e.2, List.mem_cons_self, hcontent⟩, fun d hd => ?_⟩⟩
    obtain ⟨id, hid, hP⟩ := hall d hd
    exact ⟨id, List.mem_cons_of_mem _ hid, hP⟩

/-- A sound graph whose clauses agree with its edges shows an outline at a node. -/
theorem exists_shows (hs : Sound g) (ha : Agrees g) {id : NodeId} {n : Node NodeId}
    (hn : g.node? id = some n) (hk : n.kind ≠ .definition) :
    ∃ o, g.Shows id o ∧ o.Fits ∧ o.height ≤ (g.subtreeIds id).length := by
  induction hlen : (g.subtreeIds id).length using Nat.strongRecOn generalizing id n with
  | ind size ih =>
    subst hlen
    have hf := hs.toForest
    have hbelow : ∀ e ∈ g.edgesFrom id, ∃ o, g.Shows e.target o ∧ o.Fits ∧
        o.height < (g.subtreeIds id).length := by
      intro e he
      obtain ⟨m, hm⟩ := Option.isSome_iff_exists.1 (hf.target_present he)
      have howned := hf.owned he
      have hlt := subtree_lt hf howned (hf.source_eq he)
      obtain ⟨o, hshows, hfits, hheight⟩ := ih _ hlt hm (hs.not_definition_below he hm) rfl
      exact ⟨o, hshows, hfits, Nat.lt_of_le_of_lt hheight hlt⟩
    obtain ⟨hs', hedges, hall⟩ := exists_hanging
      (fun x o => g.Shows x o ∧ o.Fits ∧ o.height < (g.subtreeIds id).length)
      (fun e he => hf.source_eq he) hbelow
    -- the edge over which a clause points is the one that is listed
    have hpoint : ∀ c ∈ n.clauses, ∀ (k : EdgeKind) (t : NodeId), c.target k = some t →
        ∃ h ∈ hs', h.1 = t := by
      intro c hc k t ht
      have howned := ha.edge ⟨c, clausesAt_of_node? hn ▸ hc, ht⟩
      have hlisted := (hf.listed howned).2
      rw [hedges] at hlisted
      obtain ⟨h, hh, heq⟩ := List.mem_map.1 hlisted
      exact ⟨h, hh, congrArg Edge.target heq⟩
    refine ⟨.mk (n.mapClauses (Clause.bindTargets fun t => some ((hs'.map Prod.fst).idxOf t)))
      (hs'.map Prod.snd), .mk hs' ?_ hedges fun h hh => (hall h hh).1, ?_, ?_⟩
    · rw [hn, Node.mapClauses_positions]
      intro c hc k t ht
      obtain ⟨h, hh, rfl⟩ := hpoint c hc k t ht
      exact List.mem_map_of_mem hh
    · refine .mk (by rwa [Node.kind_mapClauses]) ?_ ?_ ?_
      · intro b hb
        obtain ⟨h, hh, rfl⟩ := List.mem_map.1 hb
        have he : (⟨id, h.1, h.2.1⟩ : Edge) ∈ g.edgesFrom id := by
          rw [hedges]
          exact List.mem_map_of_mem hh
        rw [Node.kind_mapClauses]
        exact hs.fits (hf.owned he) hn
      · intro c' hc' k i hi
        rw [Node.clauses_mapClauses] at hc'
        obtain ⟨c, hc, rfl⟩ := List.mem_map.1 hc'
        rw [Clause.target_bindTargets] at hi
        obtain ⟨t, ht, hi⟩ := Option.bind_eq_some_iff.1 hi
        obtain rfl := Option.some.inj hi
        obtain ⟨h₀, hh₀, rfl⟩ := hpoint c hc k t ht
        have hget : (hs'.map Prod.fst)[(hs'.map Prod.fst).idxOf h₀.1]? = some h₀.1 :=
          List.getElem?_idxOf (List.mem_map_of_mem hh₀)
        rw [List.getElem?_map, Option.map_eq_some_iff] at hget
        obtain ⟨h, hh, hid⟩ := hget
        have he : (⟨id, h.1, h.2.1⟩ : Edge) ∈ g.edgesFrom id := by
          rw [hedges]
          exact List.mem_map_of_mem (List.mem_of_getElem? hh)
        have howned := ha.edge ⟨c, clausesAt_of_node? hn ▸ hc, ht⟩
        have hkind : h.2.1 = k := by
          have := hf.owned he
          rw [hid, howned] at this
          exact (congrArg Edge.kind (Option.some.inj this)).symm
        exact ⟨h.2.2, by rw [List.getElem?_map, hh, ← hkind]; rfl⟩
      · intro b hb
        obtain ⟨h, hh, rfl⟩ := List.mem_map.1 hb
        exact (hall h hh).2.1
    · rw [Outline.height]
      refine Nat.succ_le_of_lt (Outline.heightBelow_lt (subtree_pos hf id) fun b hb => ?_)
      obtain ⟨h, hh, rfl⟩ := List.mem_map.1 hb
      exact (hall h hh).2.2

/-- A sound graph whose clauses agree with its edges shows a document. -/
theorem exists_showsDocument (hs : Sound g) (ha : Agrees g) :
    ∃ d : DocumentOutline, g.ShowsDocument d ∧ d.Fits := by
  have hf := hs.toForest
  have hshown : ∀ {id : NodeId} {n : Node NodeId}, g.node? id = some n → n.kind ≠ .definition →
      ∃ o, g.Shows id o ∧ o.Fits ∧ o.height ≤ Compile.depth g := by
    intro id n hn hk
    obtain ⟨o, hshows, hfits, hheight⟩ := exists_shows hs ha hn hk
    exact ⟨o, hshows, hfits, Nat.le_succ_of_le
      (Nat.le_trans hheight (subtree_le_size hf (by rw [hn]; rfl)))⟩
  have hcontent : ∀ e ∈ g.definitions.entries, ∃ content : Option Outline,
      g.ShowsContent e.2 content ∧ ∀ o, content = some o → o.Fits := by
    intro d _
    cases hids : g.childIds d.2 with
    | nil => exact ⟨none, hids, fun _ h => absurd h (Option.some_ne_none _).symm⟩
    | cons c cs =>
      have hhead : (g.childIds d.2).head? = some c := by rw [hids]; rfl
      obtain ⟨e, he, rfl, _⟩ :=
        mem_edgesFrom_of_mem_childIds (List.mem_of_mem_head? hhead)
      obtain ⟨m, hm⟩ := Option.isSome_iff_exists.1 (hf.target_present he)
      obtain ⟨o, hshows, hfits, hheight⟩ := hshown hm (hs.not_definition_below he hm)
      exact ⟨some o, ⟨e.target, hhead, hshows, hheight⟩, fun o' ho' => Option.some.inj ho' ▸ hfits⟩
  obtain ⟨ds, hnames, hall⟩ := exists_definitions
    (fun id content => g.ShowsContent id content ∧ ∀ o, content = some o → o.Fits) hcontent
  obtain ⟨n, hn, hobject⟩ := hs.root
  obtain ⟨root, hshows, hfits, hheight⟩ := hshown hn (by rw [hobject]; decide)
  refine ⟨⟨ds, root⟩, ⟨hshows, hheight, hnames.symm, fun d hd id hid => ?_⟩, hfits, ?_, ?_, ?_⟩
  · obtain ⟨id', hmem, hcontent, _⟩ := hall d hd
    rw [Table.mem_entries_iff, hid] at hmem
    exact Option.some.inj hmem ▸ hcontent
  · exact (hshows.kind_eq hn).1.symm.trans hobject
  · intro d hd o ho
    obtain ⟨_, _, _, hfits⟩ := hall d hd
    exact hfits o ho
  · rw [hnames]
    exact g.definitions.nodup

/-- There are no more definitions than nodes. -/
theorem SoundBut.definitions_le {loose : NodeId → Prop} (hs : SoundBut loose g) :
    g.definitions.size ≤ g.nodes.size := by
  have hnode : ∀ e ∈ g.definitions.entries, ∃ n, g.node? e.2 = some n ∧
      n.definitionName? = some (.str e.1) := fun e he => hs.defined.1 (Table.mem_entries_iff.1 he)
  have hnodup : (g.definitions.entries.map Prod.snd).Nodup := by
    refine List.Nodup.map_on (fun a ha b hb heq => ?_) (List.Nodup.of_map _ g.definitions.nodup)
    obtain ⟨n, hn, hname⟩ := hnode a ha
    obtain ⟨m, hm, hname'⟩ := hnode b hb
    rw [← heq, hn] at hm
    rw [← Option.some.inj hm, hname] at hname'
    exact Prod.ext (Value.str.inj (Option.some.inj hname')) heq
  have hsub : g.definitions.entries.map Prod.snd ⊆ g.nodes.names := by
    intro x hx
    obtain ⟨e, he, rfl⟩ := List.mem_map.1 hx
    obtain ⟨n, hn, _⟩ := hnode e he
    rw [Table.mem_names_iff]
    exact Option.isSome_iff_exists.2 ⟨n, hn⟩
  have hle := hnodup.length_le_of_subset hsub
  rwa [List.length_map, Table.names, Entries.names, List.length_map] at hle

end Graph

end FormGraph

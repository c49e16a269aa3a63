import FormGraph.Proofs.Agreement.Basic
import FormGraph.Proofs.Describing.Shown
import FormGraph.Proofs.Reread.Document
import FormGraph.Proofs.SiblingKeys.Edit

/-!
# Graphs that survive a round trip

A graph is written as a document without loss when its texts are texts, its attributes are well
typed, its conditions can be read, nothing that the library keeps without interpreting it stands
under a keyword that is interpreted, and its shape is one that a document has: arrays with one item,
pointers at definitions, clauses that agree with the edges, `if` blocks with one pair of branches, and
branches that say the same where they are written alike.

What such a graph shows can be written and read back.
-/

namespace FormGraph

/-- The keywords that a document gives a meaning to whatever the kind of the schema is. -/
def structuralKeywords : List String :=
  ["$ref", "type", "enum", "definitions", "properties", "required", "items", "if", "then", "else",
    "allOf", "anyOf", "oneOf"]

/-- What is asked of a single node for a round trip. -/
structure Node.RoundTrips {ρ : Type} (n : Node ρ) : Prop where
  /-- Title and description are texts, and the extras stand under free keywords. -/
  labelled : Outline.Labelled n (structuralKeywords ++ Body.vocabulary n.kind)
  /-- The attributes are well typed. -/
  types : Check.attributeTypes n.body = []
  /-- The conditions can be read. -/
  conditions : ∀ c ∈ n.clauses, c.condition.Reads

/-- What is asked of a graph for a round trip. -/
structure Graph.RoundTrips (g : Graph) (cfg : DocumentConfig) : Prop where
  /-- Each node is as asked for. -/
  node : ∀ {id : NodeId} {n : Node NodeId}, g.node? id = some n → n.RoundTrips
  /-- An array has one item at most. -/
  single : ∀ {id : NodeId} {n : Node NodeId}, g.node? id = some n → n.kind = .array →
    (g.childIds id).length ≤ 1
  /-- A reference points at a definition. -/
  target : ∀ {id : NodeId} {n : Node NodeId} {v : Value}, g.node? id = some n →
    n.target? = some v → ∃ name, v = .str name ∧ g.definitions.has name = true
  /-- Every branch that a clause names hangs below the group over an edge of its kind. -/
  agrees : Graph.Agrees g
  /-- The clauses of an `if` block share their branches. -/
  block : ∀ {id : NodeId} {n : Node NodeId}, g.node? id = some n → n.kind = .group .ifBlock →
    ∀ c ∈ n.clauses, ∀ c' ∈ n.clauses, c.branches = c'.branches
  /-- In any other group, branches of one kind that are written alike say the same. -/
  shared : ∀ {id : NodeId} {n : Node NodeId}, g.node? id = some n → n.kind ≠ .group .ifBlock →
    ∀ c ∈ n.clauses, ∀ c' ∈ n.clauses, ∀ (k : EdgeKind) (t t' : NodeId),
      c.target k = some t → c'.target k = some t' → ∀ v w,
      (Compile.branch g (Compile.node g cfg (Compile.depth g)) t).run.value = .ok v →
      (Compile.branch g (Compile.node g cfg (Compile.depth g)) t').run.value = .ok w →
      v.canonicalJson = w.canonicalJson →
      Signature.branch g (Signature.node g (g.nodes.size + 1)) false (some t) =
        Signature.branch g (Signature.node g (g.nodes.size + 1)) false (some t')

namespace Node

variable {ρ τ : Type} {n : Node ρ}

theorem attributeTypes_mapClauses (b : Body ρ) (f : Clause ρ → Clause τ) :
    Check.attributeTypes (b.mapClauses f) = Check.attributeTypes b := by
  cases b <;> rfl

/-- Where the clauses of a node point does not matter. -/
theorem RoundTrips.of_bindTargets {f : ρ → Option τ}
    (h : (n.mapClauses (Clause.bindTargets f)).RoundTrips) : n.RoundTrips where
  labelled := by
    obtain ⟨htitle, hdescription, hnodup, hfree⟩ := h.labelled
    rw [kind_mapClauses] at hfree
    exact ⟨htitle, hdescription, hnodup, hfree⟩
  types := (attributeTypes_mapClauses n.body _).symm.trans h.types
  conditions c hc := h.conditions (c.bindTargets f) (by
    rw [clauses_mapClauses]
    exact List.mem_map_of_mem hc)

/-- Keywords that are interpreted are none of the extras. -/
theorem RoundTrips.free (h : n.RoundTrips) {keywords : List String}
    (hsub : keywords ⊆ structuralKeywords) : n.Free keywords :=
  h.labelled.free.mono fun _ hk =>
    List.mem_append_right _ (List.mem_append_left _ (hsub hk))

/-- A node without extras is as asked for when its texts, attributes and conditions are. -/
theorem RoundTrips.of_no_extras (htitle : n.title.IsTextual) (hdescription : n.description.IsTextual)
    (hextras : n.extras = []) (types : Check.attributeTypes n.body = [])
    (conditions : ∀ c ∈ n.clauses, c.condition.Reads) : n.RoundTrips := by
  refine ⟨⟨htitle, hdescription, ?_, fun k _ => ?_⟩, types, conditions⟩ <;> rw [hextras]
  · exact List.nodup_nil
  · exact List.not_mem_nil

end Node

namespace Outline

theorem reserved_subset (kind : NodeKind) :
    reserved kind ⊆ structuralKeywords ++ Body.vocabulary kind := by
  intro k hk
  rw [List.mem_append]
  cases kind with
  | group kind =>
    refine Or.inl ?_
    cases kind <;> revert k <;> decide
  | reference => exact Or.inl (by revert k; decide)
  | string | number | boolean | enum | object | array | definition =>
    refine (List.mem_append.1 hk).imp_left fun h => ?_
    clear hk
    revert k
    decide

/-- A node that is as asked for is read as a group only when it is one. -/
theorem bare_of_roundTrips {o : Outline} (h : o.node.RoundTrips) : o.Bare :=
  fun _ => h.free (by decide)

end Outline

namespace Graph

open Outline Compile

variable {g : Graph} {cfg : DocumentConfig} {id : NodeId} {n : Node Nat}
  {hs : List (NodeId × EdgeKind × Outline)}

/-- A graph without clauses and references is as asked for when its nodes are and its arrays have one
item at most. -/
theorem RoundTrips.of_no_clauses
    (hnode : ∀ {id : NodeId} {n : Node NodeId}, g.node? id = some n → n.RoundTrips)
    (hsingle : ∀ {id : NodeId} {n : Node NodeId}, g.node? id = some n → n.kind = .array →
      (g.childIds id).length ≤ 1)
    (hnone : ∀ {id : NodeId} {n : Node NodeId}, g.node? id = some n →
      n.clauses = [] ∧ n.target? = none) : g.RoundTrips cfg where
  node := hnode
  single := hsingle
  target hn ht := by
    rw [(hnone hn).2] at ht
    cases ht
  agrees := agrees_iff.2 fun id t k ⟨c, hc, _⟩ => by
    unfold clausesAt at hc
    cases hn : g.node? id with
    | none => simp [hn] at hc
    | some n =>
      rw [hn] at hc
      exact absurd ((hnone hn).1 ▸ hc : c ∈ []) List.not_mem_nil
  block hn _ c hc := absurd ((hnone hn).1 ▸ hc) List.not_mem_nil
  shared hn _ c hc := absurd ((hnone hn).1 ▸ hc) List.not_mem_nil

/-- Fields that hang below one node have different keys. -/
theorem Keyed.nodup_fields (hk : Keyed g) (hf : Forest g) (hshow : ∀ h ∈ hs, g.Shows h.1 h.2.2)
    (hedges : g.edgesFrom id = hs.map fun h => ⟨id, h.1, h.2.1⟩)
    (hchild : ∀ h ∈ hs, h.2.1 = .child) :
    (((hs.map Prod.snd).filter fun b => !b.2.node.kind.isGroup).map fun b => b.2.node.key).Nodup := by
  have hkeys : (hs.map fun h => h.2.2.node.key).Nodup := by
    refine List.Nodup.of_map some ?_
    have h := hk.nodup hf id
    rw [childIds_of_edges hedges hchild, List.map_map] at h
    rw [List.map_map]
    refine (congrArg List.Nodup (List.map_congr_left fun x hx => ?_)).mp h
    obtain ⟨f, hn⟩ := (hshow x hx).node?
    exact key?_of_node? hn
  refine List.Nodup.sublist ((List.filter_sublist (l := hs.map Prod.snd)).map _) ?_
  rwa [List.map_map]

/-- What hangs below a node that is as asked for is read as a group only when it is one. -/
theorem RoundTrips.bare (hr : g.RoundTrips cfg) {o : Outline} (h : g.Shows id o) : o.Bare := by
  obtain ⟨f, hn⟩ := h.node?
  exact bare_of_roundTrips (hr.node hn).of_bindTargets

/-- It can be read back. -/
theorem RoundTrips.readable (hr : g.RoundTrips cfg) (hk : Keyed g) (hf : Forest g)
    {o : Outline} (h : g.Shows id o) (hfits : o.Fits) : o.Readable g.definitions.names := by
  induction h with
  | @mk id n hs node edges below ih =>
    have hn := (hr.node node).of_bindTargets
    have hbare : ∀ b ∈ hs.map Prod.snd, b.2.Bare := by
      intro b hb
      obtain ⟨h, hh, rfl⟩ := List.mem_map.1 hb
      exact hr.bare (below h hh)
    have hchildren : n.kind.isGroup = false → ∀ b ∈ hs.map Prod.snd, b.1 = .child := hfits.child
    cases hfits with
    | mk kind holds clauses fits =>
      refine .mk ⟨hn.labelled.title, hn.labelled.description, hn.labelled.nodup, ?_⟩ hn.types ?_ ?_
      · refine hn.labelled.free.mono fun k hk => ?_
        rw [List.mem_append] at hk ⊢
        exact hk.imp_right fun h => reserved_subset n.kind h
      · unfold OwnReads
        cases hb : n.body with
        | object own =>
          have hchild := hchildren (by rw [Node.kind, hb]; rfl)
          have hnone : ∀ k ∈ structuralKeywords, ∀ v, Entries.find? n.extras k ≠ some v := by
            intro k hk v hv
            rw [(hn.free fun _ h => h).find? hk] at hv
            exact Option.some_ne_none v hv.symm
          exact {
            children := hchild
            keys := hk.nodup_fields hf below edges fun h hh => hchild _ (List.mem_map_of_mem hh)
            properties := fun v hv => absurd hv (hnone _ (by decide) v)
            block := fun v hv => absurd hv (hnone _ (by decide) v)
            allOf := fun v hv => absurd hv (hnone _ (by decide) _)
            lists := fun kind hkind v hv => absurd hv (hnone _ (by clear hv; revert kind; decide) v) }
        | array own => exact hbare
        | reference target =>
          obtain ⟨name, rfl, hhas⟩ := hr.target node (v := target) (by
            rw [Node.target?_mapClauses, Node.target?, hb])
          rw [Table.has_eq, ← Table.mem_names_iff] at hhas
          exact ⟨name, hhas, rfl⟩
        | group k cs =>
          have hcs : n.clauses = cs := by rw [Node.clauses, hb, Body.clauses]
          intro c hc
          refine ⟨hn.conditions c (hcs ▸ hc), fun k i hi => ?_⟩
          obtain ⟨o, ho⟩ := clauses c (hcs ▸ hc) k i hi
          exact ⟨o, ho, hbare _ (List.mem_of_getElem? ho)⟩
        | definition name =>
          rw [Node.kind, hb] at kind
          exact kind rfl
        | string | number | boolean | enum => trivial
      · intro b hb
        obtain ⟨h, hh, rfl⟩ := List.mem_map.1 hb
        exact ih h hh (fits _ hb)

/-- What is shown at a node that is as asked for can be written. -/
theorem RoundTrips.writable (hr : g.RoundTrips cfg) (hk : Keyed g) (hf : Forest g)
    {o : Outline} (h : g.Shows id o) (hfits : o.Fits) : o.Writable :=
  (hr.readable hk hf h hfits).writable hfits

theorem eq_of_bind_getElem? {α : Type} {as : List α} (hnodup : as.Nodup) {o o' : Option Nat}
    (ho : ∀ i, o = some i → i < as.length) (ho' : ∀ i, o' = some i → i < as.length)
    (h : o.bind (fun i => as[i]?) = o'.bind fun i => as[i]?) : o = o' := by
  cases o with
  | none =>
    cases o' with
    | none => rfl
    | some j =>
      rw [Option.bind_none, Option.bind_some, List.getElem?_eq_getElem (ho' j rfl)] at h
      exact absurd h.symm (Option.some_ne_none _)
  | some i =>
    cases o' with
    | none =>
      rw [Option.bind_none, Option.bind_some, List.getElem?_eq_getElem (ho i rfl)] at h
      exact absurd h (Option.some_ne_none _)
    | some j => exact congrArg some ((List.getElem?_inj (ho i rfl) hnodup).1 h)

section Clean

variable {hs : List (NodeId × EdgeKind × Outline)}

theorem mem_clauses_shownNode {c : Clause Nat} (hc : c ∈ n.clauses) :
    (c.bindTargets fun i => (hs.map Prod.fst)[i]?) ∈ (shownNode n hs).clauses := by
  rw [shownNode, Node.clauses_mapClauses]
  exact List.mem_map_of_mem hc

/-- An array shows one item. -/
theorem RoundTrips.length_shown_le (hr : g.RoundTrips cfg) (node : g.node? id = some (shownNode n hs))
    (edges : g.edgesFrom id = hs.map fun h => ⟨id, h.1, h.2.1⟩)
    (hfits : (Outline.mk n (hs.map Prod.snd)).Fits) (harray : n.kind = .array) :
    (hs.map Prod.snd).length ≤ 1 := by
  have hkind : (shownNode n hs).kind = n.kind := Node.kind_mapClauses _ n
  have hsingle := hr.single node (hkind.trans harray)
  rw [childIds_of_edges edges fun h hh =>
    hfits.child (by rw [Outline.node, harray]; rfl) h.2 (List.mem_map_of_mem hh)] at hsingle
  rwa [List.length_map] at hsingle ⊢

/-- The clauses of an `if` block name the same of what is shown below it: no node hangs there
twice. -/
theorem RoundTrips.branches_shown_eq (hr : g.RoundTrips cfg) (hf : Forest g)
    (node : g.node? id = some (shownNode n hs))
    (edges : g.edgesFrom id = hs.map fun h => ⟨id, h.1, h.2.1⟩)
    (hfits : (Outline.mk n (hs.map Prod.snd)).Fits) (hblock : n.kind = .group .ifBlock)
    {c c' : Clause Nat} (hc : c ∈ n.clauses) (hc' : c' ∈ n.clauses) : c.branches = c'.branches := by
  have hkind : (shownNode n hs).kind = n.kind := Node.kind_mapClauses _ n
  have hnodup : (hs.map Prod.fst).Nodup := by
    have h := hf.nodup_targets id
    rwa [edges, List.map_map] at h
  have hvalid : ∀ c ∈ n.clauses, ∀ (k : EdgeKind) (i : Nat), c.target k = some i →
      i < (hs.map Prod.fst).length := by
    intro c hc k i hi
    obtain ⟨o, ho⟩ := hfits.clauses c hc k i hi
    rw [List.length_map, ← List.length_map (f := Prod.snd)]
    exact (List.getElem?_eq_some_iff.1 ho).1
  have h := hr.block node (hkind.trans hblock) _ (mem_clauses_shownNode hc) _
    (mem_clauses_shownNode hc')
  exact Prod.ext
    (eq_of_bind_getElem? hnodup (hvalid c hc .thenBranch) (hvalid c' hc' .thenBranch)
      (congrArg Prod.fst h))
    (eq_of_bind_getElem? hnodup (hvalid c hc .elseBranch) (hvalid c' hc' .elseBranch)
      (congrArg Prod.snd h))

/-- A branch is written and said as what is shown there. -/
theorem RoundTrips.branch_shown (hr : g.RoundTrips cfg) (hk : Keyed g) (hf : Forest g)
    (below : ∀ h ∈ hs, g.Shows h.1 h.2.2) (hfits : ∀ h ∈ hs, h.2.2.Fits)
    (hheights : ∀ h ∈ hs, h.2.2.height ≤ depth g) {i : Nat} {v : Value}
    (hv : branchAt (parts cfg (hs.map Prod.snd)) (some i) = some v) :
    ∃ t, (hs.map Prod.fst)[i]? = some t ∧
      (branch g (Compile.node g cfg (depth g)) t).run.value = .ok v ∧
      Signature.branch g (Signature.node g (g.nodes.size + 1)) false (some t) =
        .ok (sayBranch (sayings (hs.map Prod.snd)) (some i)) := by
  have htells : ∀ h ∈ hs, Signature.Tells (Signature.node g (g.nodes.size + 1)) h :=
    fun h hh => (below h hh).describes (hfits h hh) _ (hheights h hh)
  change branchAt (partsOf cfg hs) (some i) = some v at hv
  rw [branchAt, partsOf_eq, Option.bind_some, List.getElem?_map, Option.map_map,
    Option.map_eq_some_iff] at hv
  obtain ⟨h, hget, rfl⟩ := hv
  have hh : h ∈ hs := List.mem_of_getElem? hget
  have hid : (hs.map Prod.fst)[i]? = some h.1 := by rw [List.getElem?_map, hget]; rfl
  have hwrites : Writes g cfg (Compile.node g cfg (depth g)) h :=
    (below h hh).writes (hr.writable hk hf (below h hh) (hfits h hh)) _ (hheights h hh)
  have hsaid := Signature.branch_eq below htells (some i)
  rw [Option.bind_some, hid] at hsaid
  exact ⟨h.1, hid, (gives_branch (below h hh) hwrites).1, hsaid⟩

end Clean

/-- It says the same when it has been written and read back. -/
theorem RoundTrips.clean (hr : g.RoundTrips cfg) (hk : Keyed g) (hf : Forest g)
    {o : Outline} (h : g.Shows id o) (hfits : o.Fits) (hheight : o.height ≤ depth g) :
    o.Clean cfg := by
  induction h with
  | @mk id n hs node edges below ih =>
    have hn := (hr.node node).of_bindTargets
    have hheights : ∀ h ∈ hs, h.2.2.height ≤ depth g := fun h hh =>
      Nat.le_trans (height_le_heightBelow (List.mem_map_of_mem hh))
        (Nat.le_trans (Nat.le_succ _) hheight)
    have hbelow : ∀ h ∈ hs, h.2.2.Fits := fun h hh => hfits.hanging _ (List.mem_map_of_mem hh)
    refine .mk (fun _ => hn.free (by decide)) (hr.length_shown_le node edges hfits)
      (fun hblock c hc c' hc' => hr.branches_shown_eq hf node edges hfits hblock hc hc') ?_
      fun b hb => ?_
    · intro hlist c hc c' hc' k i j hi hj v w hv hw heq
      have hkind : (shownNode n hs).kind = n.kind := Node.kind_mapClauses _ n
      obtain ⟨t, ht, hwritten, hsaid⟩ := hr.branch_shown hk hf below hbelow hheights hv
      obtain ⟨t', ht', hwritten', hsaid'⟩ := hr.branch_shown hk hf below hbelow hheights hw
      have h := hr.shared node (fun h => hlist (hkind.symm.trans h)) _ (mem_clauses_shownNode hc) _
        (mem_clauses_shownNode hc') k t t' (by rw [Clause.target_bindTargets, hi]; exact ht)
        (by rw [Clause.target_bindTargets, hj]; exact ht') v w hwritten hwritten' heq
      rw [hsaid, hsaid'] at h
      exact Except.ok.inj h
    · obtain ⟨h, hh, rfl⟩ := List.mem_map.1 hb
      exact ih h hh (hbelow h hh) (hheights h hh)

end Graph

end FormGraph

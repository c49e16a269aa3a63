import FormGraph.Proofs.Describing.Document

/-!
# Documents do not depend on names

A graph whose nodes are those of another one under other names is written as the same document
(`Graph.Renamed.compile_eq`), as it has the same signature. Nodes that are only in the one graph, and
edges to branches that no clause names, do not count: they are warned of at most. So the comparison is
of what is written and of what is pointed at on the way, in order, whatever is warned of
(`Compiling.Concurs`).
-/

namespace FormGraph

namespace Compiling

variable {α β γ : Type}

/-- The writings come to the same, or break down alike, and point at the same in the same order. What
they warn of may differ. -/
def Concurs (x y : Compiling α) : Prop :=
  x.run.value = y.run.value ∧ x.references = y.references

theorem references_bind_of_error {x : Compiling α} {f : α → Compiling β} {e : Fault}
    (h : x.run.value = .error e) : (x >>= f).references = x.references := by
  have hrun : (x >>= f).run = x.run >>= fun r => (ExceptT.bindCont f r : Noted CompileNote _) := rfl
  unfold references
  rw [hrun, Noted.notes_bind, h, List.filterMap_append]
  exact List.append_nil _

namespace Concurs

theorem refl (x : Compiling α) : x.Concurs x := ⟨rfl, rfl⟩

theorem of_gives {x y : Compiling α} {a : α} {refs : List Value} (hx : x.Gives a refs)
    (hy : y.Gives a refs) : x.Concurs y := ⟨hx.1.trans hy.1.symm, hx.2.trans hy.2.symm⟩

theorem bind {x y : Compiling α} {f f' : α → Compiling β} (h : x.Concurs y)
    (hf : ∀ a, x.run.value = .ok a → (f a).Concurs (f' a)) : (x >>= f).Concurs (y >>= f') := by
  cases hx : x.run.value with
  | error e =>
    have hy : y.run.value = .error e := h.1 ▸ hx
    constructor
    · rw [value_bind, value_bind, hx, hy]
      rfl
    · rw [references_bind_of_error hx, references_bind_of_error hy, h.2]
  | ok a =>
    have hy : y.run.value = .ok a := h.1 ▸ hx
    constructor
    · rw [value_bind, value_bind, hx, hy]
      exact (hf a hx).1
    · rw [references_bind hx, references_bind hy, h.2, (hf a hx).2]

theorem map {x y : Compiling α} (f : α → β) (h : x.Concurs y) : (f <$> x).Concurs (f <$> y) := by
  rw [← bind_pure_comp, ← bind_pure_comp]
  exact h.bind fun _ _ => refl _

theorem mapM {f : α → Compiling γ} {f' : β → Compiling γ} {as : List α} {bs : List β}
    (h : List.Forall₂ (fun a b => (f a).Concurs (f' b)) as bs) :
    (as.mapM f).Concurs (bs.mapM f') := by
  induction h with
  | nil => exact refl _
  | cons hab _ ih =>
    rw [List.mapM_cons, List.mapM_cons]
    exact hab.bind fun _ _ => ih.bind fun _ _ => refl _

theorem foldlM {f : γ → α → Compiling γ} {f' : γ → β → Compiling γ} {as : List α} {bs : List β}
    (h : List.Forall₂ (fun a b => ∀ c, (f c a).Concurs (f' c b)) as bs) (c : γ) :
    (as.foldlM f c).Concurs (bs.foldlM f' c) := by
  induction h generalizing c with
  | nil => exact refl _
  | cons hab _ ih =>
    rw [List.foldlM_cons, List.foldlM_cons]
    exact (hab c).bind fun _ _ => ih _

/-- What goes on with the notes of two writings looks at the references among them only. -/
theorem listen_bind {x y : Compiling α} {f f' : α × List CompileNote → Compiling β}
    (h : x.Concurs y) (hf : ∀ a notes notes', x.run.value = .ok a →
      notes.filterMap CompileNote.reference? = x.references →
      notes'.filterMap CompileNote.reference? = x.references →
      (f (a, notes)).Concurs (f' (a, notes'))) :
    (x.listen >>= f).Concurs (y.listen >>= f') := by
  have hlisten : ∀ z : Compiling α, z.listen.run.value = z.run.value.map fun a => (a, z.run.notes) :=
    fun _ => rfl
  have hvalue : ∀ (z : Compiling α) (k : α × List CompileNote → Compiling β),
      (z.listen >>= k).run.value = (z >>= fun a => k (a, z.run.notes)).run.value ∧
        (z.listen >>= k).references = (z >>= fun a => k (a, z.run.notes)).references := by
    intro z k
    cases hz : z.run.value with
    | error e =>
      have hl : z.listen.run.value = .error e := by
        rw [hlisten, hz]
        rfl
      rw [value_bind, value_bind, hl, hz, references_bind_of_error hl, references_bind_of_error hz]
      exact ⟨rfl, rfl⟩
    | ok a =>
      have hl : z.listen.run.value = .ok (a, z.run.notes) := by
        rw [hlisten, hz]
        rfl
      rw [value_bind, value_bind, hl, hz, references_bind hl, references_bind hz]
      exact ⟨rfl, rfl⟩
  have hsame : (x >>= fun a => f (a, x.run.notes)).Concurs (y >>= fun a => f' (a, y.run.notes)) :=
    h.bind fun a ha => hf a _ _ ha rfl h.2.symm
  obtain ⟨hx, hxr⟩ := hvalue x f
  obtain ⟨hy, hyr⟩ := hvalue y f'
  exact ⟨hx.trans (hsame.1.trans hy.symm), hxr.trans (hsame.2.trans hyr.symm)⟩

end Concurs

end Compiling

namespace Compile

open Graph Compiling

variable {g g' : Graph} {cfg : DocumentConfig} {f : NodeId → NodeId}
  {below below' : NodeId → Node NodeId → Compiling Value} {suits : EdgeKind → EdgeKind → Prop}

/-! ## One node -/

section Below

/-- A node is there, and is written below the one graph as it is, under its other name, below the other
graph. -/
def WrittenAlike (f : NodeId → NodeId) (g : Graph)
    (below below' : NodeId → Node NodeId → Compiling Value) (t : NodeId) : Prop :=
  ∃ m, g.node? t = some m ∧ (below t m).Concurs (below' (f t) (m.renamed f))

variable (hr : Renamed f g g')

include hr

theorem concurs_branch {t : NodeId} (h : WrittenAlike f g below below' t) :
    (branch g below t).Concurs (branch g' below' (f t)) := by
  obtain ⟨m, hm, hbelow⟩ := h
  have hwrapped : (Outline.wrapped (m.renamed f) : Value → Value) = Outline.wrapped m := by
    funext v
    unfold Outline.wrapped
    rw [Node.isAddressable, Node.renamed, Node.kind_mapClauses, Node.isAddressable]
    rfl
  rw [branch_eq hm, branch_eq (hr.node hm), hwrapped]
  exact hbelow.map _

theorem concurs_branchUnder (keyword : String) {target : Option NodeId}
    (h : ∀ t ∈ target, WrittenAlike f g below below' t) :
    (branchUnder g below keyword target).Concurs
      (branchUnder g' below' keyword (target.bind fun t => some (f t))) := by
  cases target with
  | none => exact .refl _
  | some t => exact (concurs_branch hr (h t rfl)).bind fun _ _ => .refl _

theorem concurs_clause (kind : GroupKind) {c : Clause NodeId}
    (h : ∀ k, ∀ t ∈ c.target k, WrittenAlike f g below below' t) :
    (clause g cfg below kind c).Concurs
      (clause g' cfg below' kind (c.bindTargets fun t => some (f t))) := by
  have hnone : (c.onFalse.bind fun t => some (f t)).isNone = c.onFalse.isNone := by
    cases c.onFalse <;> rfl
  refine (Concurs.refl (Compiling.ofExcept c.condition.fragment)).bind fun _ _ =>
    (concurs_branchUnder hr "then" (h .thenBranch)).bind fun _ _ =>
      (concurs_branchUnder hr "else" (h .elseBranch)).bind fun _ _ => ?_
  rw [← hnone]
  exact .refl _

theorem concurs_ifBlock {cs : List (Clause NodeId)}
    (h : ∀ c ∈ cs, ∀ k, ∀ t ∈ c.target k, WrittenAlike f g below below' t) :
    (ifBlock g below cs).Concurs
      (ifBlock g' below' (cs.map (Clause.bindTargets fun t => some (f t)))) := by
  cases cs with
  | nil => exact .refl _
  | cons first rest =>
    have hfirst := h first List.mem_cons_self
    unfold ifBlock
    rw [← Clause.mapM_tests_bindTargets (first :: rest) fun t => some (f t)]
    exact (Concurs.refl _).bind fun _ _ =>
      (concurs_branchUnder hr "then" (hfirst .thenBranch)).bind fun _ _ =>
        (concurs_branchUnder hr "else" (hfirst .elseBranch)).bind fun _ _ => .refl _

variable (hf : Forest g) (hf' : Forest g')

include hf hf'

theorem concurs_group (id : NodeId) (n : Node NodeId) (kind : GroupKind)
    {cs : List (Clause NodeId)}
    (h : ∀ c ∈ cs, ∀ k, ∀ t ∈ c.target k, WrittenAlike f g below below' t) :
    (group g cfg below id n kind cs).Concurs (group g' cfg below' (f id) (n.renamed f) kind
      (cs.map (Clause.bindTargets fun t => some (f t)))) := by
  unfold group
  refine (Concurs.of_gives (gives_noteUnused fun _ he => hf.target_present he)
    (gives_noteUnused fun _ he => hf'.target_present he)).bind fun _ _ => ?_
  cases kind with
  | ifBlock => exact (concurs_ifBlock hr h).bind fun _ _ => .refl _
  | allOf | anyOf | oneOf =>
    refine (Concurs.mapM ?_).bind fun _ _ => .refl _
    rw [List.forall₂_map_right_iff, List.forall₂_same]
    exact fun c hc => concurs_clause hr _ (h c hc)

omit hf'

theorem concurs_objectBody {id : NodeId} {n : Node NodeId} (hid : (g.node? id).isSome)
    (h : ∀ c ∈ g.childIds id, WrittenAlike f g below below' c) :
    (objectBody g below id n).Concurs (objectBody g' below' (f id) (n.renamed f)) := by
  obtain ⟨cs, hcs, hcs', hmem⟩ := (hr.below id).children hf hid
  obtain ⟨-, hnodes⟩ := children_ok hcs
  have hstep : List.Forall₂ (fun c c' => ∀ parts,
      (objectChild below parts c).Concurs (objectChild below' parts c')) cs
      (cs.map fun c => (f c.1, c.2.renamed f)) := by
    rw [List.forall₂_map_right_iff, List.forall₂_same]
    intro c hc parts
    obtain ⟨m, hm, hbelow⟩ := h c.1 (hmem c hc)
    obtain rfl : m = c.2 := Option.some.inj (hm.symm.trans (hnodes c hc))
    have hkind : (c.2.renamed f).kind = c.2.kind := Node.kind_mapClauses _ _
    unfold objectChild
    refine hbelow.bind fun v _ => ?_
    dsimp only
    rw [hkind]
    exact .refl _
  unfold objectBody
  rw [hcs, hcs', ofExcept_ok_bind, ofExcept_ok_bind]
  exact (Concurs.foldlM hstep _).bind fun _ _ => .refl _

omit hf

theorem concurs_arrayBody {id : NodeId} (hid : (g.node? id).isSome)
    (h : ∀ c ∈ g.childIds id, WrittenAlike f g below below' c) :
    (arrayBody g below id).Concurs (arrayBody g' below' (f id)) := by
  unfold arrayBody
  rw [hr.childIds hid]
  cases hids : g.childIds id with
  | nil => exact .refl _
  | cons item rest =>
    obtain ⟨m, hm, hbelow⟩ := h item (hids ▸ List.mem_cons_self)
    rw [List.map_cons]
    dsimp only
    rw [pointedAt_eq_ok_iff.2 hm, pointedAt_eq_ok_iff.2 (hr.node hm), ofExcept_ok_bind,
      ofExcept_ok_bind]
    exact hbelow.bind fun _ _ => .refl _

include hf hf'

/-- A node is written alike under its two names when what is below it is. -/
theorem concurs_fragment {id : NodeId} {n : Node NodeId} (hn : g.node? id = some n)
    (hchild : ∀ c ∈ g.childIds id, WrittenAlike f g below below' c)
    (hbranch : ∀ c ∈ n.clauses, ∀ k, ∀ t ∈ c.target k, WrittenAlike f g below below' t) :
    (fragment g cfg below id n).Concurs (fragment g' cfg below' (f id) (n.renamed f)) := by
  have hid : (g.node? id).isSome := by
    rw [hn]
    rfl
  have hbody : (n.renamed f).body = n.body.mapClauses (Clause.bindTargets fun t => some (f t)) :=
    rfl
  have hkind : (n.renamed f).kind = n.kind := Node.kind_mapClauses _ n
  unfold fragment
  rw [hbody, hkind]
  cases hb : n.body with
  | group kind cs =>
    have hclauses : n.clauses = cs := by
      rw [Node.clauses, hb]
      rfl
    exact concurs_group hr hf hf' id n kind (hclauses ▸ hbranch)
  | object attributes =>
    exact (concurs_objectBody hr hf hid hchild).bind fun _ _ => .refl _
  | array attributes => exact (concurs_arrayBody hr hid hchild).bind fun _ _ => .refl _
  | string | number | boolean | enum | definition | reference => exact .refl _

end Below

/-! ## A node with what is below it -/

/-- Any depth is enough for a node that is not less than what is below it. -/
theorem concurs_node (hr : Renamed f g g') (hf : Forest g) (hf' : Forest g')
    (ha : Attached suits g) (ha' : Attached suits g') (d : Nat) :
    ∀ (d' : Nat) {id : NodeId} {n : Node NodeId}, g.node? id = some n →
      (g.subtreeIds id).length ≤ d → (g'.subtreeIds (f id)).length ≤ d' →
      (node g cfg d id n).Concurs (node g' cfg d' (f id) (n.renamed f)) := by
  induction d with
  | zero => exact fun _ _ _ _ hd => absurd hd (Nat.not_le.2 (subtree_pos hf _))
  | succ d ih =>
    intro d' id n hn hd hd'
    obtain ⟨d', rfl⟩ : ∃ c, d' = c + 1 := by
      have := subtree_pos hf' (f id)
      exact ⟨d' - 1, by omega⟩
    rw [node, node]
    refine concurs_fragment hr hf hf' hn (fun c hc => ?_) fun c hc k t ht => ?_
    · obtain ⟨m, hm⟩ := Option.isSome_iff_exists.1 (hf.child_present hc)
      have hc' : f c ∈ g'.childIds (f id) := by
        rw [hr.childIds (by rw [hn]; rfl)]
        exact List.mem_map_of_mem hc
      have hlt := subtree_lt_of_mem_childIds hf hc
      have hlt' := subtree_lt_of_mem_childIds hf' hc'
      exact ⟨m, hm, ih d' hm (by omega) (by omega)⟩
    · have hp : g.Points id t k := ⟨c, clausesAt_of_node? hn ▸ hc, ht⟩
      have hp' : g'.Points (f id) (f t) k := by
        refine ⟨c.bindTargets fun t => some (f t), ?_, ?_⟩
        · rw [clausesAt_of_node? (hr.node hn), Node.renamed, Node.clauses_mapClauses]
          exact List.mem_map_of_mem hc
        · rw [Clause.target_bindTargets, ht, Option.bind_some]
      obtain ⟨m, hm⟩ := Option.isSome_iff_exists.1 (ha.target_present hf hp)
      have hlt := ha.subtree_lt hf hp
      have hlt' := ha'.subtree_lt hf' hp'
      exact ⟨m, hm, ih d' hm (by omega) (by omega)⟩

/-- The same with the depths that the writers of whole documents use. -/
theorem concurs_node_depth (hr : Renamed f g g') (hf : Forest g) (hf' : Forest g')
    (ha : Attached suits g) (ha' : Attached suits g') {id : NodeId} {n : Node NodeId}
    (hn : g.node? id = some n) :
    (node g cfg (depth g) id n).Concurs (node g' cfg (depth g') (f id) (n.renamed f)) :=
  concurs_node hr hf hf' ha ha' _ _ hn
    ((subtree_le_size hf (by rw [hn]; rfl)).trans (Nat.le_succ _))
    ((subtree_le_size hf' (by rw [hr.node hn]; rfl)).trans (Nat.le_succ _))

/-! ## Definitions and the document -/

/-- The roots and the definitions of two graphs concur, and the definitions have the same names in the
same order. -/
structure PartsConcur (g g' : Graph) (cfg : DocumentConfig) : Prop where
  /-- The definitions have the same names. -/
  names : g'.definitions.names = g.definitions.names
  /-- The roots are written alike. -/
  root : (rootWriting g cfg).Concurs (rootWriting g' cfg)
  /-- So is every definition. -/
  definition : ∀ name, (definition g cfg name).Concurs (definition g' cfg name)

/-- A graph with the same nodes under other names has parts that concur. -/
theorem partsConcur_of_renamed (hr : Renamed f g g') (hs : Sound g) (hs' : Sound g')
    (ha : Attached suits g) (ha' : Attached suits g') (cfg : DocumentConfig) :
    PartsConcur g g' cfg := by
  have hf := hs.toForest
  have hf' := hs'.toForest
  refine ⟨?_, ?_, fun name => ?_⟩
  · rw [Table.names, hr.definitions, Entries.names, Entries.mapValues, List.map_map]
    rfl
  · obtain ⟨n, hn, -⟩ := hs.root
    rw [rootWriting_eq (pointedAt_eq_ok_iff.2 hn),
      rootWriting_eq (pointedAt_eq_ok_iff.2 (hr.rootId ▸ hr.node hn)), hr.rootId]
    exact concurs_node_depth hr hf hf' ha ha' hn
  · have hfind : g'.definitions.find? name = (g.definitions.find? name).map f := by
      rw [Table.find?, hr.definitions, Entries.find?_mapValues]
      rfl
    cases hid : g.definitions.find? name with
    | none =>
      rw [hid] at hfind
      exact .of_gives (gives_unknown (by simp [Table.mem_names_iff, hid]))
        (gives_unknown (by simp [Table.mem_names_iff, hfind]))
    | some id =>
      rw [hid] at hfind
      obtain ⟨m, hm, -⟩ := hs.defined.1 hid
      have hids' : g'.childIds (f id) = (g.childIds id).map f := hr.childIds (by rw [hm]; rfl)
      cases hids : g.childIds id with
      | nil =>
        rw [hids] at hids'
        exact .of_gives (gives_of_no_content hid hids) (gives_of_no_content hfind hids')
      | cons c cs =>
        rw [hids] at hids'
        obtain ⟨n, hn⟩ := Option.isSome_iff_exists.1
          (hf.child_present (hids ▸ List.mem_cons_self (a := c)))
        rw [definition_of_content hid hids hn, definition_of_content hfind hids' (hr.node hn)]
        exact concurs_node_depth hr hf hf' ha ha' hn

/-- The loop over the definitions that wait runs alike, given enough turns for each graph. -/
theorem concurs_definitions (h : PartsConcur g g' cfg) (steps : Nat) :
    ∀ (steps' : Nat) {w : WorkList}, w.budget g < steps → w.budget g' < steps' →
      (definitions g cfg steps w.pointedAt w.written w.waiting).Concurs
        (definitions g' cfg steps' w.pointedAt w.written w.waiting) := by
  induction steps with
  | zero => exact fun _ _ hd => absurd hd (Nat.not_lt_zero _)
  | succ steps ih =>
    rintro steps' ⟨pointedAt, written, waiting⟩ hd hd'
    obtain ⟨steps', rfl⟩ : ∃ c, steps' = c + 1 := ⟨steps' - 1, by omega⟩
    cases waiting with
    | nil => exact .refl _
    | cons name waiting =>
      have hturn : ∀ {w : WorkList}, Turn g cfg ⟨pointedAt, written, name :: waiting⟩ w →
          Turn g' cfg ⟨pointedAt, written, name :: waiting⟩ w →
          (definitions g cfg steps w.pointedAt w.written w.waiting).Concurs
            (definitions g' cfg steps' w.pointedAt w.written w.waiting) := by
        intro w hw hw'
        have hless := hw.budget_lt
        have hless' := hw'.budget_lt
        exact ih steps' (by omega) (by omega)
      dsimp only
      unfold definitions
      by_cases hhas : Entries.has written name = true
      · have hagain := Entries.has_eq_true_iff.1 hhas
        rw [if_pos hhas, if_pos hhas]
        exact hturn (.skip hagain) (.skip hagain)
      · have hfirst : name ∉ Entries.names written := fun h => hhas (Entries.has_eq_true_iff.2 h)
        obtain ⟨hvalue, hrefs⟩ := h.definition name
        rw [if_neg hhas, if_neg hhas]
        refine (h.definition name).listen_bind fun v notes notes' hv hnotes hnotes' => ?_
        dsimp only
        rw [hnotes, hnotes']
        refine (Concurs.refl _).bind fun new hnew => ?_
        have hwrite : Turn g' cfg ⟨pointedAt, written, name :: waiting⟩ _ :=
          .write hfirst (hvalue ▸ hv) (hrefs ▸ hnew)
        rw [← hrefs] at hwrite
        exact hturn (.write hfirst hv hnew) hwrite

/-- Two graphs whose parts concur are written alike. -/
theorem concurs_document (h : PartsConcur g g' cfg) {n n' : Node NodeId} (hn : g.root = .ok n)
    (hn' : g'.root = .ok n') : (document g cfg).Concurs (document g' cfg) := by
  unfold document
  rw [hn, hn', ofExcept_ok_bind, ofExcept_ok_bind, ← rootWriting_eq hn, ← rootWriting_eq hn', h.names]
  refine h.root.listen_bind fun root notes notes' _ hnotes hnotes' => ?_
  dsimp only
  rw [hnotes, hnotes']
  refine Concurs.bind (concurs_definitions h _ _ (WorkList.budget_start_lt g cfg) ?_)
    fun _ _ => .refl _
  have hstart : WorkList.start g cfg = WorkList.start g' cfg := by
    unfold WorkList.start
    rw [h.names, h.root.2]
  rw [hstart]
  exact WorkList.budget_start_lt g' cfg

end Compile

namespace Graph

open Compile Compiling

variable {g g' : Graph} {f : NodeId → NodeId} {suits : EdgeKind → EdgeKind → Prop}

/-- The document of a graph is what is written, if what was pointed at in vain can be sorted. -/
theorem map_document_compile (g : Graph) (cfg : DocumentConfig) :
    (g.compile cfg).map Compile.Result.document = do
      let doc ← (document g cfg).run.value
      let _ ← sortedTargets <| (document g cfg).references.filter fun target =>
        !target.str?.any g.definitions.has
      return doc := by
  unfold Graph.compile references
  dsimp only
  generalize (document g cfg).run = run
  cases run.value with
  | error e => rfl
  | ok doc =>
    generalize sortedTargets _ = missing
    cases missing <;> rfl

/-- The document of a graph does not depend on the names of its nodes. -/
theorem Renamed.compile_eq (hr : Renamed f g g') (hs : Sound g) (hs' : Sound g')
    (ha : Attached suits g) (ha' : Attached suits g') (cfg : DocumentConfig) :
    (g'.compile cfg).map Compile.Result.document = (g.compile cfg).map Compile.Result.document := by
  have hparts := partsConcur_of_renamed hr hs hs' ha ha' cfg
  obtain ⟨n, hn, -⟩ := hs.root
  obtain ⟨hvalue, hrefs⟩ := concurs_document hparts (pointedAt_eq_ok_iff.2 hn)
    (pointedAt_eq_ok_iff.2 (hr.rootId ▸ hr.node hn))
  have hhas : g'.definitions.has = g.definitions.has := by
    funext name
    rw [Bool.eq_iff_iff, Table.has_eq, Table.has_eq, ← Table.mem_names_iff, ← Table.mem_names_iff,
      hparts.names]
  rw [map_document_compile, map_document_compile, hvalue, hrefs, hhas]

end Graph

end FormGraph

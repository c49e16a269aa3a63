import FormGraph.Proofs.Describing.Renamed
import FormGraph.Proofs.Promotion.Place
import FormGraph.Proofs.References.Removal

/-!
# Inlining a definition

What copies a subtree, hangs the copy in the place of a reference and goes on with the next one finds
everything that it looks for, so a definition that is there can always be removed by inlining it
(`removeDefinition_total`).

When a reference is inlined, a copy of the content takes its place among the children or the clauses
of the node above, and everything else stays. `Substituted` says so in the views that a description of
a graph has: nodes, children and definitions.
-/

namespace FormGraph

/-- What succeeds on every item, whatever was gathered before, succeeds on the list. -/
theorem foldlM_total {α β : Type} {f : β → α → Except Fault β} {as : List α}
    (h : ∀ a ∈ as, ∀ b, ∃ b', f b a = .ok b') (b : β) : ∃ b', as.foldlM f b = .ok b' :=
  (isOk_foldlM_iff (P := fun _ => True) (fun a ha b => iff_of_true (h a ha b) trivial) b).2
    fun _ _ => trivial

namespace Graph

variable {g old : Graph} {s : IdSupply}

/-- There is room at every position that is not negative. -/
theorem placeEdge_total (e : Edge) (index : Option Int) (hi : ∀ i ∈ index, 0 ≤ i)
    (es : List Edge) : ∃ fs, placeEdge e index es = .ok fs := by
  unfold placeEdge
  cases index with
  | none => exact ⟨_, rfl⟩
  | some i =>
    have hpos := hi i rfl
    dsimp only
    split_ifs with hk hlast hnone
    · exact ⟨_, rfl⟩
    · exact ⟨_, rfl⟩
    · omega
    · exact ⟨_, rfl⟩

/-- A subtree that is there can be copied. -/
theorem copySubtree_total (hold : Forest old) {source : NodeId} (hsource : (old.node? source).isSome)
    (g : Graph) (s : IdSupply) : ∃ r, (g.copySubtree old source).run s = .ok r := by
  have hnames : ∀ {x}, Below old source x →
      ∃ y, copyName? (copyPairs old source s.used) x = some y := by
    intro x hx
    refine Option.isSome_iff_exists.1 (Entries.mem_names_iff.1 ?_)
    rw [Entries.names, copyPairs_fst]
    exact hold.mem_subtreeIds_iff.2 hx
  have hbelow : ∀ p ∈ copyPairs old source s.used, Below old source p.1 := fun p hp =>
    hold.mem_subtreeIds_iff.1 (mem_copyPairs hp).1
  obtain ⟨copied, hcopied⟩ : ∃ copied, g.copySubtreeAs old (copyPairs old source s.used) =
      .ok copied := by
    obtain ⟨nodes, hnodes⟩ := foldlM_total (f := copyNode old (copyPairs old source s.used))
      (fun p hp h => by
        obtain ⟨n, hn⟩ : ∃ n, old.node? p.1 = some n := by
          rcases below_iff.1 (hbelow p hp) with heq | ⟨e, he, -⟩
          · exact Option.isSome_iff_exists.1 (heq ▸ hsource)
          · exact Option.isSome_iff_exists.1 (hold.present he).1
        exact ⟨_, bind_eq_ok_iff.2 ⟨n, pointedAt_eq_ok_iff.2 hn, rfl⟩⟩) g
    obtain ⟨copied, hcopied⟩ := foldlM_total (f := copyEdges old (copyPairs old source s.used))
      (fun p hp h => by
        refine foldlM_total (fun e he h => ?_) h
        obtain ⟨y, hy⟩ := hnames (x := e.target) (.step (hold.owned he) (by
          rw [hold.source_eq he]
          exact hbelow p hp))
        exact ⟨_, bind_eq_ok_iff.2 ⟨y, orBreakDown_eq_ok_iff.2 hy, rfl⟩⟩) nodes
    exact ⟨copied, bind_eq_ok_iff.2 ⟨nodes, hnodes, hcopied⟩⟩
  obtain ⟨copy, hcopy⟩ := hnames .refl
  refine ⟨((copied, copy), ⟨s.used + (old.subtreeIds source).length⟩), ?_⟩
  unfold copySubtree
  simp only [Edit.bind_eq_ok_iff, Edit.lift_eq_ok_iff, Edit.pure_eq_ok_iff, orBreakDown_eq_ok_iff]
  exact ⟨_, _, rfl, copied, _, ⟨hcopied, rfl⟩, copy, _, ⟨hcopy, rfl⟩, rfl⟩

/-- A reference can be inlined. -/
theorem inlineReference_total (hs : Sound g) (hold : Sound old) (hsup : Supplied g s)
    {ref : NodeId} (hk : g.kind? ref = some .reference) (hk' : old.kind? ref = some .reference)
    {content : Option NodeId} (hcontent : ∀ c ∈ content, (old.node? c).isSome) :
    ∃ r, (g.inlineReference old ref content).run s = .ok r := by
  obtain ⟨n, hn, -⟩ := old.kind?_eq_some_iff.1 hk'
  unfold inlineReference
  simp only [Edit.bind_eq_ok_iff, Edit.lift_eq_ok_iff, pointedAt_eq_ok_iff]
  cases content with
  | none => exact ⟨_, n, s, ⟨hn, rfl⟩, Edit.pure_eq_ok_iff.2 rfl⟩
  | some c =>
    cases ho : g.owningEdge ref with
    | none => exact ⟨_, n, s, ⟨hn, rfl⟩, Edit.pure_eq_ok_iff.2 rfl⟩
    | some e =>
      obtain ⟨⟨⟨copied, copy⟩, t⟩, hcopy⟩ :=
        copySubtree_total hold.toForest (hcontent c rfl) ((g.detach ref).drop ref) s
      obtain ⟨hc, hmem, -⟩ :=
        copied_of_copySubtree hold.toForest (hs.takeOut hk).toForest (hsup.takeOut ref) hcopy
      obtain ⟨m, -, hm⟩ := hc.node _ hmem
      obtain ⟨es, hes⟩ := placeEdge_total ⟨e.source, copy, e.kind⟩
        (if e.kind = .child then some (((g.childIds e.source).idxOf ref : Nat) : Int) else none)
        (by
          intro i hi
          split_ifs at hi
          · rw [← Option.some.inj hi]
            exact Int.natCast_nonneg _
          · simp at hi)
        ((copied.putNode copy (standIn (copiedNode (copyPairs old c s.used) m) n)).edgesFrom e.source)
      simp only [Edit.bind_eq_ok_iff, Edit.lift_eq_ok_iff, Edit.pure_eq_ok_iff, pointedAt_eq_ok_iff,
        attach_eq_ok_iff]
      exact ⟨_, n, s, ⟨hn, rfl⟩, (copied, copy), t, hcopy, _, t, ⟨hm, rfl⟩, _, t,
        ⟨⟨es, hes, rfl⟩, rfl⟩, rfl⟩

namespace Inlining

/-- All references can be inlined, one after the other. -/
theorem inlineAll_total (hold : Sound old) {own : List NodeId}
    (hown : ∀ x ∈ own, (old.node? x).isSome) {content : Option NodeId}
    (hcontent : ∀ c, content = some c → (old.owningEdge c).isSome) (refs : List NodeId)
    (hn : refs.Nodup) (hout : ∀ ref ∈ refs, ref ∉ own) :
    ∀ {g : Graph} {s : IdSupply}, Inlining old own refs g → Supplied g s → Supplied old s →
      ∃ r, (refs.foldlM (fun (h : Graph) ref => h.inlineReference old ref content) g :
        Edit Graph).run s = .ok r := by
  induction refs with
  | nil => exact fun _ _ _ => ⟨_, rfl⟩
  | cons ref refs ih =>
    intro g s hi hsup hsupOld
    rw [List.nodup_cons] at hn
    obtain ⟨hk, hk'⟩ := hi.refs ref List.mem_cons_self
    have hthere : ∀ c, content = some c → (old.node? c).isSome := fun c hc => by
      obtain ⟨e, he⟩ := Option.isSome_iff_exists.1 (hcontent c hc)
      exact (hold.present he).1
    obtain ⟨⟨g₁, s₁⟩, h₁⟩ := inlineReference_total hi.sound hold hsup hk hk' hthere
    obtain ⟨hi₁, hsup₁, hle⟩ := hi.inlineReference hold hsup hsupOld hown
      (hout ref List.mem_cons_self) hn.1 hcontent h₁
    obtain ⟨r, hr⟩ := ih hn.2 (fun x hx => hout x (List.mem_cons_of_mem _ hx)) hi₁ hsup₁
      (hsupOld.step hle fun x hx => Or.inl hx)
    exact ⟨r, by rw [List.foldlM_cons, Edit.bind_eq_ok_iff]; exact ⟨g₁, s₁, h₁, hr⟩⟩

end Inlining

/-- A definition can be removed by inlining it. -/
theorem removeDefinition_total (hs : Sound g) (hsup : Supplied g s) {name : String} {defId : NodeId}
    (hfind : g.definitions.find? name = some defId) :
    ∃ r, (g.removeDefinition name .inlined).run s = .ok r := by
  obtain ⟨⟨settled, t⟩, hsettled⟩ := Inlining.inlineAll_total hs (hs.own_present hfind)
    hs.content_owned _ ((nodup_referencesTo g name).filter _)
    (fun ref href => by simpa using (List.mem_filter.1 href).2) (hs.inlining hfind) hsup hsup
  unfold removeDefinition
  simp only [hfind, Edit.bind_eq_ok_iff, Edit.pure_eq_ok_iff]
  unfold settleReferences
  dsimp only
  split_ifs
  · exact ⟨_, _, s, rfl, rfl⟩
  · simp only [Edit.bind_eq_ok_iff, Edit.pure_eq_ok_iff]
    exact ⟨_, _, t, ⟨settled, t, hsettled, rfl⟩, rfl⟩

end Graph

/-! ## What takes the place of a reference -/

namespace Graph

variable {g g' old : Graph} {s : IdSupply} {suits : EdgeKind → EdgeKind → Prop}

/-- What is left of a graph in which a reference gave way to a copy of the content. The nodes below the
content are copied under the names that `copy` gives them. -/
structure Substituted (g g' : Graph) (ref content : NodeId) (copy : NodeId → NodeId) : Prop where
  /-- The names of the copies are new. -/
  fresh : ∀ {x}, Below g content x → g.node? (copy x) = none
  /-- The other nodes stay, with the copy as the branch that the reference was. -/
  kept : ∀ {x m}, g.node? x = some m → x ≠ ref →
    g'.node? x = some (m.renamed (swapped ref (copy content)))
  /-- The copy is the child that the reference was. -/
  childIds : ∀ {x}, (g.node? x).isSome → x ≠ ref →
    g'.childIds x = (g.childIds x).map (swapped ref (copy content))
  /-- The copy says what the content says, under the key of the reference. -/
  top : ∀ {m n}, g.node? content = some m → g.node? ref = some n →
    g'.node? (copy content) = some (standIn (m.renamed copy) n)
  /-- The other copies say what their originals say. -/
  copied : ∀ {x m}, Below g content x → x ≠ content → g.node? x = some m →
    g'.node? (copy x) = some (m.renamed copy)
  /-- Below a copy there are copies of what is below its original. -/
  copiedIds : ∀ {x}, Below g content x → g'.childIds (copy x) = (g.childIds x).map copy
  /-- The definitions stay. -/
  definitions : g'.definitions = g.definitions
  /-- The root stays the root. -/
  rootId : g'.rootId = g.rootId

/-- The names of the copies. -/
def copyNames (pairs : List (NodeId × NodeId)) (x : NodeId) : NodeId := (copyName? pairs x).getD x

namespace Copied

variable {copied : Graph} {source : NodeId} {pairs : List (NodeId × NodeId)}

theorem copyNames_eq (hc : Copied old g copied source pairs) {p : NodeId × NodeId} (hp : p ∈ pairs) :
    copyNames pairs p.1 = p.2 := by
  rw [copyNames, hc.name p hp, Option.getD_some]

/-- The branches of a copied group are the copies of its branches. -/
theorem node_renamed (hc : Copied old g copied source pairs) (ha : Attached suits old) {x : NodeId}
    {m : Node NodeId} (hx : Below old source x) (hm : old.node? x = some m) :
    copied.node? (copyNames pairs x) = some (m.renamed (copyNames pairs)) := by
  obtain ⟨p, hp, rfl⟩ := (hc.originals x).1 hx
  obtain ⟨n, hn, hcopy⟩ := hc.node p hp
  obtain rfl : m = n := Option.some.inj (hm.symm.trans hn)
  rw [hc.copyNames_eq hp, hcopy]
  refine congrArg some ((Node.setClauses_map m _).trans (Node.bindTargets_congr ?_))
  intro c hcl k t ht
  obtain ⟨_, _, _, ho⟩ := ha ⟨c, clausesAt_of_node? hm ▸ hcl, ht⟩
  obtain ⟨q, hq, rfl⟩ := (hc.originals t).1 (.step ho hx)
  rw [hc.name q hq, hc.copyNames_eq hq]

/-- The edges of a copy lead from copy to copy. -/
theorem edgesFrom_eq (hc : Copied old g copied source pairs) (hold : Forest old) {p : NodeId × NodeId}
    (hp : p ∈ pairs) :
    copied.edgesFrom p.2 = (old.edgesFrom p.1).map (Edge.renamed (copyNames pairs)) := by
  rw [hc.edges p hp]
  refine List.map_congr_left fun e he => ?_
  have hsource := hold.source_eq he
  obtain ⟨q, hq, hqe⟩ := hc.exists_copy_of_edge hold hp he
  rw [copiedEdge, Edge.renamed, hsource, ← hqe, hc.name q hq, hc.copyNames_eq hp, hc.copyNames_eq hq,
    Option.getD_some]

theorem childIds_eq (hc : Copied old g copied source pairs) (hold : Forest old) {x : NodeId}
    (hx : Below old source x) :
    copied.childIds (copyNames pairs x) = (old.childIds x).map (copyNames pairs) := by
  obtain ⟨p, hp, rfl⟩ := (hc.originals x).1 hx
  unfold Graph.childIds targetsOfKind edgesOfKind
  rw [hc.copyNames_eq hp, hc.edgesFrom_eq hold hp, List.filter_map, List.map_map, List.map_map]
  rfl

end Copied

namespace CopyInPlace

variable {ref content : NodeId} {r : Graph × IdSupply} {x : NodeId}

theorem copyNames_content (i : CopyInPlace old g s ref content r) :
    copyNames i.pairs content = i.copyId :=
  i.copies.copyNames_eq i.mem_pairs

theorem eq_rehung (i : CopyInPlace old g s ref content r) :
    r.1 = i.wired.rehung i.edge ref i.copyId :=
  i.eq_wired

theorem node?_wired (i : CopyInPlace old g s ref content r) (x : NodeId) : i.wired.node? x =
    if i.copyId = x then some (standIn i.top i.node) else i.copied.node? x := by
  rw [wired, node?_wire, node?_putNode]

theorem edgesFrom_eq (i : CopyInPlace old g s ref content r) (x : NodeId) : r.1.edgesFrom x =
    if i.edge.source = x then i.es else i.copied.edgesFrom x := by
  rw [i.eq_rehung, edgesFrom_rehung, wired, edgesFrom_wire, edgesFrom_putNode]

/-- The copies say what they said before the topmost one was put in its place, but for that one. -/
theorem node?_copy (i : CopyInPlace old g s ref content r) (hs : Sound g) (hsup : Supplied g s)
    {p : NodeId × NodeId} (hp : p ∈ i.pairs) : r.1.node? p.2 =
      if i.copyId = p.2 then some (standIn i.top i.node) else i.copied.node? p.2 := by
  have hsource := i.ne_of_present hsup (hs.present i.owner).2 p hp
  rw [i.eq_rehung, node?_rehung, if_neg fun h => hsource h.2.symm, i.node?_wired]

/-- What was there and is not the reference stays, with the copy as the branch that the reference
was. -/
theorem node?_kept (i : CopyInPlace old g s ref content r) (ha : Attached suits g)
    (hsup : Supplied g s) {m : Node NodeId} (hm : g.node? x = some m) (hx : x ≠ ref) :
    r.1.node? x = some (m.renamed (swapped ref i.copyId)) := by
  have hout : ∀ p ∈ i.pairs, p.2 ≠ x := i.ne_of_present hsup (by rw [hm]; rfl)
  have hstays : i.wired.node? x = some m := by
    rw [i.node?_wired, if_neg (hout _ i.mem_pairs), i.node?_outside hout, if_neg (Ne.symm hx), hm]
  rw [i.eq_rehung, node?_rehung, hstays, Node.renamed, ← ha.rehung i.owner hm]
  split <;> rfl

/-- The copy is the child that the reference was. -/
theorem childIds_kept (i : CopyInPlace old g s ref content r) (hs : Sound g) (hsup : Supplied g s)
    (hx : (g.node? x).isSome) (hne : x ≠ ref) :
    r.1.childIds x = (g.childIds x).map (swapped ref i.copyId) := by
  have hout : ∀ p ∈ i.pairs, p.2 ≠ x := i.ne_of_present hsup hx
  refine childIds_of_replaced hs i.owner i.placed ?_ (i.edgesFrom_eq x)
  rw [(i.copies.outside x hout).2.1, edgesFrom_drop, if_neg (Ne.symm hne)]

theorem childIds_copy (i : CopyInPlace old g s ref content r) (hs : Sound g) (hold : Sound old)
    (hsup : Supplied g s) (hx : Below old content x) :
    r.1.childIds (copyNames i.pairs x) = (old.childIds x).map (copyNames i.pairs) := by
  rw [← i.copies.childIds_eq hold.toForest hx]
  obtain ⟨p, hp, rfl⟩ := (i.copies.originals x).1 hx
  rw [i.copies.copyNames_eq hp]
  have hsource := i.ne_of_present hsup (hs.present i.owner).2 p hp
  exact childIds_congr (by rw [i.edgesFrom_eq, if_neg (Ne.symm hsource)])

/-- A copy in the place of a reference to what is in the same graph. -/
theorem substituted (i : CopyInPlace g g s ref content r) (hs : Sound g) (ha : Attached suits g)
    (hsup : Supplied g s) : Substituted g r.1 ref content (copyNames i.pairs) where
  fresh hx := by
    obtain ⟨p, hp, rfl⟩ := (i.copies.originals _).1 hx
    rw [i.copies.copyNames_eq hp, i.fresh hsup p hp]
  kept hm hx := by
    rw [i.copyNames_content]
    exact i.node?_kept ha hsup hm hx
  childIds hx hne := by
    rw [i.copyNames_content]
    exact i.childIds_kept hs hsup hx hne
  top hm hn := by
    have hcopied := i.copies.node_renamed ha .refl hm
    rw [i.copyNames_content, i.top_eq] at hcopied
    rw [i.copyNames_content, i.node?_copy hs hsup i.mem_pairs, if_pos rfl,
      Option.some.inj hcopied, Option.some.inj (hn.symm.trans i.node_eq)]
  copied {x _} hx hne hm := by
    have hcopied := i.copies.node_renamed ha hx hm
    obtain ⟨p, hp, rfl⟩ := (i.copies.originals x).1 hx
    rw [i.copies.copyNames_eq hp] at hcopied ⊢
    rw [i.node?_copy hs hsup hp, if_neg, hcopied]
    exact fun heq => hne (congrArg Prod.fst (i.copies.same_original p hp _ i.mem_pairs heq.symm))
  copiedIds hx := i.childIds_copy hs hs hsup hx
  definitions := i.definitions
  rootId := i.rootId

end CopyInPlace

/-- Inlining a reference puts a copy in its place. -/
theorem substituted_of_inlineReference (hs : Sound g) (ha : Attached suits g) (hsup : Supplied g s)
    {ref content : NodeId} (hk : g.kind? ref = some .reference)
    {r : Graph × IdSupply} (h : (g.inlineReference g ref (some content)).run s = .ok r) :
    ∃ copy, Substituted g r.1 ref content copy := by
  rcases hs.inPlace_of_inlineReference hs hsup hk h with ⟨hwhy, -⟩ | ⟨_, hc, ⟨i⟩⟩
  · have howned := owned_of_reference hs hk
    rw [hwhy.resolve_left (by simp)] at howned
    simp at howned
  · obtain rfl := Option.some.inj hc
    exact ⟨_, i.substituted hs ha hsup⟩

end Graph

end FormGraph

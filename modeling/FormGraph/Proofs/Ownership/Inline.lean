import FormGraph.Proofs.Ownership.Copy

/-!
# Inlining keeps a graph sound

A copy of a subtree is sound but for its top, which hangs nowhere until it takes the place of a
reference. The references of a definition are inlined one after another, while the content is always
read from the graph before the edit; `Inlining` is what holds in between.
-/

namespace FormGraph

namespace Graph

variable {g g' old : Graph} {s : IdSupply}

namespace Copied

variable {source : NodeId} {pairs : List (NodeId × NodeId)}

theorem name_or_outside (pairs : List (NodeId × NodeId)) (x : NodeId) :
    (∃ p ∈ pairs, p.2 = x) ∨ ∀ p ∈ pairs, p.2 ≠ x := by
  by_cases h : ∃ p ∈ pairs, p.2 = x
  · exact Or.inl h
  · exact Or.inr fun p hp heq => h ⟨p, hp, heq⟩

theorem outside_of_present (hc : Copied old g g' source pairs) {x : NodeId}
    (h : (g.node? x).isSome) : ∀ p ∈ pairs, p.2 ≠ x := by
  rintro p hp rfl
  rw [hc.fresh p hp] at h
  simp at h

theorem kind? (hc : Copied old g g' source pairs) {p : NodeId × NodeId} (hp : p ∈ pairs) :
    g'.kind? p.2 = old.kind? p.1 := by
  obtain ⟨n, hn, hcopy⟩ := hc.node p hp
  rw [kind?_of_node? _ hn, kind?_of_node? _ hcopy]
  exact congrArg some (Node.kind_setClauses n _)

theorem kind?_outside (hc : Copied old g g' source pairs) {x : NodeId}
    (hx : ∀ p ∈ pairs, p.2 ≠ x) : g'.kind? x = g.kind? x := by
  rw [Graph.kind?, (hc.outside x hx).1, Graph.kind?]

/-- What an edge from below the source leads to was copied, too. -/
theorem exists_copy_of_edge (hc : Copied old g g' source pairs) (hold : Forest old)
    {p : NodeId × NodeId} (hp : p ∈ pairs) {f : Edge} (hf : f ∈ old.edgesFrom p.1) :
    ∃ q ∈ pairs, q.1 = f.target := by
  refine (hc.originals f.target).1 (.step (hold.owned hf) ?_)
  rw [hold.source_eq hf]
  exact (hc.originals _).2 ⟨p, hp, rfl⟩

/-- An edge below a copy belongs to one below its original. -/
theorem mem_edges (hc : Copied old g g' source pairs) (hold : Forest old) {p : NodeId × NodeId}
    (hp : p ∈ pairs) {e : Edge} :
    e ∈ g'.edgesFrom p.2 ↔ ∃ q ∈ pairs, ∃ f ∈ old.edgesFrom p.1, f.target = q.1 ∧
      e = ⟨p.2, q.2, f.kind⟩ := by
  rw [hc.edges p hp, List.mem_map]
  constructor
  · rintro ⟨f, hf, rfl⟩
    obtain ⟨q, hq, hqf⟩ := hc.exists_copy_of_edge hold hp hf
    exact ⟨q, hq, f, hf, hqf.symm, by rw [copiedEdge, ← hqf, hc.name q hq, Option.getD_some]⟩
  · rintro ⟨q, hq, f, hf, hqf, rfl⟩
    exact ⟨f, hf, by rw [copiedEdge, hqf, hc.name q hq, Option.getD_some]⟩

/-- What an edge below a copy leads to is owned by that edge. -/
theorem owned (hc : Copied old g g' source pairs) (hold : Forest old) {p q : NodeId × NodeId}
    (hp : p ∈ pairs) (hq : q ∈ pairs) {f : Edge} (hf : f ∈ old.edgesFrom p.1)
    (hqf : f.target = q.1) : g'.owningEdge q.2 = some ⟨p.2, q.2, f.kind⟩ := by
  have hown := hold.owned hf
  have hsrc := hold.source_eq hf
  rw [hqf] at hown
  have hne : q.1 ≠ source := by
    intro heq
    refine hold.not_below_owner hown ?_
    rw [hsrc, heq]
    exact (hc.originals _).2 ⟨p, hp, rfl⟩
  obtain ⟨e, p', hp', he, hpe, hnew⟩ := hc.owner q hq hne
  rw [hown] at he
  obtain rfl := Option.some.inj he
  rw [hnew, hc.same_copy p' hp' p hp (hpe.trans hsrc)]

/-- The edge of a copy other than the top one belongs to that of its original. -/
theorem of_owningEdge (hc : Copied old g g' source pairs) {q : NodeId × NodeId} (hq : q ∈ pairs)
    {e : Edge} (he : g'.owningEdge q.2 = some e) :
    ∃ f, ∃ p ∈ pairs, old.owningEdge q.1 = some f ∧ p.1 = f.source ∧
      e = ⟨p.2, q.2, f.kind⟩ := by
  by_cases htop : q.1 = source
  · rw [hc.top q hq htop] at he
    simp at he
  · obtain ⟨f, p, hp, hf, hpf, hnew⟩ := hc.owner q hq htop
    rw [hnew] at he
    exact ⟨f, p, hp, hf, hpf, (Option.some.inj he).symm⟩

/-- Edges below one node with one copy lead to one node. -/
theorem nodup_edges (hc : Copied old g g' source pairs) (hold : Forest old) {p : NodeId × NodeId}
    (hp : p ∈ pairs) : (g'.edgesFrom p.2).Nodup := by
  rw [hc.edges p hp]
  refine (hold.nodup p.1).map_on fun e he f hf heq => ?_
  obtain ⟨q, hq, hqe⟩ := hc.exists_copy_of_edge hold hp he
  obtain ⟨r, hr, hrf⟩ := hc.exists_copy_of_edge hold hp hf
  have ht := congrArg Edge.target heq
  simp only [copiedEdge, ← hqe, ← hrf, hc.name q hq, hc.name r hr, Option.getD_some] at ht
  refine hold.edge_unique he hf ?_
  rw [← hqe, ← hrf, hc.same_original q hq r hr ht]

/-- A climb from what was there before stays among what was there before. -/
theorem grounded_outside (hc : Copied old g g' source pairs) (hg : Forest g) {x : NodeId}
    (hout : ∀ p ∈ pairs, p.2 ≠ x) : Grounded g' x := by
  have hx := hg.grounded x
  induction hx with
  | @top x h => exact .top (by rw [(hc.outside x hout).2.2, h])
  | @owned x e h _ ih =>
    refine .owned (by rw [(hc.outside x hout).2.2, h]) (ih ?_)
    exact hc.outside_of_present (hg.present h).2

/-- A climb from a copy ends at the topmost one. -/
theorem grounded_copy (hc : Copied old g g' source pairs) {x : NodeId} (hx : Below old source x) :
    ∀ q ∈ pairs, q.1 = x → Grounded g' q.2 := by
  induction hx with
  | refl => exact fun q hq heq => .top (hc.top q hq heq)
  | @step x e h _ ih =>
    rintro q hq rfl
    by_cases htop : q.1 = source
    · exact .top (hc.top q hq htop)
    · obtain ⟨f, p, hp, hf, hpf, hnew⟩ := hc.owner q hq htop
      rw [h] at hf
      obtain rfl := Option.some.inj hf
      exact .owned hnew (ih p hp hpf)

theorem forest (hc : Copied old g g' source pairs) (hold : Forest old) (hg : Forest g) :
    Forest g' := by
  refine
    { source_eq := ?_
      owned := ?_
      listed := ?_
      nodup := ?_
      present := ?_
      grounded := ?_ }
  · intro x e he
    rcases name_or_outside pairs x with ⟨p, hp, rfl⟩ | hx
    · obtain ⟨_, _, _, _, _, rfl⟩ := (hc.mem_edges hold hp).1 he
      rfl
    · rw [(hc.outside x hx).2.1] at he
      exact hg.source_eq he
  · intro x e he
    rcases name_or_outside pairs x with ⟨p, hp, rfl⟩ | hx
    · obtain ⟨q, hq, f, hf, hqf, rfl⟩ := (hc.mem_edges hold hp).1 he
      exact hc.owned hold hp hq hf hqf
    · rw [(hc.outside x hx).2.1] at he
      rw [(hc.outside e.target (hc.outside_of_present (hg.target_present he))).2.2]
      exact hg.owned he
  · intro x e he
    rcases name_or_outside pairs x with ⟨q, hq, rfl⟩ | hx
    · obtain ⟨f, p, hp, hf, hpf, rfl⟩ := hc.of_owningEdge hq he
      refine ⟨rfl, (hc.mem_edges hold hp).2 ⟨q, hq, f, ?_, (hold.listed hf).1, rfl⟩⟩
      rw [hpf]
      exact (hold.listed hf).2
    · rw [(hc.outside x hx).2.2] at he
      refine ⟨(hg.listed he).1, ?_⟩
      rw [(hc.outside _ (hc.outside_of_present (hg.present he).2)).2.1]
      exact (hg.listed he).2
  · intro x
    rcases name_or_outside pairs x with ⟨p, hp, rfl⟩ | hx
    · exact hc.nodup_edges hold hp
    · rw [(hc.outside x hx).2.1]
      exact hg.nodup x
  · intro x e he
    rcases name_or_outside pairs x with ⟨q, hq, rfl⟩ | hx
    · obtain ⟨f, p, hp, hf, hpf, rfl⟩ := hc.of_owningEdge hq he
      obtain ⟨m, _, hm⟩ := hc.node q hq
      obtain ⟨n, _, hn⟩ := hc.node p hp
      simp [hm, hn]
    · rw [(hc.outside x hx).2.2] at he
      rw [(hc.outside x hx).1, (hc.outside _ (hc.outside_of_present (hg.present he).2)).1]
      exact hg.present he
  · intro x
    rcases name_or_outside pairs x with ⟨q, hq, rfl⟩ | hx
    · exact hc.grounded_copy ((hc.originals _).2 ⟨q, hq, rfl⟩) q hq rfl
    · exact hc.grounded_outside hg hx

/-- A copy of what is below a node that hangs somewhere is sound but for its top. -/
theorem sound (hc : Copied old g g' source pairs) (hold : Sound old) (hg : Sound g)
    (hsource : (old.owningEdge source).isSome) {copy : NodeId} (hcopy : (source, copy) ∈ pairs) :
    SoundBut (fun x => x = copy) g' := by
  obtain ⟨e₀, he₀⟩ := Option.isSome_iff_exists.1 hsource
  have hroot : source ≠ old.rootId := by
    rintro rfl
    rw [hold.root_top] at he₀
    simp at he₀
  have hdef : old.kind? source ≠ some .definition := by
    intro hk
    obtain ⟨n, hn, hkind⟩ := old.kind?_eq_some_iff.1 hk
    rw [hold.definition_top hn hkind] at he₀
    simp at he₀
  have hnodef : ∀ p ∈ pairs, ∀ n, g'.node? p.2 = some n → n.kind ≠ .definition := by
    intro p hp n hn hk
    refine (hold.not_top_of_below ((hc.originals _).2 ⟨p, hp, rfl⟩) hroot hdef).2 ?_
    rw [← hc.kind? hp, kind?_of_node? _ hn, hk]
  refine { hc.forest hold.toForest hg.toForest with
    root := ?_
    root_top := ?_
    definition_top := ?_
    held := ?_
    defined := ?_
    named := ?_
    fits := ?_ }
  · obtain ⟨n, hn, hk⟩ := hg.root
    refine ⟨n, ?_, hk⟩
    rw [hc.rootId, (hc.outside _ (hc.outside_of_present (by simp [hn]))).1, hn]
  · obtain ⟨n, hn, _⟩ := hg.root
    rw [hc.rootId, (hc.outside _ (hc.outside_of_present (by simp [hn]))).2.2]
    exact hg.root_top
  · intro x n hn hk
    rcases name_or_outside pairs x with ⟨p, hp, rfl⟩ | hx
    · exact absurd hk (hnodef p hp n hn)
    · rw [(hc.outside x hx).1] at hn
      rw [(hc.outside x hx).2.2]
      exact hg.definition_top hn hk
  · intro x n hn ho
    rcases name_or_outside pairs x with ⟨p, hp, rfl⟩ | hx
    · refine Or.inr (Or.inr ?_)
      by_cases htop : p.1 = source
      · rw [hc.same_copy p hp _ hcopy htop]
      · obtain ⟨_, _, _, _, _, hnew⟩ := hc.owner p hp htop
        rw [ho] at hnew
        simp at hnew
    · rw [(hc.outside x hx).1] at hn
      rw [(hc.outside x hx).2.2] at ho
      rw [hc.rootId]
      rcases hg.top_of_sound hn ho with h | h
      · exact Or.inl h
      · exact Or.inr (Or.inl h)
  · intro name x
    rw [hc.definitions, hg.defined]
    rcases name_or_outside pairs x with ⟨p, hp, rfl⟩ | hx
    · constructor
      · rintro ⟨n, hn, _⟩
        rw [hc.fresh p hp] at hn
        simp at hn
      · rintro ⟨n, hn, hname⟩
        exact absurd (Node.kind_eq_of_definitionName? hname) (hnodef p hp n hn)
    · rw [(hc.outside x hx).1]
  · intro x n hn hk
    rcases name_or_outside pairs x with ⟨p, hp, rfl⟩ | hx
    · exact absurd hk (hnodef p hp n hn)
    · rw [(hc.outside x hx).1] at hn
      exact hg.named hn hk
  · intro x e n ho hn
    rcases name_or_outside pairs x with ⟨q, hq, rfl⟩ | hx
    · obtain ⟨f, p, hp, hf, hpf, rfl⟩ := hc.of_owningEdge hq ho
      obtain ⟨m, hm⟩ := Option.isSome_iff_exists.1 (hold.present hf).2
      have hk := hc.kind? hp
      rw [kind?_of_node? _ hn, hpf, old.kind?_of_node? hm] at hk
      have hfits := hold.fits hf hm
      rw [Option.some.inj hk]
      exact hfits
    · rw [(hc.outside x hx).2.2] at ho
      rw [(hc.outside _ (hc.outside_of_present (hg.present ho).2)).1] at hn
      exact hg.fits ho hn

/-- Below the top of a copy there are copies only. -/
theorem copy_of_below (hc : Copied old g g' source pairs) (hg : Forest g) {copy x : NodeId}
    (hcopy : (source, copy) ∈ pairs) (hb : Below g' copy x) : ∃ p ∈ pairs, p.2 = x := by
  induction hb with
  | refl => exact ⟨_, hcopy, rfl⟩
  | @step x e ho _ ih =>
    rcases name_or_outside pairs x with h | hx
    · exact h
    · obtain ⟨p, hp, heq⟩ := ih
      rw [(hc.outside x hx).2.2] at ho
      exact absurd heq (hc.outside_of_present (hg.present ho).2 p hp)

end Copied

/-! ## Putting a copy in the place of a reference -/

namespace SoundBut

/-- Forgetting the one loose node when nothing hangs below it. -/
theorem dropLeaf {t : NodeId} (hs : SoundBut (fun x => x = t) g) (hown : g.owningEdge t = none)
    (hleaf : ∀ x e, g.owningEdge x = some e → e.source ≠ t) (hroot : g.rootId ≠ t)
    (hdef : g.kind? t ≠ some .definition) {ids : List NodeId} (hids : ∀ x, x ∈ ids ↔ x = t) :
    Sound (g.dropAll ids) := by
  refine (hs.dropAll ?_ ?_ ?_).mono fun x hx => hx.2 ((hids x).2 hx.1)
  · intro x e he
    rw [hids, hids]
    refine ⟨?_, fun h => absurd h (hleaf x e he)⟩
    rintro rfl
    rw [hown] at he
    simp at he
  · rw [hids]
    exact hroot
  · intro x hx n hn hk
    rw [hids] at hx
    exact hdef (by rw [← hx, g.kind?_of_node? hn, hk])

theorem source_ne_leaf (hs : Sound g) {t : NodeId} {k : NodeKind} (hk : g.kind? t = some k)
    (hl : k.isLeaf = true) : ∀ x e, g.owningEdge x = some e → e.source ≠ t := by
  rintro x e he rfl
  obtain ⟨n, hn, rfl⟩ := g.kind?_eq_some_iff.1 hk
  have hmem := (hs.listed he).2
  rw [hs.edgesFrom_leaf hn hl] at hmem
  simp at hmem

theorem ne_root_of_kind (hs : SoundBut (fun _ => False) g) {t : NodeId} {k : NodeKind}
    (hk : g.kind? t = some k) (hne : k ≠ .object) : g.rootId ≠ t := by
  rintro rfl
  obtain ⟨n, hn, rfl⟩ := g.kind?_eq_some_iff.1 hk
  exact hne (hs.root_kind hn)

/-- Taking a reference out keeps the graph sound. -/
theorem takeOut (hs : Sound g) {ref : NodeId} (hk : g.kind? ref = some .reference) :
    Sound ((g.detach ref).drop ref) := by
  have hloose : SoundBut (fun x => x = ref) (g.detach ref) :=
    (hs.detach ref).mono fun x hx => hx.elim False.elim fun h => h
  have hleaf := hs.source_ne_leaf hk rfl
  show Sound ((g.detach ref).dropAll [ref])
  refine hloose.dropLeaf ?_ ?_ ?_ ?_ fun x => List.mem_singleton
  · rw [owningEdge_detach, if_pos rfl]
  · intro x e he
    rw [owningEdge_detach] at he
    split_ifs at he
    exact hleaf x e he
  · rw [rootId_detach]
    exact hs.ne_root_of_kind hk (by simp)
  · rw [kind?_detach, hk]
    simp

/-- Nothing hangs below a reference. -/
theorem mem_subtreeIds_of_reference (hs : Sound g) {ref : NodeId}
    (hk : g.kind? ref = some .reference) {x : NodeId} : x ∈ g.subtreeIds ref ↔ x = ref := by
  rw [hs.toForest.mem_subtreeIds_iff]
  constructor
  · intro hb
    by_contra hne
    exact not_below_of_childless (hs.source_ne_leaf hk rfl) hne hb
  · rintro rfl
    exact .refl

/-- A reference is forgotten by its extent in the earlier graph, which is itself only. -/
theorem removeReference (hs : Sound g) (hold : Sound old) {ref : NodeId}
    (hk : g.kind? ref = some .reference) (hk' : old.kind? ref = some .reference) :
    Sound (g.removeSubtree old ref) := by
  have hleaf := hs.source_ne_leaf hk rfl
  refine (hs.freed ref).dropLeaf ?_ ?_ ?_ ?_ fun x => hold.mem_subtreeIds_of_reference hk'
  · rw [owningEdge_freed, if_pos rfl]
  · intro x e he
    rw [owningEdge_freed] at he
    split_ifs at he
    exact hleaf x e he
  · rw [rootId_freed]
    exact hs.ne_root_of_kind hk (by simp)
  · rw [kind?_freed, hk]
    simp

end SoundBut

/-- A copy in the place of the reference `ref`: what is below the content was copied, under names from
the supply, into the graph without the reference, and the topmost copy hangs where the reference did,
named after it. -/
structure CopyInPlace (old g : Graph) (s : IdSupply) (ref content : NodeId)
    (r : Graph × IdSupply) where
  /-- The reference. -/
  node : Node NodeId
  /-- The edge that owned it. -/
  edge : Edge
  /-- The originals with the names of their copies. -/
  pairs : List (NodeId × NodeId)
  /-- The graph with the copies, in which nothing owns the topmost one. -/
  copied : Graph
  /-- The name of the topmost copy. -/
  copyId : NodeId
  /-- The topmost copy, as its original is. -/
  top : Node NodeId
  /-- What its parent owns in the end. -/
  es : List Edge
  node_eq : old.node? ref = some node
  owner : g.owningEdge ref = some edge
  copies : Copied old ((g.detach ref).drop ref) copied content pairs
  mem_pairs : (content, copyId) ∈ pairs
  named : ∀ p ∈ pairs, ∃ j, s.used < j ∧ j ≤ r.2.used ∧ p.2 = IdSupply.nameOf j
  used_le : s.used ≤ r.2.used
  top_eq : copied.node? copyId = some top
  /-- A copy that is a child takes the position of the reference. -/
  placed : placeEdge ⟨edge.source, copyId, edge.kind⟩
    (if edge.kind = .child then some (((g.childIds edge.source).idxOf ref : Nat) : Int) else none)
    (copied.edgesFrom edge.source) = .ok es
  /-- The clauses that named the reference name the copy. -/
  result : r.1 =
    if edge.kind.isBranch then
      ((copied.putNode copyId (standIn top node)).wire ⟨edge.source, copyId, edge.kind⟩ es).retarget
        edge.source ref (some copyId)
    else (copied.putNode copyId (standIn top node)).wire ⟨edge.source, copyId, edge.kind⟩ es

namespace SoundBut

/-- A reference that is inlined goes, or gives way to a copy of the content. -/
theorem inPlace_of_inlineReference (hs : Sound g) (hold : Sound old) (hsup : Supplied g s)
    {ref : NodeId} (hk : g.kind? ref = some .reference) {content : Option NodeId}
    {r : Graph × IdSupply} (h : (g.inlineReference old ref content).run s = .ok r) :
    ((content = none ∨ g.owningEdge ref = none) ∧ r = (g.removeSubtree old ref, s)) ∨
      ∃ c, content = some c ∧ Nonempty (CopyInPlace old g s ref c r) := by
  obtain ⟨n, hn, hr | hr⟩ := inlineReference_ok h
  · exact Or.inl hr
  obtain ⟨c, e, copied, copyId, top, es, hsome, ho, hcopy, htop, hplace, _, rfl, hr⟩ := hr
  obtain ⟨hc, hmem, hused⟩ :=
    copied_of_copySubtree hold.toForest (hs.takeOut hk).toForest (hsup.takeOut ref) hcopy
  refine Or.inr ⟨c, hsome, ⟨n, e, _, copied, copyId, top, es, hn, ho, hc, hmem, fun p hp => ?_,
    ?_, htop, hplace, hr⟩⟩
  · obtain ⟨_, j, hlt, hle, heq⟩ := mem_copyPairs hp
    exact ⟨j, hlt, hused ▸ hle, heq⟩
  · rw [hused]
    exact Nat.le_add_right _ _

end SoundBut

namespace CopyInPlace

variable {ref content : NodeId} {r : Graph × IdSupply} {x : NodeId}

/-- The names of the copies are not in use where the supply is good. -/
theorem fresh (i : CopyInPlace old g s ref content r) {w : Graph} (hsup : Supplied w s) :
    ∀ p ∈ i.pairs, w.node? p.2 = none := by
  intro p hp
  obtain ⟨j, hj, _, heq⟩ := i.named p hp
  rw [heq]
  exact hsup j hj

theorem ne_of_present (i : CopyInPlace old g s ref content r) {w : Graph} (hsup : Supplied w s)
    (h : (w.node? x).isSome) : ∀ p ∈ i.pairs, p.2 ≠ x := by
  rintro p hp rfl
  simp [i.fresh hsup p hp] at h

/-- The copy will hang by the edge of the reference. -/
theorem owningEdge_ref (i : CopyInPlace old g s ref content r) (hs : Sound g) :
    g.owningEdge ref = some ⟨i.edge.source, ref, i.edge.kind⟩ := by
  have htarget : i.edge.target = ref := (hs.listed i.owner).1
  rw [i.owner]
  exact congrArg (fun t => some (Edge.mk i.edge.source t i.edge.kind)) htarget

/-- The graph with the copy in its place, before the clauses name it. -/
def wired (i : CopyInPlace old g s ref content r) : Graph :=
  (i.copied.putNode i.copyId (standIn i.top i.node)).wire ⟨i.edge.source, i.copyId, i.edge.kind⟩ i.es

theorem eq_wired (i : CopyInPlace old g s ref content r) : r.1 =
    if i.edge.kind.isBranch then i.wired.retarget i.edge.source ref (some i.copyId) else i.wired :=
  i.result

/-- Naming the copy after the reference leaves its kind. -/
theorem kind?_putNode (i : CopyInPlace old g s ref content r) (x : NodeId) :
    (i.copied.putNode i.copyId (standIn i.top i.node)).kind? x = i.copied.kind? x := by
  rw [Graph.kind?_putNode]
  split
  · next hx =>
    rw [← hx, kind?_of_node? _ i.top_eq]
    rfl
  · rfl

theorem kind?_wired (i : CopyInPlace old g s ref content r) (x : NodeId) :
    i.wired.kind? x = i.copied.kind? x := by
  rw [wired, kind?_wire, i.kind?_putNode]

theorem owningEdge_wired (i : CopyInPlace old g s ref content r) (x : NodeId) :
    i.wired.owningEdge x = if i.copyId = x then some ⟨i.edge.source, i.copyId, i.edge.kind⟩
      else i.copied.owningEdge x := by
  rw [wired, owningEdge_wire, owningEdge_putNode]

theorem kind? (i : CopyInPlace old g s ref content r) (x : NodeId) :
    r.1.kind? x = i.copied.kind? x := by
  rw [i.eq_wired]
  split
  · rw [kind?_retarget, i.kind?_wired]
  · exact i.kind?_wired x

theorem owningEdge_eq_wired (i : CopyInPlace old g s ref content r) (x : NodeId) :
    r.1.owningEdge x = i.wired.owningEdge x := by
  rw [i.eq_wired]
  split
  · rw [owningEdge_retarget]
  · rfl

theorem owningEdge (i : CopyInPlace old g s ref content r) (x : NodeId) :
    r.1.owningEdge x = if i.copyId = x then some ⟨i.edge.source, i.copyId, i.edge.kind⟩
      else i.copied.owningEdge x :=
  (i.owningEdge_eq_wired x).trans (i.owningEdge_wired x)

theorem node?_outside (i : CopyInPlace old g s ref content r) (hx : ∀ p ∈ i.pairs, p.2 ≠ x) :
    i.copied.node? x = if ref = x then none else g.node? x := by
  rw [(i.copies.outside x hx).1, node?_drop, node?_detach]

/-- Of what is no copy, the reference is gone and the rest is what it was. -/
theorem kind?_outside (i : CopyInPlace old g s ref content r) (hx : ∀ p ∈ i.pairs, p.2 ≠ x) :
    r.1.kind? x = if ref = x then none else g.kind? x := by
  rw [i.kind?, Graph.kind?, i.node?_outside hx, Graph.kind?]
  split <;> rfl

theorem owningEdge_outside (i : CopyInPlace old g s ref content r) (hx : ∀ p ∈ i.pairs, p.2 ≠ x) :
    r.1.owningEdge x = if ref = x then none else g.owningEdge x := by
  rw [i.owningEdge, if_neg (hx _ i.mem_pairs), (i.copies.outside x hx).2.2, owningEdge_drop,
    owningEdge_detach]
  split <;> rfl

theorem definitions (i : CopyInPlace old g s ref content r) : r.1.definitions = g.definitions := by
  have hcopied : i.copied.definitions = g.definitions := by
    rw [i.copies.definitions, definitions_drop, definitions_detach]
  rw [i.eq_wired, ← hcopied]
  split
  · rw [definitions_retarget, wired, definitions_wire, definitions_putNode]
  · rfl

theorem rootId (i : CopyInPlace old g s ref content r) : r.1.rootId = g.rootId := by
  have hcopied : i.copied.rootId = g.rootId := by
    rw [i.copies.rootId, rootId_drop, rootId_detach]
  rw [i.eq_wired, ← hcopied]
  split
  · rw [rootId_retarget, wired, rootId_wire, rootId_putNode]
  · rfl

/-- What is there in the end was there before, or is named by the supply. -/
theorem supplied (i : CopyInPlace old g s ref content r) (hsup : Supplied g s) :
    Supplied r.1 r.2 := by
  refine hsup.step i.used_le fun x hx => ?_
  rcases Copied.name_or_outside i.pairs x with ⟨q, hq, rfl⟩ | hout
  · obtain ⟨k, _, hle, heq⟩ := i.named q hq
    exact Or.inr ⟨k, hle, heq⟩
  · rw [i.kind?_outside hout] at hx
    split_ifs at hx
    · simp at hx
    · exact Or.inl hx

/-- The copy hangs where the reference did, which is below no copy. -/
theorem sound (i : CopyInPlace old g s ref content r) (hs : Sound g) (hold : Sound old)
    (hsup : Supplied g s) (hk : g.kind? ref = some .reference)
    (hcontent : (old.owningEdge content).isSome) : Sound r.1 := by
  have hfreed : Sound ((g.detach ref).drop ref) := hs.takeOut hk
  have hnone := i.copies.top _ i.mem_pairs rfl
  obtain ⟨parent, hparent⟩ := Option.isSome_iff_exists.1 (hs.present i.owner).2
  have hout : ∀ p ∈ i.pairs, p.2 ≠ i.edge.source := i.ne_of_present hsup (hs.present i.owner).2
  obtain ⟨m, hm⟩ := Option.isSome_iff_exists.1
    (hold.present (Option.isSome_iff_exists.1 hcontent).choose_spec).1
  have hkind : m.kind ≠ .definition := fun heq => by
    rw [hold.definition_top hm heq] at hcontent
    simp at hcontent
  have hput := (i.copies.sound hold hfreed hcontent i.mem_pairs).putNode
    (m := standIn i.top i.node) i.top_eq rfl
  have hwired : Sound i.wired := by
    have hfits : isContainer parent.kind i.edge.kind = true := hs.fits i.owner hparent
    refine SoundBut.tie (e := ⟨i.edge.source, i.copyId, i.edge.kind⟩) (c := m.kind)
      (p := parent.kind) hput i.placed hnone ?_ ?_ hkind ?_ hfits ?_
    · obtain ⟨root, hroot, _⟩ := hs.root
      rw [rootId_putNode, i.copies.rootId, rootId_drop, rootId_detach]
      exact i.ne_of_present hsup (by rw [hroot]; rfl) _ i.mem_pairs
    · rw [i.kind?_putNode, i.copies.kind? i.mem_pairs, old.kind?_of_node? hm]
    · rw [i.kind?_putNode, ← i.kind?, i.kind?_outside hout, if_neg (hs.toForest.parent_ne i.owner).symm,
        g.kind?_of_node? hparent]
    · intro hb
      have hb' : Below i.copied i.copyId i.edge.source := Below.congr
        (fun x => (owningEdge_putNode i.copied i.copyId (standIn i.top i.node) x).symm) hb
      obtain ⟨p, hp, heq⟩ := i.copies.copy_of_below hfreed.toForest i.mem_pairs hb'
      exact hout p hp heq
  rw [i.eq_wired]
  split
  · exact hwired.retarget _ _ _
  · exact hwired

end CopyInPlace

/-- What holds while the references of a definition are inlined. `own` is the definition with its
content, and `refs` are the references still to come. -/
structure Inlining (old : Graph) (own refs : List NodeId) (g : Graph) : Prop where
  /-- The graph is sound. -/
  sound : Sound g
  /-- No edge joins the definition to what is outside of it. -/
  closed : ∀ x e, g.owningEdge x = some e → (x ∈ own ↔ e.source ∈ own)
  /-- No definition has come into the definition. -/
  kinds : ∀ x ∈ own, g.kind? x = some .definition → old.kind? x = some .definition
  /-- The definitions are the same. -/
  definitions : g.definitions = old.definitions
  /-- The root is the same. -/
  rootId : g.rootId = old.rootId
  /-- The references still to come are there. -/
  refs : ∀ ref ∈ refs, g.kind? ref = some .reference ∧ old.kind? ref = some .reference

namespace Inlining

variable {own refs : List NodeId} {ref : NodeId}

/-- The first reference goes without a copy. -/
theorem removeReference (hi : Inlining old own (ref :: refs) g) (hold : Sound old)
    (hne : ref ∉ refs) : Inlining old own refs (g.removeSubtree old ref) where
  sound := hi.sound.removeReference hold (hi.refs ref List.mem_cons_self).1
    (hi.refs ref List.mem_cons_self).2
  closed x e he := by
    rw [owningEdge_removeSubtree] at he
    split_ifs at he
    exact hi.closed x e he
  kinds x hx hk := by
    rw [kind?_removeSubtree] at hk
    split_ifs at hk
    exact hi.kinds x hx hk
  definitions := by rw [definitions_removeSubtree, hi.definitions]
  rootId := by rw [rootId_removeSubtree, hi.rootId]
  refs r hr := by
    have hnot : r ∉ old.subtreeIds ref := by
      rw [hold.mem_subtreeIds_of_reference (hi.refs ref List.mem_cons_self).2]
      exact fun h => hne (h ▸ hr)
    rw [kind?_removeSubtree, if_neg hnot]
    exact hi.refs r (List.mem_cons_of_mem _ hr)

/-- The first reference gives way to a copy of the content. -/
theorem copyInPlace (hi : Inlining old own (ref :: refs) g) (hold : Sound old)
    (hsup : Supplied g s) (hsupOld : Supplied old s) (hown : ∀ x ∈ own, (old.node? x).isSome)
    (hout : ref ∉ own) (hne : ref ∉ refs) {content : NodeId}
    (hcontent : (old.owningEdge content).isSome) {r : Graph × IdSupply}
    (i : CopyInPlace old g s ref content r) : Inlining old own refs r.1 := by
  have hnotOwn : ∀ p ∈ i.pairs, p.2 ∉ own := fun p hp hmem =>
    i.ne_of_present hsupOld (hown _ hmem) p hp rfl
  exact
    { sound := i.sound hi.sound hold hsup (hi.refs ref List.mem_cons_self).1 hcontent
      closed := fun x f hf => by
        by_cases hx : i.copyId = x
        · -- the copy is outside of the definition, as the reference was
          rw [i.owningEdge, if_pos hx] at hf
          obtain rfl := Option.some.inj hf
          have hsource : i.edge.source ∉ own :=
            fun hin => hout ((hi.closed ref i.edge i.owner).2 hin)
          subst hx
          simp [hsource, hnotOwn _ i.mem_pairs]
        · rcases Copied.name_or_outside i.pairs x with ⟨q, hq, rfl⟩ | hxout
          · rw [i.owningEdge, if_neg hx] at hf
            obtain ⟨_, p, hp, _, _, rfl⟩ := i.copies.of_owningEdge hq hf
            simp [hnotOwn q hq, hnotOwn p hp]
          · rw [i.owningEdge_outside hxout] at hf
            split_ifs at hf
            exact hi.closed x f hf
      kinds := fun x hx hk => by
        rw [i.kind?_outside fun p hp heq => hnotOwn p hp (heq ▸ hx)] at hk
        split_ifs at hk
        exact hi.kinds x hx hk
      definitions := i.definitions.trans hi.definitions
      rootId := i.rootId.trans hi.rootId
      refs := fun x hx => by
        obtain ⟨hk, hk'⟩ := hi.refs x (List.mem_cons_of_mem _ hx)
        have hne' : ref ≠ x := fun heq => hne (heq ▸ hx)
        refine ⟨?_, hk'⟩
        rw [i.kind?_outside (i.ne_of_present hsup (by rw [← isSome_kind?, hk]; rfl)), if_neg hne',
          hk] }

/-- The first reference is inlined, or goes. -/
theorem inlineReference (hi : Inlining old own (ref :: refs) g) (hold : Sound old)
    (hsup : Supplied g s) (hsupOld : Supplied old s) (hown : ∀ x ∈ own, (old.node? x).isSome)
    (hout : ref ∉ own) (hne : ref ∉ refs) {content : Option NodeId}
    (hcontent : ∀ c, content = some c → (old.owningEdge c).isSome) {r : Graph × IdSupply}
    (h : (g.inlineReference old ref content).run s = .ok r) :
    Inlining old own refs r.1 ∧ Supplied r.1 r.2 ∧ s.used ≤ r.2.used := by
  have hk := (hi.refs ref List.mem_cons_self).1
  rcases hi.sound.inPlace_of_inlineReference hold hsup hk h with ⟨_, rfl⟩ | ⟨c, hc, ⟨i⟩⟩
  · refine ⟨hi.removeReference hold hne, hsup.mono fun x hx => ?_, Nat.le_refl _⟩
    rw [kind?_removeSubtree] at hx
    split_ifs at hx
    · simp at hx
    · exact hx
  · exact ⟨hi.copyInPlace hold hsup hsupOld hown hout hne (hcontent c hc) i, i.supplied hsup,
      i.used_le⟩

/-- What holds before any reference is inlined, and is kept each time one is, holds after all of
them. What holds may depend on the references still to come. -/
theorem keeps {P : List NodeId → Graph → Prop} (hold : Sound old)
    (hown : ∀ x ∈ own, (old.node? x).isSome) {content : Option NodeId}
    (hcontent : ∀ c, content = some c → (old.owningEdge c).isSome)
    (hstep : ∀ {g : Graph} {s : IdSupply} {ref : NodeId} {refs : List NodeId}
      {r : Graph × IdSupply}, ref ∉ refs → Inlining old own (ref :: refs) g → Supplied g s →
      P (ref :: refs) g → (g.inlineReference old ref content).run s = .ok r → P refs r.1)
    (refs : List NodeId) (hn : refs.Nodup) (hout : ∀ ref ∈ refs, ref ∉ own)
    {r : Graph × IdSupply} :
    ∀ {g : Graph} {s : IdSupply}, P refs g → Inlining old own refs g → Supplied g s →
      Supplied old s →
      (refs.foldlM (fun (h : Graph) ref => h.inlineReference old ref content) g : Edit Graph).run s =
        .ok r → P [] r.1 ∧ Inlining old own [] r.1 ∧ Supplied r.1 r.2 := by
  induction refs with
  | nil =>
    intro g s hp hi hsup _ h
    rw [List.foldlM_nil, Edit.pure_eq_ok_iff] at h
    subst h
    exact ⟨hp, hi, hsup⟩
  | cons ref refs ih =>
    intro g s hp hi hsup hsupOld h
    rw [List.nodup_cons] at hn
    rw [List.foldlM_cons, Edit.bind_eq_ok_iff] at h
    obtain ⟨g₁, s₁, h₁, h⟩ := h
    obtain ⟨hi₁, hsup₁, hle⟩ := hi.inlineReference hold hsup hsupOld hown
      (hout ref List.mem_cons_self) hn.1 hcontent h₁
    exact ih hn.2 (fun x hx => hout x (List.mem_cons_of_mem _ hx)) (hstep hn.1 hi hsup hp h₁) hi₁
      hsup₁ (hsupOld.step hle fun x hx => Or.inl hx) h

/-- All references are inlined, one after another. -/
theorem inlineAll (hold : Sound old) (hown : ∀ x ∈ own, (old.node? x).isSome)
    {content : Option NodeId} (hcontent : ∀ c, content = some c → (old.owningEdge c).isSome)
    (refs : List NodeId) (hn : refs.Nodup) (hout : ∀ ref ∈ refs, ref ∉ own)
    {r : Graph × IdSupply} {g : Graph} {s : IdSupply} (hi : Inlining old own refs g)
    (hsup : Supplied g s) (hsupOld : Supplied old s)
    (h : (refs.foldlM (fun (h : Graph) ref => h.inlineReference old ref content) g :
      Edit Graph).run s = .ok r) : Inlining old own [] r.1 ∧ Supplied r.1 r.2 :=
  (keeps (P := fun _ _ => True) hold hown hcontent (fun _ _ _ _ _ => trivial) refs hn hout trivial hi
    hsup hsupOld h).2

end Inlining

end Graph

end FormGraph

import FormGraph.Proofs.Ownership.Edit

/-!
# Renaming and removing keep a graph sound

Whole subtrees are forgotten by their extent in the graph from before the edit, while the graph that
they are taken from changes under way. What is needed of the two is that the later one holds nothing
but parts of the earlier one (`Within`).
-/

namespace FormGraph

namespace Graph

variable {g g' old : Graph} {loose : NodeId → Prop} {s : IdSupply}

theorem kind?_of_mem_referencesTo {name : String} {ref : NodeId} (h : ref ∈ g.referencesTo name) :
    g.kind? ref = some .reference := by
  unfold referencesTo at h
  obtain ⟨⟨id, n⟩, hmem, rfl⟩ := List.mem_map.1 h
  obtain ⟨hentry, htarget⟩ := List.mem_filter.1 hmem
  have hn : g.node? id = some n := Table.mem_entries_iff.1 hentry
  rw [g.kind?_of_node? hn]
  simp only [decide_eq_true_eq] at htarget
  unfold Node.target? at htarget
  cases hb : n.body <;> simp [hb] at htarget
  simp [Node.kind, hb, Body.kind]

namespace SoundBut

/-! ## Renaming a definition -/

section Rename

variable {id : NodeId} {oldName newName : String} {n w : Node NodeId}

/-- The table tells the definitions apart by their names when one of them has got a new one. -/
theorem defined_rename (hs : SoundBut loose g) (hfind : g.definitions.find? oldName = some id)
    (hfree : g.definitions.find? newName = none) (hw : w.definitionName? = some (.str newName))
    {name : String} {x : NodeId} :
    (((g.putNode id w).undefine oldName).define newName id).definitions.find? name = some x ↔
      ∃ m, (((g.putNode id w).undefine oldName).define newName id).node? x = some m ∧
        m.definitionName? = some (.str name) := by
  rw [find?_define, find?_undefine, definitions_putNode, node?_define, node?_undefine, node?_putNode]
  by_cases hx : id = x
  · -- the renamed definition has the new name, and no other
    subst hx
    rw [if_pos rfl]
    constructor
    · intro h
      by_cases hnew : newName = name
      · exact ⟨w, rfl, hnew ▸ hw⟩
      rw [if_neg hnew] at h
      by_cases hold : oldName = name
      · simp [hold] at h
      rw [if_neg hold] at h
      obtain ⟨m, hm, hname⟩ := hs.defined.1 h
      obtain ⟨d, hd, hdname⟩ := hs.defined.1 hfind
      obtain rfl := Option.some.inj (hm.symm.trans hd)
      exact absurd (Value.str.inj (Option.some.inj (hdname.symm.trans hname))) hold
    · rintro ⟨m, hm, hname⟩
      obtain rfl := Option.some.inj hm
      rw [hw] at hname
      rw [if_pos (Value.str.inj (Option.some.inj hname))]
  · rw [if_neg hx]
    constructor
    · intro h
      by_cases hnew : newName = name
      · rw [if_pos hnew] at h
        exact absurd (Option.some.inj h) hx
      · rw [if_neg hnew] at h
        split_ifs at h
        exact hs.defined.1 h
    · intro h
      have hfound := hs.defined.2 h
      rw [if_neg, if_neg, hfound]
      · rintro rfl
        rw [hfind] at hfound
        exact hx (Option.some.inj hfound)
      · rintro rfl
        rw [hfree] at hfound
        simp at hfound

/-- A definition that changes its name. -/
theorem rename (hs : SoundBut loose g) (hfind : g.definitions.find? oldName = some id)
    (hfree : g.definitions.find? newName = none) (hn : g.node? id = some n)
    (hw : w.definitionName? = some (.str newName)) :
    SoundBut loose (((g.putNode id w).undefine oldName).define newName id) := by
  obtain ⟨d, hd, hdname⟩ := hs.defined.1 hfind
  rw [hn] at hd
  obtain rfl := Option.some.inj hd
  have hkind : n.kind = .definition := Node.kind_eq_of_definitionName? hdname
  have hkind' : w.kind = .definition := Node.kind_eq_of_definitionName? hw
  have hkinds : ∀ x, ((g.putNode id w).kind? x) = g.kind? x := by
    intro x
    rw [kind?_putNode]
    by_cases hx : id = x
    · subst hx
      rw [if_pos rfl, g.kind?_of_node? hn, hkind, hkind']
    · rw [if_neg hx]
  have hback : ∀ {x : NodeId} {m : Node NodeId}, (g.putNode id w).node? x = some m →
      ∃ m₀, g.node? x = some m₀ ∧ m₀.kind = m.kind := by
    intro x m h
    have hx := hkinds x
    rw [kind?_of_node? _ h] at hx
    exact g.kind?_eq_some_iff.1 hx.symm
  have hforest : Forest (((g.putNode id w).undefine oldName).define newName id) :=
    hs.toForest.congr (fun _ => rfl) (fun _ => rfl) fun x h => by
      rw [node?_define, node?_undefine, ← isSome_kind?, hkinds, isSome_kind?]
      exact h
  refine { hforest with
    root := ?_
    root_top := hs.root_top
    definition_top := ?_
    held := ?_
    defined := hs.defined_rename hfind hfree hw
    named := ?_
    fits := ?_ }
  · obtain ⟨r, hr, hobj⟩ := hs.root
    refine (g.putNode id w).kind?_eq_some_iff.1 ?_
    rw [hkinds, rootId_define, rootId_undefine, rootId_putNode, g.kind?_of_node? hr, hobj]
  · intro x m hx hk
    obtain ⟨m₀, hx₀, hk₀⟩ := hback hx
    exact hs.definition_top hx₀ (hk₀.trans hk)
  · intro x m hx ho
    obtain ⟨m₀, hx₀, hk₀⟩ := hback hx
    rw [← hk₀]
    exact hs.held hx₀ ho
  · intro x m hx hk
    rw [node?_define, node?_undefine, node?_putNode] at hx
    by_cases hid : id = x
    · rw [if_pos hid] at hx
      exact ⟨newName, (Option.some.inj hx) ▸ hw⟩
    · rw [if_neg hid] at hx
      exact hs.named hx hk
  · intro x e m ho hx
    obtain ⟨m₀, hx₀, hk₀⟩ := hback hx
    rw [← hk₀]
    exact hs.fits ho hx₀

end Rename

theorem pointAt (hs : SoundBut loose g) {ref : NodeId} (hk : g.kind? ref = some .reference)
    (name : String) : SoundBut loose (g.pointAt name ref) ∧
      ∀ x, (g.pointAt name ref).kind? x = g.kind? x := by
  obtain ⟨n, hn, hkind⟩ := g.kind?_eq_some_iff.1 hk
  unfold Graph.pointAt
  simp only [hn]
  refine ⟨hs.putNode hn (Node.standing_congr hkind.symm fun hd => ?_), fun x => ?_⟩
  · rw [hkind] at hd
    simp at hd
  · rw [kind?_putNode]
    by_cases hx : ref = x
    · subst hx
      rw [if_pos rfl, hk]
      rfl
    · rw [if_neg hx]

theorem pointAll (name : String) (refs : List NodeId) :
    ∀ {g : Graph}, SoundBut loose g → (∀ ref ∈ refs, g.kind? ref = some .reference) →
      SoundBut loose (refs.foldl (fun h ref => h.pointAt name ref) g) ∧
        ∀ x, (refs.foldl (fun h ref => h.pointAt name ref) g).kind? x = g.kind? x := by
  induction refs with
  | nil => exact fun hs _ => ⟨hs, fun _ => rfl⟩
  | cons ref refs ih =>
    intro g hs hk
    obtain ⟨hpoint, hkinds⟩ := hs.pointAt (hk ref List.mem_cons_self) name
    obtain ⟨hall, hkinds'⟩ := ih hpoint fun r hr => by
      rw [hkinds]
      exact hk r (List.mem_cons_of_mem _ hr)
    exact ⟨hall, fun x => (hkinds' x).trans (hkinds x)⟩

theorem renameDefinition (hs : Sound g) {oldName newName : String}
    (h : g.renameDefinition oldName newName = .ok g') :
    Sound g' ∧ ∀ x, g'.kind? x = g.kind? x := by
  rcases renameDefinition_ok h with rfl | ⟨id, n, hfind, _, _, hfree, hn, rfl⟩
  · exact ⟨hs, fun _ => rfl⟩
  · have hdname : g.kind? id = some .definition := by
      obtain ⟨d, hd, hname⟩ := hs.defined.1 hfind
      rw [g.kind?_of_node? hd, Node.kind_eq_of_definitionName? hname]
    have hrenamed := hs.rename (w := { n with key := newName, body := .definition (.str newName) })
      hfind hfree hn rfl
    have hkinds : ∀ x, (((g.putNode id { n with
        key := newName, body := .definition (.str newName) }).undefine oldName).define newName
          id).kind? x = g.kind? x := by
      intro x
      rw [kind?_define, kind?_undefine, kind?_putNode]
      by_cases hx : id = x
      · rw [if_pos hx, ← hx, hdname]
        rfl
      · rw [if_neg hx]
    obtain ⟨hall, hkinds'⟩ := pointAll newName (g.referencesTo oldName) hrenamed fun ref href => by
      rw [hkinds]
      exact kind?_of_mem_referencesTo href
    exact ⟨hall.next, fun x => (hkinds' x).trans (hkinds x)⟩

end SoundBut

/-! ## Forgetting subtrees -/

/-- The later graph holds nothing but parts of the earlier one. -/
structure Within (old g : Graph) : Prop where
  /-- A node that is left is of the kind that it was of. -/
  kinds : ∀ {x : NodeId} {k : NodeKind}, g.kind? x = some k → old.kind? x = some k
  /-- An edge that is left was there. -/
  owners : ∀ {x : NodeId} {e : Edge}, g.owningEdge x = some e → old.owningEdge x = some e
  /-- The definitions are the same. -/
  definitions : g.definitions = old.definitions
  /-- The root is the same. -/
  rootId : g.rootId = old.rootId

namespace Within

theorem refl (g : Graph) : Within g g where
  kinds h := h
  owners h := h
  definitions := rfl
  rootId := rfl

theorem removeSubtree (hw : Within old g) (id : NodeId) : Within old (g.removeSubtree old id) where
  kinds {x k} h := by
    rw [kind?_removeSubtree] at h
    split_ifs at h
    exact hw.kinds h
  owners {x e} h := by
    rw [owningEdge_removeSubtree] at h
    split_ifs at h
    exact hw.owners h
  definitions := by rw [definitions_removeSubtree, hw.definitions]
  rootId := by rw [rootId_removeSubtree, hw.rootId]

/-- No edge joins a subtree of the earlier graph to what is outside of it. -/
theorem closed (hold : Forest old) (hw : Within old g) {top : NodeId}
    (htop : old.owningEdge top = none) :
    ∀ x e, g.owningEdge x = some e →
      (x ∈ old.subtreeIds top ↔ e.source ∈ old.subtreeIds top) := by
  intro x e he
  rw [hold.mem_subtreeIds_iff, hold.mem_subtreeIds_iff]
  refine ⟨fun hb => ?_, fun hb => .step (hw.owners he) hb⟩
  rcases below_iff.1 hb with rfl | ⟨f, hf, hup⟩
  · rw [hw.owners he] at htop
    simp at htop
  · rw [hw.owners he] at hf
    exact Option.some.inj hf ▸ hup

end Within

/-- Below a node that is neither the root nor a definition, there is neither. -/
theorem SoundBut.not_top_of_below (hs : SoundBut loose g) {id x : NodeId} (hb : Below g id x)
    (hroot : id ≠ g.rootId) (hdef : g.kind? id ≠ some .definition) :
    x ≠ g.rootId ∧ g.kind? x ≠ some .definition := by
  rcases below_iff.1 hb with rfl | ⟨e, he, _⟩
  · exact ⟨hroot, hdef⟩
  · refine ⟨fun hx => ?_, fun hk => ?_⟩
    · rw [hx, hs.root_top] at he
      simp at he
    · obtain ⟨n, hn, hkind⟩ := g.kind?_eq_some_iff.1 hk
      rw [hs.definition_top hn hkind] at he
      simp at he

namespace SoundBut

/-- A subtree is forgotten by its extent in the earlier graph. -/
theorem removeSubtree (hs : Sound g) (hold : Sound old) (hw : Within old g) {id : NodeId}
    (hroot : id ≠ old.rootId) (hdef : old.kind? id ≠ some .definition) :
    Sound (g.removeSubtree old id) := by
  have hmem : ∀ {x}, x ∈ old.subtreeIds id ↔ Below old id x := hold.toForest.mem_subtreeIds_iff
  rw [removeSubtree_eq]
  refine ((hs.freed id).dropAll ?_ ?_ ?_).mono fun x hx => hx.2 (hx.1 ▸ hmem.2 .refl)
  · intro x e he
    rw [owningEdge_freed] at he
    split_ifs at he with hid
    rw [hmem, hmem]
    refine ⟨fun hb => ?_, fun hb => .step (hw.owners he) hb⟩
    rcases below_iff.1 hb with heq | ⟨f, hf, hup⟩
    · exact absurd heq.symm hid
    · rw [hw.owners he] at hf
      exact Option.some.inj hf ▸ hup
  · rw [rootId_freed, hmem, hw.rootId]
    exact fun hb => (hold.not_top_of_below hb hroot hdef).1 rfl
  · intro x hx n hn hk
    refine (hold.not_top_of_below (hmem.1 hx) hroot hdef).2 (hw.kinds ?_)
    rw [← kind?_freed g id, kind?_of_node? _ hn, hk]

theorem removeAll (hold : Sound old) (ids : List NodeId)
    (hids : ∀ id ∈ ids, id ≠ old.rootId ∧ old.kind? id ≠ some .definition) :
    ∀ {g : Graph}, Sound g → Within old g →
      Sound (ids.foldl (fun h id => h.removeSubtree old id) g) ∧
        Within old (ids.foldl (fun h id => h.removeSubtree old id) g) := by
  induction ids with
  | nil => exact fun hs hw => ⟨hs, hw⟩
  | cons id ids ih =>
    intro g hs hw
    have hid := hids id List.mem_cons_self
    exact ih (fun x hx => hids x (List.mem_cons_of_mem _ hx))
      (hs.removeSubtree hold hw hid.1 hid.2) (hw.removeSubtree id)

/-- A definition and its content are forgotten by their extent in the earlier graph. -/
theorem dropOwn (hs : Sound g) (hold : Sound old) {name : String} {defId : NodeId}
    (hfind : old.definitions.find? name = some defId) (hdefs : g.definitions = old.definitions)
    (hroot : g.rootId = old.rootId)
    (hkinds : ∀ x ∈ old.subtreeIds defId, g.kind? x = some .definition →
      old.kind? x = some .definition)
    (hc : ∀ x e, g.owningEdge x = some e →
      (x ∈ old.subtreeIds defId ↔ e.source ∈ old.subtreeIds defId)) :
    Sound ((g.dropAll (old.subtreeIds defId)).undefine name) := by
  have hmem : ∀ {x}, x ∈ old.subtreeIds defId ↔ Below old defId x :=
    hold.toForest.mem_subtreeIds_iff
  obtain ⟨d, hd, hdname⟩ := hold.defined.1 hfind
  have hdk : d.kind = .definition := Node.kind_eq_of_definitionName? hdname
  have htop : ∀ x, Below old defId x → old.owningEdge x = none → x = defId := by
    intro x hb ho
    rcases below_iff.1 hb with h | ⟨e, he, _⟩
    · exact h
    · rw [ho] at he
      simp at he
  refine (hs.dropDefinition hc ?_ (hdefs ▸ hfind) (hmem.2 .refl) ?_).mono
    fun x hx => hx.1
  · rw [hroot, hmem]
    intro hb
    have heq := htop _ hb hold.root_top
    rw [← heq] at hd
    rw [hold.root_kind hd] at hdk
    simp at hdk
  · intro x hx n hn hk
    obtain ⟨m, hm, hmk⟩ := old.kind?_eq_some_iff.1
      (hkinds x hx (by rw [g.kind?_of_node? hn, hk]))
    exact htop x (hmem.1 hx) (hold.definition_top hm hmk)

end SoundBut

end Graph

end FormGraph

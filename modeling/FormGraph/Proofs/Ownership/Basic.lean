import FormGraph.Proofs.Forest.Walk
import FormGraph.Proofs.Inversion

/-!
# Sound graphs

A graph is sound when its edges form a forest whose tops are the root and the definitions, every
edge leaves a node that can hold something over it, and the table of definitions lists exactly the
definition nodes, each under its own name.

In the middle of an edit a node may hang nowhere for a while. `SoundBut loose` allows that of the
nodes in `loose`; a step of an edit makes a node loose or ties it up again, and an edit that begins
and ends without loose nodes keeps the graph sound. What a node says enters only through its
`standing`: its kind, and the name it gives a definition.
-/

namespace FormGraph

namespace Node

variable {ρ : Type}

/-- The name that the node gives a definition. -/
def definitionName? (n : Node ρ) : Option Value :=
  match n.body with
  | .definition name => some name
  | _ => none

/-- What the place of a node depends on: its kind, and the name that it gives a definition. -/
def standing (n : Node ρ) : NodeKind × Option Value := (n.kind, n.definitionName?)

theorem definitionName?_eq_some_iff {n : Node ρ} {v : Value} :
    n.definitionName? = some v ↔ n.body = .definition v := by
  unfold definitionName?
  cases n.body <;> simp

theorem kind_eq_of_definitionName? {n : Node ρ} {v : Value} (h : n.definitionName? = some v) :
    n.kind = .definition := by
  rw [kind, definitionName?_eq_some_iff.1 h]
  rfl

theorem definitionName?_eq_none {n : Node ρ} (h : n.kind ≠ .definition) :
    n.definitionName? = none := by
  cases hd : n.definitionName? with
  | none => rfl
  | some v => exact absurd (kind_eq_of_definitionName? hd) h

@[simp] theorem standing_setClauses (n : Node ρ) (cs : List (Clause ρ)) :
    (n.setClauses cs).standing = n.standing := by
  obtain ⟨_, body, _, _, _, _, _, _, _⟩ := n
  cases body <;> rfl

/-- Nodes of one kind stand alike, unless they are definitions. -/
theorem standing_congr {m n : Node ρ} (hk : m.kind = n.kind)
    (hb : n.kind = .definition → m.body = n.body) : m.standing = n.standing := by
  by_cases hd : n.kind = .definition
  · rw [standing, standing, hk, definitionName?, definitionName?, hb hd]
  · rw [standing, standing, definitionName?_eq_none hd, definitionName?_eq_none (hk ▸ hd), hk]

end Node

namespace Graph

/-- A sound graph, but for nodes that hang nowhere. -/
structure SoundBut (loose : NodeId → Prop) (g : Graph) : Prop extends Forest g where
  /-- The root is an object. -/
  root : ∃ n, g.node? g.rootId = some n ∧ n.kind = .object
  /-- Nothing owns the root. -/
  root_top : g.owningEdge g.rootId = none
  /-- Nothing owns a definition. -/
  definition_top : ∀ {id : NodeId} {n : Node NodeId}, g.node? id = some n →
    n.kind = .definition → g.owningEdge id = none
  /-- Everything else has an owner, unless it is loose. -/
  held : ∀ {id : NodeId} {n : Node NodeId}, g.node? id = some n → g.owningEdge id = none →
    id = g.rootId ∨ n.kind = .definition ∨ loose id
  /-- The table of definitions lists the nodes that give a name. -/
  defined : ∀ {name : String} {id : NodeId}, g.definitions.find? name = some id ↔
    ∃ n, g.node? id = some n ∧ n.definitionName? = some (.str name)
  /-- The name of a definition is a text. -/
  named : ∀ {id : NodeId} {n : Node NodeId}, g.node? id = some n → n.kind = .definition →
    ∃ name, n.definitionName? = some (.str name)
  /-- An edge leaves a node that can hold something over it. -/
  fits : ∀ {id : NodeId} {e : Edge} {n : Node NodeId}, g.owningEdge id = some e →
    g.node? e.source = some n → isContainer n.kind e.kind = true

/-- A sound graph: no node hangs nowhere. -/
abbrev Sound (g : Graph) : Prop := SoundBut (fun _ => False) g

variable {g g' : Graph} {loose : NodeId → Prop}

namespace SoundBut

theorem mono {more : NodeId → Prop} (hs : SoundBut loose g) (h : ∀ x, loose x → more x) :
    SoundBut more g :=
  { hs with
    held := fun hn ho => by
      rcases hs.held hn ho with h₁ | h₂ | h₃
      · exact Or.inl h₁
      · exact Or.inr (Or.inl h₂)
      · exact Or.inr (Or.inr (h _ h₃)) }

/-- A node of a sound graph without an owner is the root or a definition. -/
theorem top_of_sound (hs : Sound g) {id : NodeId} {n : Node NodeId} (hn : g.node? id = some n)
    (ho : g.owningEdge id = none) : id = g.rootId ∨ n.kind = .definition := by
  rcases hs.held hn ho with h | h | h
  · exact Or.inl h
  · exact Or.inr h
  · exact h.elim

theorem root_kind (hs : SoundBut loose g) {n : Node NodeId} (hn : g.node? g.rootId = some n) :
    n.kind = .object := by
  obtain ⟨m, hm, hk⟩ := hs.root
  rw [hn] at hm
  rw [Option.some.inj hm, hk]

/-- Nothing hangs below a leaf. -/
theorem edgesFrom_leaf (hs : SoundBut loose g) {id : NodeId} {n : Node NodeId}
    (hn : g.node? id = some n) (hl : n.kind.isLeaf = true) : g.edgesFrom id = [] := by
  rw [List.eq_nil_iff_forall_not_mem]
  intro e he
  have hfits := hs.fits (hs.owned he) (by rw [hs.source_eq he, hn])
  rw [isContainer_eq_false_of_isLeaf e.kind hl] at hfits
  simp at hfits

/-! ## Steps that keep every node's standing -/

theorem congr (hs : SoundBut loose g) (he : ∀ x, g'.edgesFrom x = g.edgesFrom x)
    (ho : ∀ x, g'.owningEdge x = g.owningEdge x)
    (hn : ∀ x, (g'.node? x).map Node.standing = (g.node? x).map Node.standing)
    (hd : g'.definitions = g.definitions) (hr : g'.rootId = g.rootId) : SoundBut loose g' := by
  have hback : ∀ {x : NodeId} {n' : Node NodeId}, g'.node? x = some n' →
      ∃ n, g.node? x = some n ∧ n'.kind = n.kind ∧ n'.definitionName? = n.definitionName? := by
    intro x n' h
    have hx := hn x
    rw [h, Option.map_some] at hx
    obtain ⟨n, hnode, hst⟩ := Option.map_eq_some_iff.1 hx.symm
    exact ⟨n, hnode, (congrArg Prod.fst hst).symm, (congrArg Prod.snd hst).symm⟩
  have hforth : ∀ {x : NodeId} {n : Node NodeId}, g.node? x = some n →
      ∃ n', g'.node? x = some n' ∧ n'.kind = n.kind ∧ n'.definitionName? = n.definitionName? := by
    intro x n h
    have hx := hn x
    rw [h, Option.map_some] at hx
    obtain ⟨n', hnode, hst⟩ := Option.map_eq_some_iff.1 hx
    exact ⟨n', hnode, congrArg Prod.fst hst, congrArg Prod.snd hst⟩
  have hforest : Forest g' := hs.toForest.congr he ho fun x h => by
    obtain ⟨n, hx⟩ := Option.isSome_iff_exists.1 h
    obtain ⟨n', hn', _⟩ := hforth hx
    simp [hn']
  refine { hforest with
    root := ?_
    root_top := ?_
    definition_top := ?_
    held := ?_
    defined := ?_
    named := ?_
    fits := ?_ }
  · obtain ⟨n, hroot, hk⟩ := hs.root
    obtain ⟨n', hroot', hk', _⟩ := hforth hroot
    exact ⟨n', hr ▸ hroot', hk'.trans hk⟩
  · rw [ho, hr]
    exact hs.root_top
  · intro x n' h hk
    obtain ⟨n, hx, hkind, _⟩ := hback h
    rw [ho]
    exact hs.definition_top hx (hkind ▸ hk)
  · intro x n' h hown
    obtain ⟨n, hx, hkind, _⟩ := hback h
    rw [ho] at hown
    rw [hr, hkind]
    exact hs.held hx hown
  · intro name x
    rw [hd, hs.defined]
    constructor
    · rintro ⟨n, hx, hname⟩
      obtain ⟨n', hx', _, hname'⟩ := hforth hx
      exact ⟨n', hx', hname'.trans hname⟩
    · rintro ⟨n', hx', hname⟩
      obtain ⟨n, hx, _, hname'⟩ := hback hx'
      exact ⟨n, hx, hname'.symm.trans hname⟩
  · intro x n' h hk
    obtain ⟨n, hx, hkind, hname'⟩ := hback h
    obtain ⟨name, hname⟩ := hs.named hx (hkind ▸ hk)
    exact ⟨name, hname'.trans hname⟩
  · intro x e n' hown hsrc
    obtain ⟨n, hx, hkind, _⟩ := hback hsrc
    rw [ho] at hown
    rw [hkind]
    exact hs.fits hown hx

theorem putNode (hs : SoundBut loose g) {id : NodeId} {n m : Node NodeId}
    (hn : g.node? id = some n) (hst : m.standing = n.standing) :
    SoundBut loose (g.putNode id m) := by
  refine hs.congr (fun x => rfl) (fun x => rfl) (fun x => ?_) rfl rfl
  rw [node?_putNode]
  by_cases hx : id = x
  · subst hx
    rw [if_pos rfl, hn, Option.map_some, Option.map_some, hst]
  · rw [if_neg hx]

theorem next (hs : SoundBut loose g) : SoundBut loose g.next :=
  hs.congr (fun _ => rfl) (fun _ => rfl) (fun _ => rfl) rfl rfl

theorem retarget (hs : SoundBut loose g) (groupId old : NodeId) (new : Option NodeId) :
    SoundBut loose (g.retarget groupId old new) := by
  refine hs.congr (fun x => edgesFrom_retarget g groupId old new x)
    (fun x => owningEdge_retarget g groupId old new x) (fun x => ?_)
    (definitions_retarget g groupId old new) (rootId_retarget g groupId old new)
  rw [node?_retarget]
  by_cases hx : groupId = x
  · rw [if_pos hx, Option.map_map]
    congr 1
    funext n
    exact Node.standing_setClauses n _
  · rw [if_neg hx]

theorem releaseBranch (hs : SoundBut loose g) (e : Option Edge) :
    SoundBut loose (g.releaseBranch e) := by
  cases e with
  | none => exact hs
  | some e =>
    unfold Graph.releaseBranch
    dsimp only
    split
    · exact hs.retarget e.source e.target none
    · exact hs

/-! ## Steps that change where nodes hang -/

theorem setEdges_perm (hs : SoundBut loose g) {id : NodeId} {es : List Edge}
    (hp : es.Perm (g.edgesFrom id)) : SoundBut loose (g.setEdges id es) :=
  { hs with
    toForest := hs.toForest.setEdges_perm hp }

/-- A node that is taken off becomes loose. -/
theorem detach (hs : SoundBut loose g) (t : NodeId) :
    SoundBut (fun x => loose x ∨ x = t) (g.detach t) := by
  have hown : ∀ {x : NodeId} {e : Edge}, (g.detach t).owningEdge x = some e →
      g.owningEdge x = some e := by
    intro x e h
    rw [owningEdge_detach] at h
    split_ifs at h
    exact h
  have htop : ∀ {x : NodeId}, g.owningEdge x = none → (g.detach t).owningEdge x = none := by
    intro x h
    rw [owningEdge_detach, h]
    split <;> rfl
  refine { hs.toForest.detach t with
    root := ?_
    root_top := ?_
    definition_top := ?_
    held := ?_
    defined := ?_
    named := ?_
    fits := ?_ }
  · simpa using hs.root
  · rw [rootId_detach]
    exact htop hs.root_top
  · intro x n hx hk
    rw [node?_detach] at hx
    exact htop (hs.definition_top hx hk)
  · intro x n hx ho
    rw [node?_detach] at hx
    rw [rootId_detach]
    by_cases ht : x = t
    · exact Or.inr (Or.inr (Or.inr ht))
    · rw [owningEdge_detach, if_neg (Ne.symm ht)] at ho
      rcases hs.held hx ho with h | h | h
      · exact Or.inl h
      · exact Or.inr (Or.inl h)
      · exact Or.inr (Or.inr (Or.inl h))
  · intro name x
    rw [definitions_detach, node?_detach]
    exact hs.defined
  · intro x n hx hk
    rw [node?_detach] at hx
    exact hs.named hx hk
  · intro x e n ho hx
    rw [node?_detach] at hx
    exact hs.fits (hown ho) hx

/-- No definition has the name of a node that is not there. -/
theorem find?_ne_of_absent (hs : SoundBut loose g) {id : NodeId} (hfree : g.node? id = none)
    (name : String) : g.definitions.find? name ≠ some id := by
  intro h
  obtain ⟨n, hn, _⟩ := hs.defined.1 h
  rw [hfree] at hn
  simp at hn

/-- A new node hangs nowhere yet, and the table of definitions lists it if it gives a name. -/
theorem enlarge (hs : SoundBut loose g) {id : NodeId} {n : Node NodeId} (hfree : g.node? id = none)
    (hnode : ∀ x, g'.node? x = if id = x then some n else g.node? x)
    (hedges : ∀ x, g'.edgesFrom x = g.edgesFrom x)
    (howner : ∀ x, g'.owningEdge x = g.owningEdge x) (hroot : g'.rootId = g.rootId)
    (hdefined : ∀ name x, g'.definitions.find? name = some x ↔
      if id = x then n.definitionName? = some (.str name) else g.definitions.find? name = some x)
    (hnamed : n.kind = .definition → ∃ name, n.definitionName? = some (.str name)) :
    SoundBut (fun x => loose x ∨ x = id ∧ n.kind ≠ .definition) g' := by
  have hback : ∀ {x : NodeId} {m : Node NodeId}, g'.node? x = some m →
      (x = id ∧ m = n) ∨ g.node? x = some m := by
    intro x m h
    rw [hnode] at h
    split_ifs at h with hx
    · exact Or.inl ⟨hx.symm, (Option.some.inj h).symm⟩
    · exact Or.inr h
  have hkeep : ∀ {x : NodeId} {m : Node NodeId}, g.node? x = some m → g'.node? x = some m := by
    intro x m h
    rw [hnode, if_neg, h]
    rintro rfl
    rw [hfree] at h
    simp at h
  have hforest : Forest g' := hs.toForest.congr hedges howner fun x h => by
    obtain ⟨m, hm⟩ := Option.isSome_iff_exists.1 h
    simp [hkeep hm]
  refine { hforest with
    root := ?_
    root_top := ?_
    definition_top := ?_
    held := ?_
    defined := ?_
    named := ?_
    fits := ?_ }
  · obtain ⟨m, hm, hobj⟩ := hs.root
    exact ⟨m, hroot ▸ hkeep hm, hobj⟩
  · rw [howner, hroot, hs.root_top]
  · intro x m hx hdef
    rw [howner]
    rcases hback hx with ⟨rfl, _⟩ | hx
    · exact hs.toForest.owningEdge_eq_none hfree
    · exact hs.definition_top hx hdef
  · intro x m hx ho
    rw [howner] at ho
    rw [hroot]
    rcases hback hx with ⟨rfl, rfl⟩ | hx
    · by_cases hdef : m.kind = .definition
      · exact Or.inr (Or.inl hdef)
      · exact Or.inr (Or.inr (Or.inr ⟨rfl, hdef⟩))
    · rcases hs.held hx ho with h | h | h
      · exact Or.inl h
      · exact Or.inr (Or.inl h)
      · exact Or.inr (Or.inr (Or.inl h))
  · intro name x
    rw [hdefined, hnode]
    split_ifs with hx
    · simp
    · exact hs.defined
  · intro x m hx hdef
    rcases hback hx with ⟨_, rfl⟩ | hx
    · exact hnamed hdef
    · exact hs.named hx hdef
  · intro x e m ho hx
    rw [howner] at ho
    rcases hback hx with ⟨hsource, _⟩ | hx
    · have hp := (hs.present ho).2
      rw [hsource, hfree] at hp
      simp at hp
    · exact hs.fits ho hx

/-- A new node is loose. -/
theorem putFresh (hs : SoundBut loose g) {id : NodeId} {n : Node NodeId} (hfree : g.node? id = none)
    (hk : n.kind ≠ .definition) : SoundBut (fun x => loose x ∨ x = id) (g.putNode id n) := by
  refine (hs.enlarge hfree (node?_putNode g id n) (fun _ => rfl) (fun _ => rfl) rfl
    (fun name x => ?_) fun hdef => absurd hdef hk).mono fun x hx => hx.imp_right And.left
  rw [definitions_putNode]
  split_ifs with hx
  · subst hx
    exact iff_of_false (hs.find?_ne_of_absent hfree name)
      fun h => hk (Node.kind_eq_of_definitionName? h)
  · exact Iff.rfl

/-- A node that is hung below another is loose no more. -/
theorem wire (hs : SoundBut loose g) {e : Edge} {es front back : List Edge}
    {childKind parentKind : NodeKind} (hsplit : g.edgesFrom e.source = front ++ back)
    (hes : es = front ++ e :: back) (hfree : g.owningEdge e.target = none)
    (hroot : e.target ≠ g.rootId) (hck : g.kind? e.target = some childKind)
    (hk : childKind ≠ .definition) (hpk : g.kind? e.source = some parentKind)
    (hfits : isContainer parentKind e.kind = true) (hb : ¬ Below g e.target e.source) :
    SoundBut (fun x => loose x ∧ x ≠ e.target) (g.wire e es) := by
  obtain ⟨child, hc, rfl⟩ := g.kind?_eq_some_iff.1 hck
  obtain ⟨parent, hp, rfl⟩ := g.kind?_eq_some_iff.1 hpk
  refine { hs.toForest.wire hsplit hes hfree (by simp [hp]) (by simp [hc]) hb with
    root := hs.root
    root_top := ?_
    definition_top := ?_
    held := ?_
    defined := hs.defined
    named := hs.named
    fits := ?_ }
  · rw [owningEdge_wire, rootId_wire, if_neg hroot]
    exact hs.root_top
  · intro x n hx hdef
    rw [node?_wire] at hx
    rw [owningEdge_wire, if_neg]
    · exact hs.definition_top hx hdef
    · rintro rfl
      rw [hc] at hx
      exact hk (Option.some.inj hx ▸ hdef)
  · intro x n hx ho
    rw [node?_wire] at hx
    rw [owningEdge_wire] at ho
    by_cases ht : e.target = x
    · simp [ht] at ho
    · rw [if_neg ht] at ho
      rcases hs.held hx ho with h | h | h
      · exact Or.inl h
      · exact Or.inr (Or.inl h)
      · exact Or.inr (Or.inr ⟨h, Ne.symm ht⟩)
  · intro x f n ho hx
    rw [node?_wire] at hx
    rw [owningEdge_wire] at ho
    by_cases ht : e.target = x
    · rw [if_pos ht] at ho
      obtain rfl := Option.some.inj ho
      rw [hp] at hx
      rw [← Option.some.inj hx]
      exact hfits
    · rw [if_neg ht] at ho
      exact hs.fits ho hx

/-! ## Definitions -/

/-- A new definition node hangs nowhere, and gives its name to itself. -/
theorem define (hs : SoundBut loose g) {id : NodeId} {name : String} (hfree : g.node? id = none)
    (hname : g.definitions.find? name = none) :
    SoundBut loose ((g.putNode id (Node.ofDefinition name)).define name id) := by
  have hgiven : (Node.ofDefinition name : Node NodeId).definitionName? = some (.str name) := rfl
  refine mono (g := (g.putNode id (Node.ofDefinition name)).define name id)
    (hs.enlarge hfree (node?_putNode g id (Node.ofDefinition name)) (fun _ => rfl) (fun _ => rfl)
      rfl (fun other x => ?_) fun _ => ⟨name, hgiven⟩)
    fun x hx => hx.elim (fun h => h) fun h => absurd rfl h.2
  rw [find?_define, definitions_putNode, hgiven]
  by_cases ho : name = other
  · subst ho
    rw [if_pos rfl, hname]
    split_ifs with hx <;> simp [hx]
  · have hne : (some (Value.str name) : Option Value) ≠ some (.str other) := fun h =>
      ho (Value.str.inj (Option.some.inj h))
    rw [if_neg ho]
    split_ifs with hx
    · subst hx
      exact iff_of_false (hs.find?_ne_of_absent hfree other) hne
    · exact Iff.rfl

/-! ## Forgetting nodes -/

/-- Nodes are forgotten that no edge joins to the others, with the definitions among them. -/
theorem forget (hs : SoundBut loose g) {ids : List NodeId} (hforest : Forest g')
    (hnode : ∀ x, g'.node? x = if x ∈ ids then none else g.node? x)
    (howner : ∀ x, g'.owningEdge x = if x ∈ ids then none else g.owningEdge x)
    (hrootId : g'.rootId = g.rootId) (hroot : g.rootId ∉ ids)
    (hdefined : ∀ name x, g'.definitions.find? name = some x ↔
      x ∉ ids ∧ g.definitions.find? name = some x) :
    SoundBut (fun x => loose x ∧ x ∉ ids) g' := by
  have hback : ∀ {x : NodeId} {n : Node NodeId}, g'.node? x = some n ↔
      x ∉ ids ∧ g.node? x = some n := by
    intro x n
    rw [hnode]
    split_ifs with hx <;> simp [hx]
  refine { hforest with
    root := ?_
    root_top := ?_
    definition_top := ?_
    held := ?_
    defined := ?_
    named := ?_
    fits := ?_ }
  · obtain ⟨n, hn, hk⟩ := hs.root
    exact ⟨n, hrootId ▸ hback.2 ⟨hroot, hn⟩, hk⟩
  · rw [hrootId, howner, if_neg hroot, hs.root_top]
  · intro x n hx hk
    obtain ⟨hnot, hx⟩ := hback.1 hx
    rw [howner, if_neg hnot]
    exact hs.definition_top hx hk
  · intro x n hx ho
    obtain ⟨hnot, hx⟩ := hback.1 hx
    rw [howner, if_neg hnot] at ho
    rw [hrootId]
    rcases hs.held hx ho with h | h | h
    · exact Or.inl h
    · exact Or.inr (Or.inl h)
    · exact Or.inr (Or.inr ⟨h, hnot⟩)
  · intro name x
    simp only [hdefined, hs.defined, hback, and_assoc, exists_and_left]
  · intro x n hx hk
    exact hs.named (hback.1 hx).2 hk
  · intro x e n ho hx
    rw [howner] at ho
    split_ifs at ho
    exact hs.fits ho (hback.1 hx).2

/-- Forgetting nodes that no edge joins to the others, and that are neither the root nor
definitions. -/
theorem dropAll (hs : SoundBut loose g) {ids : List NodeId}
    (hc : ∀ x e, g.owningEdge x = some e → (x ∈ ids ↔ e.source ∈ ids)) (hroot : g.rootId ∉ ids)
    (hdef : ∀ x ∈ ids, ∀ n, g.node? x = some n → n.kind ≠ .definition) :
    SoundBut (fun x => loose x ∧ x ∉ ids) (g.dropAll ids) := by
  refine hs.forget (hs.toForest.dropAll hc) (node?_dropAll g ids) (owningEdge_dropAll g ids)
    (rootId_dropAll g ids) hroot fun name x => ?_
  rw [definitions_dropAll]
  refine ⟨fun h => ⟨fun hmem => ?_, h⟩, And.right⟩
  obtain ⟨n, hx, hname⟩ := hs.defined.1 h
  exact hdef x hmem n hx (Node.kind_eq_of_definitionName? hname)

/-- Forgetting a definition with its content. -/
theorem dropDefinition (hs : SoundBut loose g) {ids : List NodeId} {name : String} {defId : NodeId}
    (hc : ∀ x e, g.owningEdge x = some e → (x ∈ ids ↔ e.source ∈ ids)) (hroot : g.rootId ∉ ids)
    (hfind : g.definitions.find? name = some defId) (hmem : defId ∈ ids)
    (hdef : ∀ x ∈ ids, ∀ n, g.node? x = some n → n.kind = .definition → x = defId) :
    SoundBut (fun x => loose x ∧ x ∉ ids) ((g.dropAll ids).undefine name) := by
  have hforest : Forest ((g.dropAll ids).undefine name) :=
    (hs.toForest.dropAll hc).congr (fun _ => rfl) (fun _ => rfl) fun _ h => h
  refine hs.forget hforest (node?_dropAll g ids) (owningEdge_dropAll g ids) (rootId_dropAll g ids)
    hroot fun other x => ?_
  rw [find?_undefine, definitions_dropAll]
  by_cases ho : name = other
  · subst ho
    rw [if_pos rfl, hfind]
    simp only [reduceCtorEq, Option.some.injEq, false_iff, not_and]
    rintro hnot rfl
    exact hnot hmem
  · rw [if_neg ho]
    refine ⟨fun h => ⟨fun hin => ho ?_, h⟩, And.right⟩
    obtain ⟨d, hd, hdname⟩ := hs.defined.1 hfind
    obtain ⟨n, hx, hname⟩ := hs.defined.1 h
    obtain rfl := hdef x hin n hx (Node.kind_eq_of_definitionName? hname)
    rw [hx] at hd
    obtain rfl := Option.some.inj hd
    rw [hdname] at hname
    exact Value.str.inj (Option.some.inj hname)

end SoundBut

end Graph

end FormGraph

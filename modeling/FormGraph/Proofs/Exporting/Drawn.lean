import FormGraph.Proofs.Dressing.Look
import FormGraph.Proofs.Forest.Walk
import FormGraph.Proofs.Tidy
import Mathlib.Logic.Relation

/-!
# Which tidy graphs have a UI document

The walk that makes the UI document comes to the fields of objects, to the items of arrays and to
the fields within the branches of groups (`UiSchema.Goes`). It can only fail at a field whose widget
cannot be told, so a tidy graph has a UI document exactly when the widgets of all fields that the
walk comes to can be (`Graph.uiSchema_isOk_iff`). With the standard registry that is said of a node
by `Node.Dressable`.
-/

namespace FormGraph

namespace UiSchema

open Graph

variable {g : Graph} {registry : Registry} {walk : Walk}

/-! ## Where the walk comes to -/

/-- What the walk comes to: a field, which gets an entry, or a group, whose branches are gone
through. -/
inductive Stop where
  /-- A field. -/
  | field (x : NodeId)
  /-- A group. -/
  | group (x : NodeId)

namespace Stop

/-- The node that is come to. -/
def node : Stop → NodeId
  | field x => x
  | group x => x

/-- A node that belongs to an object, by its kind. -/
def ofKind (x : NodeId) (k : NodeKind) : Stop := if k.isGroup then group x else field x

@[simp] theorem node_ofKind (x : NodeId) (k : NodeKind) : (ofKind x k).node = x := by
  unfold ofKind
  split_ifs <;> rfl

end Stop

/-- Where the walk goes over an edge to a branch: to the branch, or to what is within it. -/
inductive GoesOver (g : Graph) (e : Edge) : Stop → Prop where
  /-- To a group, or to a field that is written under its own name, -/
  | branch {k : NodeKind} (isBranch : e.kind ≠ .child) (kind : g.kind? e.target = some k)
    (named : k.isGroup = true ∨ k.isAddressable = true) : GoesOver g e (.ofKind e.target k)
  /-- and to what an object holds. -/
  | within {x : NodeId} {k : NodeKind} (isBranch : e.kind ≠ .child)
    (object : g.kind? e.target = some .object) (child : g.IsChild x e.target)
    (kind : g.kind? x = some k) : GoesOver g e (.ofKind x k)

/-- Where the walk goes on to. -/
inductive Goes (g : Graph) : Stop → Stop → Prop where
  /-- From an object to what it holds, -/
  | child {p x : NodeId} {k : NodeKind} (object : g.kind? p = some .object) (child : g.IsChild x p)
    (kind : g.kind? x = some k) : Goes g (.field p) (.ofKind x k)
  /-- from an array to its item, -/
  | item {p x : NodeId} (array : g.kind? p = some .array) (child : g.IsChild x p) :
    Goes g (.field p) (.field x)
  /-- and from a group over the edges to its branches. -/
  | branch {p : NodeId} {e : Edge} {s : Stop} (edge : e ∈ g.edgesFrom p) (onward : GoesOver g e s) :
    Goes g (.group p) s

theorem Goes.subtree_lt (hf : Forest g) {s s' : Stop} (h : Goes g s s') :
    (g.subtreeIds s'.node).length < (g.subtreeIds s.node).length := by
  cases h with
  | child _ hchild _ =>
    rw [Stop.node_ofKind]
    exact Graph.subtree_lt hf hchild rfl
  | item _ hchild => exact Graph.subtree_lt hf hchild rfl
  | @branch p e _ hedge hover =>
    have hbranch : (g.subtreeIds e.target).length < (g.subtreeIds p).length :=
      Graph.subtree_lt hf (hf.owned hedge) (hf.source_eq hedge)
    cases hover with
    | branch =>
      rw [Stop.node_ofKind]
      exact hbranch
    | within _ _ hchild _ =>
      rw [Stop.node_ofKind]
      exact Nat.lt_trans (Graph.subtree_lt hf hchild rfl) hbranch

/-! ## What the walk does at a stop -/

/-- The walk gets through at a stop just if something holds, whatever was gathered before. -/
def Walk.Settles (g : Graph) (walk : Walk) (s : Stop) (P : Prop) : Prop :=
  match s with
  | .field x => ∀ n, g.node? x = some n → ((∃ entry, walk.field x n = .ok entry) ↔ P)
  | .group x => ∀ target, (∃ entries, walk.branches x target = .ok entries) ↔ P

variable {P : Stop → Prop} {target : Members}

/-- What is added for a node of an object, where an entry is put in some way. -/
theorem isOk_added_iff {c : NodeId × Node NodeId} (hc : g.node? c.1 = some c.2)
    {put : Members → Members}
    (h : walk.Settles g (.ofKind c.1 c.2.kind) (P (.ofKind c.1 c.2.kind))) :
    (∃ entries, (if c.2.kind.isGroup then walk.branches c.1 target
      else return put (← walk.field c.1 c.2)) = Except.ok entries) ↔ P (.ofKind c.1 c.2.kind) := by
  unfold Stop.ofKind at h ⊢
  split_ifs at h ⊢
  · exact h target
  · rw [← h c.2 hc]
    exact isOk_bind_of_total fun entry => ⟨put entry, rfl⟩

/-- What is said of the children of a node with their kinds is said of those that are found. -/
theorem forall_children_iff (hf : Forest g) {x : NodeId} {cs : List (NodeId × Node NodeId)}
    (hcs : g.children x = .ok cs) {Q : NodeId → NodeKind → Prop} :
    (∀ c ∈ cs, Q c.1 c.2.kind) ↔ ∀ y k, g.IsChild y x → g.kind? y = some k → Q y k := by
  obtain ⟨hids, hnodes⟩ := children_ok hcs
  constructor
  · intro h y k hy hk
    obtain ⟨c, hc, rfl⟩ := List.mem_map.1 (hids ▸ hf.mem_childIds_iff.2 hy)
    obtain ⟨n, hn, rfl⟩ := g.kind?_eq_some_iff.1 hk
    obtain rfl := Option.some.inj ((hnodes c hc).symm.trans hn)
    exact h c hc
  · intro h c hc
    exact h c.1 c.2.kind (hf.mem_childIds_iff.1 (hids ▸ List.mem_map_of_mem hc))
      (g.kind?_eq_some_iff.2 ⟨c.2, hnodes c hc, rfl⟩)

/-- The walk gets through the children of an object when it does at each of them. -/
theorem isOk_objectEntries_iff (hf : Forest g) {x : NodeId}
    (h : ∀ y k, g.IsChild y x → g.kind? y = some k →
      walk.Settles g (.ofKind y k) (P (.ofKind y k))) :
    (∃ entries, objectEntries g walk x target = .ok entries) ↔
      ∀ y k, g.IsChild y x → g.kind? y = some k → P (.ofKind y k) := by
  obtain ⟨cs, hcs, -, hnodes⟩ := hf.children_eq x
  have hsettles := (forall_children_iff hf hcs (Q := fun y k =>
    walk.Settles g (.ofKind y k) (P (.ofKind y k)))).2 h
  have hfold : (∃ entries, cs.foldlM (childEntries walk) target = .ok entries) ↔
      ∀ c ∈ cs, P (.ofKind c.1 c.2.kind) :=
    isOk_foldlM_iff (fun c hc target => isOk_added_iff (hnodes c hc) (hsettles c hc)) target
  rw [← forall_children_iff hf hcs (Q := fun y k => P (.ofKind y k)), ← hfold]
  unfold objectEntries
  rw [hcs]
  exact isOk_bind_of_total fun entries => ⟨_, rfl⟩

/-- From an object the walk goes on to its children. -/
theorem forall_goes_object_iff {x : NodeId} (hk : g.kind? x = some .object) :
    (∀ s, Goes g (.field x) s → P s) ↔
      ∀ y k, g.IsChild y x → g.kind? y = some k → P (.ofKind y k) := by
  constructor
  · exact fun h y k hy hkind => h _ (.child hk hy hkind)
  · rintro h s hs
    cases hs with
    | child _ hchild hkind => exact h _ _ hchild hkind
    | item harray _ =>
      rw [hk] at harray
      cases harray

/-- From an array the walk goes on to its items. -/
theorem forall_goes_array_iff (hf : Forest g) {x : NodeId} (hk : g.kind? x = some .array) :
    (∀ s, Goes g (.field x) s → P s) ↔ ∀ y ∈ g.childIds x, P (.field y) := by
  constructor
  · exact fun h y hy => h _ (.item hk (hf.mem_childIds_iff.1 hy))
  · rintro h s hs
    cases hs with
    | child hobject _ _ =>
      rw [hk] at hobject
      cases hobject
    | item _ hchild => exact h _ (hf.mem_childIds_iff.2 hchild)

/-- The walk gets through at a field when the widget of the field can be told and the walk gets
through wherever it goes on to. -/
theorem isOk_field_iff (ht : g.Tidy) {x : NodeId} {n : Node NodeId} (hn : g.node? x = some n)
    (h : ∀ s, Goes g (.field x) s → walk.Settles g s (P s)) :
    (∃ entry, field g registry walk x n = .ok entry) ↔
      (∃ entry, widgetEntry registry n = .ok entry) ∧ ∀ s, Goes g (.field x) s → P s := by
  have hkind : g.kind? x = some n.kind := g.kind?_eq_some_iff.2 ⟨n, hn, rfl⟩
  unfold field
  refine isOk_bind_iff fun shown _ => ?_
  cases hbody : n.body with
  | object own =>
    have hobject : g.kind? x = some .object := hkind.trans (congrArg (some ∘ Body.kind) hbody)
    rw [forall_goes_object_iff hobject]
    exact isOk_objectEntries_iff ht.toForest fun y k hy hk => h _ (.child hobject hy hk)
  | array own =>
    have harray : n.kind = .array := congrArg Body.kind hbody
    have hsingle := ht.single hn harray
    obtain ⟨cs, hcs, hids, hnodes⟩ := ht.toForest.children_eq x
    rw [forall_goes_array_iff ht.toForest (hkind.trans (congrArg some harray)), ← hids]
    rw [← hids, List.length_map] at hsingle
    dsimp only
    rw [hcs]
    cases cs with
    | nil => exact iff_of_true ⟨_, rfl⟩ fun y hy => absurd hy List.not_mem_nil
    | cons c rest =>
      rw [List.length_cons] at hsingle
      obtain rfl : rest = [] := List.eq_nil_of_length_eq_zero (by omega)
      have hchild : g.IsChild c.1 x := ht.toForest.mem_childIds_iff.1 (hids ▸ List.mem_cons_self)
      have hsettles : (∃ entry, walk.field c.1 c.2 = .ok entry) ↔ P (.field c.1) :=
        h _ (.item (hkind.trans (congrArg some harray)) hchild) c.2 (hnodes c List.mem_cons_self)
      rw [List.map_singleton, List.forall_mem_singleton, ← hsettles]
      exact isOk_bind_of_total fun entry => ⟨_, rfl⟩
  | string | number | boolean | enum | group | definition | reference =>
    refine iff_of_true ⟨_, rfl⟩ fun s hs => ?_
    have hother := hkind.trans (congrArg (some ∘ Body.kind) hbody)
    cases hs with
    | child hobject _ _ =>
      rw [hobject] at hother
      cases hother
    | item harray _ =>
      rw [harray] at hother
      cases hother

/-- Over an edge to a group, or to a field with a name of its own, the walk goes to just that. -/
theorem forall_goesOver_named_iff {e : Edge} {k : NodeKind} (hbranch : e.kind ≠ .child)
    (hk : g.kind? e.target = some k) (hnamed : k.isGroup = true ∨ k.isAddressable = true) :
    (∀ s, GoesOver g e s → P s) ↔ P (.ofKind e.target k) := by
  constructor
  · exact fun h => h _ (.branch hbranch hk hnamed)
  · rintro h s hs
    cases hs with
    | branch _ hkind _ =>
      obtain rfl := Option.some.inj (hk.symm.trans hkind)
      exact h
    | within _ hobject _ _ =>
      obtain rfl := Option.some.inj (hk.symm.trans hobject)
      rcases hnamed with h | h <;> cases h

/-- Over an edge to an object the walk goes to what the object holds. -/
theorem forall_goesOver_object_iff {e : Edge} (hbranch : e.kind ≠ .child)
    (hk : g.kind? e.target = some .object) :
    (∀ s, GoesOver g e s → P s) ↔
      ∀ y k, g.IsChild y e.target → g.kind? y = some k → P (.ofKind y k) := by
  constructor
  · exact fun h y k hy hkind => h _ (.within hbranch hk hy hkind)
  · rintro h s hs
    cases hs with
    | branch _ hkind hnamed =>
      obtain rfl := Option.some.inj (hk.symm.trans hkind)
      rcases hnamed with h | h <;> cases h
    | within _ _ hchild hkind => exact h _ _ hchild hkind

/-- The walk gets over an edge when it gets through wherever it goes to. -/
theorem isOk_branchEntries_iff (hf : Forest g) {x : NodeId} {e : Edge} (he : e ∈ g.edgesFrom x)
    (h : ∀ s, GoesOver g e s → walk.Settles g s (P s)) :
    (∃ entries, branchEntries g walk target e = .ok entries) ↔ ∀ s, GoesOver g e s → P s := by
  obtain ⟨n, hn⟩ := Option.isSome_iff_exists.1 (hf.target_present he)
  have hkind : g.kind? e.target = some n.kind := g.kind?_eq_some_iff.2 ⟨n, hn, rfl⟩
  by_cases hchild : e.kind = .child
  · unfold branchEntries
    rw [if_pos hchild]
    exact iff_of_true ⟨_, rfl⟩ fun s hs => by cases hs <;> contradiction
  have hstep : branchEntries g walk target e =
      if n.kind.isGroup then walk.branches e.target target
      else if n.isAddressable then addField walk target (e.target, n)
      else if n.kind = .object then (do (← g.children e.target).foldlM (addField walk) target)
      else .ok target := by
    unfold branchEntries
    rw [if_neg hchild, pointedAt_eq_ok_iff.2 hn]
    rfl
  have hnamed : n.kind.isGroup = true ∨ n.kind.isAddressable = true →
      ((∃ entries, addField walk target (e.target, n) = .ok entries) ↔
        ∀ s, GoesOver g e s → P s) := by
    intro hnamed
    rw [forall_goesOver_named_iff hchild hkind hnamed]
    exact isOk_added_iff hn (h _ (.branch hchild hkind hnamed))
  rw [hstep]
  split_ifs with hgroup haddressable hobject
  · have hadded := hnamed (Or.inl hgroup)
    rwa [addField, if_pos hgroup] at hadded
  · exact hnamed (Or.inr haddressable)
  · obtain ⟨cs, hcs, -, hnodes⟩ := hf.children_eq e.target
    have hobject' : g.kind? e.target = some .object := hkind.trans (congrArg some hobject)
    have hsettles := (forall_children_iff hf hcs (Q := fun y k =>
      walk.Settles g (.ofKind y k) (P (.ofKind y k)))).2
        fun y k hy hk => h _ (.within hchild hobject' hy hk)
    rw [hcs, forall_goesOver_object_iff hchild hobject',
      ← forall_children_iff hf hcs (Q := fun y k => P (.ofKind y k))]
    exact isOk_foldlM_iff (fun c hc target => isOk_added_iff (hnodes c hc) (hsettles c hc)) target
  · refine iff_of_true ⟨_, rfl⟩ fun s hs => ?_
    cases hs with
    | branch _ hkind' hnamed =>
      obtain rfl := Option.some.inj (hkind.symm.trans hkind')
      exact absurd hnamed (not_or.2 ⟨hgroup, haddressable⟩)
    | within _ hobject' _ _ => exact absurd (Option.some.inj (hkind.symm.trans hobject')) hobject

/-- The walk gets through at a group when it gets through wherever it goes on to. -/
theorem isOk_branches_iff (hf : Forest g) {x : NodeId}
    (h : ∀ s, Goes g (.group x) s → walk.Settles g s (P s)) :
    (∃ entries, (g.edgesFrom x).foldlM (branchEntries g walk) target = .ok entries) ↔
      ∀ s, Goes g (.group x) s → P s := by
  have hedges : (∃ entries, (g.edgesFrom x).foldlM (branchEntries g walk) target = .ok entries) ↔
      ∀ e ∈ g.edgesFrom x, ∀ s, GoesOver g e s → P s :=
    isOk_foldlM_iff (P := fun e => ∀ s, GoesOver g e s → P s)
      (fun e he target => isOk_branchEntries_iff hf he fun s hs => h s (.branch he hs)) target
  rw [hedges]
  constructor
  · rintro hall s hs
    cases hs with
    | branch hedge hover => exact hall _ hedge s hover
  · exact fun hall e he s hs => hall s (.branch he hs)

/-! ## The whole walk -/

/-- The widgets of all fields that the walk comes to from a stop can be told. -/
def Clear (g : Graph) (registry : Registry) (s : Stop) : Prop :=
  ∀ x, Relation.ReflTransGen (Goes g) s (.field x) → ∀ n, g.node? x = some n →
    ∃ entry, widgetEntry registry n = .ok entry

theorem clear_field_iff {x : NodeId} {n : Node NodeId} (hn : g.node? x = some n) :
    Clear g registry (.field x) ↔ (∃ entry, widgetEntry registry n = .ok entry) ∧
      ∀ s, Goes g (.field x) s → Clear g registry s := by
  constructor
  · exact fun h => ⟨h x .refl n hn, fun s hs y hy => h y (.head hs hy)⟩
  · rintro ⟨hown, hrest⟩ y hy m hm
    rcases Relation.ReflTransGen.cases_head hy with heq | ⟨s, hs, hy⟩
    · obtain rfl := Stop.field.inj heq
      exact Option.some.inj (hn.symm.trans hm) ▸ hown
    · exact hrest s hs y hy m hm

theorem clear_group_iff {x : NodeId} : Clear g registry (.group x) ↔
    ∀ s, Goes g (.group x) s → Clear g registry s := by
  constructor
  · exact fun h s hs y hy => h y (.head hs hy)
  · intro hrest y hy m hm
    rcases Relation.ReflTransGen.cases_head hy with heq | ⟨s, hs, hy⟩
    · cases heq
    · exact hrest s hs y hy m hm

/-- The walk gets through at a stop when the widgets of all fields that it comes to can be told. -/
theorem settles_walk (ht : g.Tidy) (depth : Nat) :
    ∀ s : Stop, (g.subtreeIds s.node).length ≤ depth →
      (UiSchema.walk g registry depth).Settles g s (Clear g registry s) := by
  induction depth with
  | zero => exact fun s hs => absurd (subtree_pos ht.toForest s.node) (by omega)
  | succ depth ih =>
    intro s hdepth
    have hbelow : ∀ s', Goes g s s' →
        (UiSchema.walk g registry depth).Settles g s' (Clear g registry s') := by
      intro s' hs
      have hlt := hs.subtree_lt ht.toForest
      exact ih s' (by omega)
    cases s with
    | field x =>
      intro n hn
      rw [clear_field_iff hn]
      exact isOk_field_iff ht hn hbelow
    | group x =>
      intro target
      rw [clear_group_iff]
      exact isOk_branches_iff ht.toForest hbelow

end UiSchema

namespace Graph

open UiSchema

variable {g : Graph} {registry : Registry}

/-- The nodes that get an entry in the UI document: the fields that the walk comes to from the root.
-/
def Drawn (g : Graph) (x : NodeId) : Prop := Relation.TransGen (Goes g) (.field g.rootId) (.field x)

/-- A tidy graph has a UI document exactly when the widgets of all nodes that get an entry can be
told. -/
theorem uiSchema_isOk_iff (ht : g.Tidy) :
    (∃ ui, g.uiSchema registry = .ok ui) ↔ ∀ x n, g.Drawn x → g.node? x = some n →
      ∃ entry, widgetEntry registry n = .ok entry := by
  obtain ⟨n, hn, hkind⟩ := ht.root
  have hroot : g.root = .ok n := pointedAt_eq_ok_iff.2 hn
  have hobject : g.kind? g.rootId = some .object := g.kind?_eq_some_iff.2 ⟨n, hn, hkind⟩
  have hentries : (∃ entries, objectEntries g (UiSchema.walk g registry (g.nodes.size + 1)) g.rootId
      [] = .ok entries) ↔ ∀ s, Goes g (.field g.rootId) s → Clear g registry s := by
    rw [forall_goes_object_iff hobject]
    refine isOk_objectEntries_iff ht.toForest fun y k hy hk => settles_walk ht _ _ ?_
    have hle := subtree_le_size ht.toForest (ht.present hy).1
    rw [Stop.node_ofKind]
    omega
  have hui : (∃ ui, g.uiSchema registry = .ok ui) ↔
      ∃ entries, objectEntries g (UiSchema.walk g registry (g.nodes.size + 1)) g.rootId [] =
        .ok entries := by
    unfold uiSchema
    rw [hroot]
    exact isOk_bind_of_total fun entries => ⟨_, rfl⟩
  rw [hui, hentries]
  constructor
  · intro h x n hx hn
    obtain ⟨s, hs, hx⟩ := Relation.TransGen.head'_iff.1 hx
    exact h s hs x hx n hn
  · exact fun h s hs x hx n hn => h x n (Relation.TransGen.head'_iff.2 ⟨s, hs, hx⟩) hn

end Graph

end FormGraph

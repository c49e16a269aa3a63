import FormGraph.Proofs.Dressing.Undressed
import FormGraph.Proofs.SiblingKeys.Edit

/-!
# What a UI document dresses

A UI document is nested like the properties of the root, so it has an entry for a property of an
object, of a property that is an object, and so on, and for nothing else: not for the item of an array
and not for what hangs below a group. Putting the widgets of a UI document on a sound graph always
succeeds, and dresses exactly the properties whose entries name a widget (`exists_dress`).

In a forest a property is reached along one path, so it has one entry. That is why it does not matter
in which order the properties are dressed: at any time a node is as it was or dressed by its entry.
-/

namespace FormGraph

/-- The entry of a UI document at a path of keys, the last key first. -/
def UiSchema.entryAt (ui : Members) : List String → Option Members
  | [] => some ui
  | key :: path => (entryAt ui path).bind fun entry => (Value.member entry key).obj?

theorem UiSchema.entryAt_cons_iff {ui entry : Members} {key : String} {path : List String} :
    entryAt ui (key :: path) = some entry ↔
      ∃ above, entryAt ui path = some above ∧ Value.member above key = .obj entry := by
  rw [entryAt, Option.bind_eq_some_iff]
  refine exists_congr fun above => and_congr_right fun _ => ?_
  cases Value.member above key <;> simp [Value.obj?]

/-- Every key of a path leads one level down. -/
theorem UiSchema.depth_entryAt {ui entry : Members} {path : List String}
    (h : entryAt ui path = some entry) :
    (Value.obj entry).depth + path.length ≤ (Value.obj ui).depth := by
  induction path generalizing entry with
  | nil =>
    rw [← Option.some.inj h]
    exact Nat.le_refl _
  | cons key path ih =>
    obtain ⟨above, habove, hmember⟩ := entryAt_cons_iff.1 h
    have hfind : Entries.find? above key = some (.obj entry) := by
      unfold Value.member at hmember
      cases hf : Entries.find? above key with
      | none =>
        rw [hf] at hmember
        cases hmember
      | some v =>
        rw [hf] at hmember
        exact congrArg some hmember
    have hdeeper : (Value.obj entry).depth ≤ Value.depthMembers above :=
      Value.depth_le_depthMembers (Entries.mem_of_find? hfind)
    have hle := ih habove
    rw [Value.depth] at hle
    rw [List.length_cons]
    omega

namespace Graph

/-- The root, or a property of an object, of a property that is an object, and so on. The path gives
the keys of the properties, the last one first. -/
inductive PropertyAt (g : Graph) : List String → NodeId → Prop where
  /-- The root. -/
  | root : PropertyAt g [] g.rootId
  /-- A property of an object. -/
  | property {path : List String} {p x : NodeId} {n m : Node NodeId} (above : PropertyAt g path p)
    (object : g.node? p = some n) (kind : n.kind = .object) (child : g.IsChild x p)
    (node : g.node? x = some m) (field : m.kind.isGroup = false) : PropertyAt g (m.key :: path) x

/-- The UI document has an entry for the property, and the entry names a widget. -/
def Dresses (g : Graph) (ui : Members) (x : NodeId) (widget : String) (entry : Members) : Prop :=
  ∃ key path, g.PropertyAt (key :: path) x ∧ UiSchema.entryAt ui (key :: path) = some entry ∧
    Value.member entry "ui:widget" = .str widget

variable {g d d' : Graph} {ui : Members}

/-- A property is reached along one path. -/
theorem PropertyAt.unique (hs : Sound g) {path path' : List String} {x : NodeId}
    (h : g.PropertyAt path x) (h' : g.PropertyAt path' x) : path = path' := by
  induction h generalizing path' with
  | root =>
    cases h' with
    | root => rfl
    | property _ _ _ child => exact absurd (hs.root_top.symm.trans child) (Option.some_ne_none _).symm
  | property above object kind child node field ih =>
    cases h' with
    | root => exact absurd (hs.root_top.symm.trans child) (Option.some_ne_none _).symm
    | property above' _ _ child' node' _ =>
      obtain rfl := child.unique child'
      obtain rfl := Option.some.inj (node.symm.trans node')
      rw [ih above']

theorem Dresses.unique (hs : Sound g) {x : NodeId} {widget widget' : String}
    {entry entry' : Members} (h : g.Dresses ui x widget entry) (h' : g.Dresses ui x widget' entry') :
    widget = widget' ∧ entry = entry' := by
  obtain ⟨key, path, hx, hentry, hwidget⟩ := h
  obtain ⟨key', path', hx', hentry', hwidget'⟩ := h'
  rw [hx.unique hs hx', hentry'] at hentry
  obtain rfl := Option.some.inj hentry
  exact ⟨Value.str.inj (hwidget.symm.trans hwidget'), rfl⟩

/-! ## Graphs some of whose properties are dressed -/

/-- The second graph is the first one with some of the properties dressed that the UI document
dresses. -/
structure PartlyWears (g : Graph) (ui : Members) (d : Graph) : Prop where
  /-- Nothing but widgets has changed. -/
  undressed : d.undressed = g.undressed
  /-- A node is as it was or dressed by its entry. -/
  node : ∀ x n, g.node? x = some n → d.node? x = some n ∨
    ∃ widget entry, g.Dresses ui x widget entry ∧ d.node? x = some (n.dressed widget entry)

/-- If the UI document dresses the node, it is dressed. -/
def Wears (g : Graph) (ui : Members) (d : Graph) (x : NodeId) : Prop :=
  ∀ n widget entry, g.node? x = some n → g.Dresses ui x widget entry →
    d.node? x = some (n.dressed widget entry)

/-- What comes of one graph some of whose properties are dressed: another one, with no property
undressed. -/
structure DressesOn (g : Graph) (ui : Members) (d d' : Graph) : Prop where
  /-- Some of the properties are dressed. -/
  partly : g.PartlyWears ui d'
  /-- What was dressed still is. -/
  kept : ∀ x, g.Wears ui d x → g.Wears ui d' x

theorem PartlyWears.dressesOn (h : g.PartlyWears ui d) : g.DressesOn ui d d := ⟨h, fun _ hx => hx⟩

theorem DressesOn.trans {d₁ d₂ d₃ : Graph} (h : g.DressesOn ui d₁ d₂) (h' : g.DressesOn ui d₂ d₃) :
    g.DressesOn ui d₁ d₃ :=
  ⟨h'.partly, fun x hx => h'.kept x (h.kept x hx)⟩

theorem partlyWears_self (g : Graph) (ui : Members) : g.PartlyWears ui g :=
  ⟨rfl, fun _ _ hn => Or.inl hn⟩

/-- The children of a node are those there were, with the same keys and kinds. -/
theorem PartlyWears.children (h : g.PartlyWears ui d) (hf : Forest g) (p : NodeId) :
    ∃ cs, d.children p = .ok cs ∧ (∀ x, x ∈ cs.map Prod.fst ↔ g.IsChild x p) ∧
      ∀ c ∈ cs, ∃ m, g.node? c.1 = some m ∧ c.2.key = m.key ∧ c.2.kind = m.kind := by
  obtain ⟨cs, hcs, hids, hnodes⟩ := hf.children_eq p
  have hchildren : List.map (fun c => (c.1, c.2.undressed)) <$> d.children p =
      .ok (cs.map fun c => (c.1, c.2.undressed)) := by
    rw [← children_undressed, h.undressed, children_undressed, hcs]
    rfl
  cases hds : d.children p with
  | error e =>
    rw [hds] at hchildren
    cases hchildren
  | ok ds =>
    rw [hds] at hchildren
    have hsame : ds.map (fun c => (c.1, c.2.undressed)) = cs.map fun c => (c.1, c.2.undressed) :=
      Except.ok.inj hchildren
    have hfst := congrArg (List.map Prod.fst) hsame
    rw [List.map_map, List.map_map] at hfst
    refine ⟨ds, rfl, fun x => ?_, fun c hc => ?_⟩
    · rw [show ds.map Prod.fst = cs.map Prod.fst from hfst, hids]
      exact hf.mem_childIds_iff
    · have hmem : (c.1, c.2.undressed) ∈ cs.map fun c => (c.1, c.2.undressed) :=
        hsame ▸ List.mem_map_of_mem hc
      obtain ⟨c', hc', heq⟩ := List.mem_map.1 hmem
      obtain ⟨hid, hnode⟩ := Prod.mk.inj heq
      refine ⟨c'.2, hid ▸ hnodes c' hc', ?_, ?_⟩
      · exact (congrArg Node.key hnode).symm
      · exact (congrArg (fun n : Node NodeId => n.body.kind) hnode).symm

/-- A node that is dressed twice by one entry is dressed once. -/
theorem dressed_dressed (n : Node NodeId) (widget : String) (entry : Members) :
    (n.dressed widget entry).dressed widget entry = n.dressed widget entry := by
  unfold Node.dressed
  cases Value.member entry "ui:options" <;> rfl

/-- A property that the UI document dresses can be dressed. -/
theorem PartlyWears.dressField (hs : Sound g) (registry : Registry) {d : Bundle.Dressing}
    (h : g.PartlyWears ui d.graph) {key : String} {path : List String} {x : NodeId}
    (hx : g.PropertyAt (key :: path) x) {entry : Members}
    (hentry : UiSchema.entryAt ui (key :: path) = some entry) (name : String) :
    ∃ d', Bundle.dressField registry d x name entry = .ok d' ∧
      g.DressesOn ui d.graph d'.graph ∧ g.Wears ui d'.graph x := by
  unfold Bundle.dressField
  cases hwidget : Value.member entry "ui:widget" with
  | str widget =>
    have hdresses : g.Dresses ui x widget entry := ⟨key, path, hx, hentry, hwidget⟩
    obtain ⟨m, hm⟩ : ∃ m, g.node? x = some m := by
      cases hx with
      | property _ _ _ _ node _ => exact ⟨_, node⟩
    -- the node is as it was or dressed by this entry, and either way it is dressed by it now
    obtain ⟨n, hn, hdressed⟩ : ∃ n, d.graph.node? x = some n ∧
        n.dressed widget entry = m.dressed widget entry := by
      rcases h.node x m hm with hn | ⟨widget', entry', hdresses', hn⟩
      · exact ⟨m, hn, rfl⟩
      · obtain ⟨rfl, rfl⟩ := hdresses.unique hs hdresses'
        exact ⟨_, hn, dressed_dressed _ _ _⟩
    dsimp only
    rw [update_widgetPatch hn]
    refine ⟨_, rfl, ⟨⟨(undressed_putNode hn widget entry).trans h.undressed, ?_⟩, ?_⟩, ?_⟩
    · intro y k hk
      show (d.graph.putNode x (n.dressed widget entry)).node? y = _ ∨ ∃ _ _, _ ∧
        (d.graph.putNode x (n.dressed widget entry)).node? y = _
      rw [node?_putNode]
      by_cases hy : x = y
      · subst hy
        obtain rfl := Option.some.inj (hm.symm.trans hk)
        rw [if_pos rfl, hdressed]
        exact Or.inr ⟨widget, entry, hdresses, rfl⟩
      · rw [if_neg hy]
        exact h.node y k hk
    · intro y hy k widget' entry' hk hdresses'
      show (d.graph.putNode x (n.dressed widget entry)).node? y = _
      rw [node?_putNode]
      by_cases hxy : x = y
      · subst hxy
        obtain rfl := Option.some.inj (hm.symm.trans hk)
        obtain ⟨rfl, rfl⟩ := hdresses.unique hs hdresses'
        rw [if_pos rfl, hdressed]
      · rw [if_neg hxy]
        exact hy k widget' entry' hk hdresses'
    · intro k widget' entry' hk hdresses'
      obtain rfl := Option.some.inj (hm.symm.trans hk)
      obtain ⟨rfl, rfl⟩ := hdresses.unique hs hdresses'
      show (d.graph.putNode x (n.dressed widget entry)).node? x = _
      rw [node?_putNode_self, hdressed]
  | null | bool _ | int _ | float _ | list _ | obj _ =>
    refine ⟨d, rfl, h.dressesOn, fun n widget entry' _ hdresses => ?_⟩
    obtain ⟨key', path', hx', hentry', hwidget'⟩ := hdresses
    rw [hx'.unique hs hx, hentry] at hentry'
    obtain rfl := Option.some.inj hentry'
    rw [hwidget] at hwidget'
    cases hwidget'

/-! ## Dressing what hangs below an object -/

section

variable {α : Type}

/-- Dressing one after the other: what came of each step is kept by the steps after it. -/
theorem PartlyWears.foldlM {step : Bundle.Dressing → α → Except Fault Bundle.Dressing}
    {Q : α → Bundle.Dressing → Prop} {as : List α}
    (hstep : ∀ a ∈ as, ∀ d : Bundle.Dressing, g.PartlyWears ui d.graph → ∃ d', step d a = .ok d' ∧
      g.DressesOn ui d.graph d'.graph ∧ Q a d') {d : Bundle.Dressing}
    (h : g.PartlyWears ui d.graph) :
    ∃ d', as.foldlM step d = .ok d' ∧ g.DressesOn ui d.graph d'.graph ∧
      ∀ a ∈ as, ∃ d₁, Q a d₁ ∧ g.DressesOn ui d₁.graph d'.graph := by
  induction as generalizing d with
  | nil => exact ⟨d, rfl, h.dressesOn, fun a ha => absurd ha List.not_mem_nil⟩
  | cons a as ih =>
    obtain ⟨d₁, hd₁, hon₁, hq⟩ := hstep a List.mem_cons_self d h
    obtain ⟨d', hd', hon', hall⟩ :=
      ih (fun b hb => hstep b (List.mem_cons_of_mem _ hb)) hon₁.partly
    refine ⟨d', ?_, hon₁.trans hon', fun b hb => ?_⟩
    · rw [List.foldlM_cons, hd₁]
      exact hd'
    · rcases List.mem_cons.1 hb with rfl | hb
      · exact ⟨d₁, hq, hon'⟩
      · exact hall b hb

variable (registry : Registry) {path : List String} {p : NodeId} {n : Node NodeId}
  {entries : Members}

/-- What dressing what hangs below an object, by the entries it has, comes to. -/
def DressesBelow (g : Graph) (ui : Members)
    (below : Bundle.Dressing → NodeId → Members → Except Fault Bundle.Dressing) (path : List String) :
    Prop :=
  ∀ {d : Bundle.Dressing} {x : NodeId} {m : Node NodeId} {entry : Members},
    g.PartlyWears ui d.graph → g.PropertyAt path x → g.node? x = some m → m.kind = .object →
    UiSchema.entryAt ui path = some entry →
    ∃ d', below d x entry = .ok d' ∧ g.DressesOn ui d.graph d'.graph

/-- A child with an entry is dressed, and when it is an object so is what hangs below it. -/
theorem PartlyWears.dressChild (hs : Sound g) {d : Bundle.Dressing} (h : g.PartlyWears ui d.graph)
    (hp : g.PropertyAt path p) (hn : g.node? p = some n) (hkind : n.kind = .object)
    (hentries : UiSchema.entryAt ui path = some entries)
    {below : Bundle.Dressing → NodeId → Members → Except Fault Bundle.Dressing}
    (hbelow : ∀ key, g.DressesBelow ui below (key :: path)) {c : NodeId × Node NodeId}
    {m : Node NodeId} (hc : g.IsChild c.1 p) (hm : g.node? c.1 = some m) (hkey : c.2.key = m.key)
    (hsame : c.2.kind = m.kind) :
    ∃ d', Bundle.dressChild below registry entries d c = .ok d' ∧
      g.DressesOn ui d.graph d'.graph ∧
      (m.kind.isGroup = false → ∀ entry, Value.member entries m.key = .obj entry →
        g.Wears ui d'.graph c.1 ∧ (m.kind = .object → ∃ d₁ : Bundle.Dressing,
          g.PartlyWears ui d₁.graph ∧ below d₁ c.1 entry = .ok d')) := by
  unfold Bundle.dressChild
  rw [hkey, hsame]
  by_cases hgroup : m.kind.isGroup = true
  · rw [if_pos hgroup]
    exact ⟨d, rfl, h.dressesOn, fun hfield => absurd (hgroup.symm.trans hfield) (by decide)⟩
  · rw [if_neg hgroup]
    cases hentry : Value.member entries m.key with
    | obj entry =>
      have hx : g.PropertyAt (m.key :: path) c.1 :=
        .property hp hn hkind hc hm (Bool.eq_false_iff.2 hgroup)
      have hat : UiSchema.entryAt ui (m.key :: path) = some entry :=
        UiSchema.entryAt_cons_iff.2 ⟨entries, hentries, hentry⟩
      obtain ⟨d₁, hd₁, hon, hwears⟩ := h.dressField hs registry hx hat m.key
      dsimp only
      rw [hd₁]
      show ∃ d', (if m.kind = .object then below d₁ c.1 entry else .ok d₁) = .ok d' ∧ _
      by_cases hobject : m.kind = .object
      · obtain ⟨d', hd', hon'⟩ := hbelow m.key hon.partly hx hm hobject hat
        rw [if_pos hobject]
        refine ⟨d', hd', hon.trans hon', fun _ entry' hentry' => ?_⟩
        obtain rfl := Value.obj.inj hentry'
        exact ⟨hon'.kept _ hwears, fun _ => ⟨d₁, hon.partly, hd'⟩⟩
      · rw [if_neg hobject]
        exact ⟨d₁, rfl, hon, fun _ _ _ => ⟨hwears, fun h => absurd h hobject⟩⟩
    | null | bool _ | int _ | float _ | str _ | list _ =>
      refine ⟨d, rfl, h.dressesOn, fun _ entry' hentry' => ?_⟩
      cases hentry'

/-- Dressing what hangs below an object dresses each property that has an entry, and then what hangs
below it. -/
theorem PartlyWears.dress_succ (hs : Sound g) {depth : Nat}
    (hbelow : ∀ key, g.DressesBelow ui (Bundle.dress registry depth) (key :: path))
    {d : Bundle.Dressing} (h : g.PartlyWears ui d.graph) (hp : g.PropertyAt path p)
    (hn : g.node? p = some n) (hkind : n.kind = .object)
    (hentries : UiSchema.entryAt ui path = some entries) :
    ∃ d', Bundle.dress registry (depth + 1) d p entries = .ok d' ∧
      g.DressesOn ui d.graph d'.graph ∧
      ∀ x m entry, g.IsChild x p → g.node? x = some m → m.kind.isGroup = false →
        Value.member entries m.key = .obj entry → g.Wears ui d'.graph x ∧
          (m.kind = .object → ∃ d₁ d₂ : Bundle.Dressing, g.PartlyWears ui d₁.graph ∧
            Bundle.dress registry depth d₁ x entry = .ok d₂ ∧
              g.DressesOn ui d₂.graph d'.graph) := by
  obtain ⟨cs, hcs, hids, hnodes⟩ := h.children hs.toForest p
  obtain ⟨d', hd', hon, hall⟩ := @PartlyWears.foldlM g ui _
    (Bundle.dressChild (Bundle.dress registry depth) registry entries)
    (fun c d' => ∀ m, g.node? c.1 = some m → m.kind.isGroup = false → ∀ entry,
      Value.member entries m.key = .obj entry → g.Wears ui d'.graph c.1 ∧
        (m.kind = .object → ∃ d₁ : Bundle.Dressing, g.PartlyWears ui d₁.graph ∧
          Bundle.dress registry depth d₁ c.1 entry = .ok d')) cs (fun c hc d hd => by
      obtain ⟨m, hm, hkey, hsame⟩ := hnodes c hc
      obtain ⟨d', hd', hon, hrest⟩ := hd.dressChild registry hs hp hn hkind hentries hbelow
        ((hids c.1).1 (List.mem_map_of_mem hc)) hm hkey hsame
      refine ⟨d', hd', hon, fun m' hm' => ?_⟩
      obtain rfl := Option.some.inj (hm.symm.trans hm')
      exact hrest) d h
  refine ⟨d', ?_, hon, fun x m entry hx hm hfield hentry => ?_⟩
  · rw [Bundle.dress, hcs]
    exact hd'
  · obtain ⟨c, hc, rfl⟩ := List.mem_map.1 ((hids x).2 hx)
    obtain ⟨d₁, hq, hon₁⟩ := hall c hc
    obtain ⟨hwears, hdeeper⟩ := hq m hm hfield entry hentry
    refine ⟨hon₁.kept _ hwears, fun hobject => ?_⟩
    obtain ⟨d₀, hd₀, hdress⟩ := hdeeper hobject
    exact ⟨d₀, d₁, hd₀, hdress, hon₁⟩

/-- Dressing what hangs below an object succeeds. -/
theorem dressesBelow_dress (hs : Sound g) (depth : Nat) :
    ∀ path, g.DressesBelow ui (Bundle.dress registry depth) path := by
  induction depth with
  | zero => exact fun _ d _ _ _ h _ _ _ _ => ⟨d, rfl, h.dressesOn⟩
  | succ depth ih =>
    intro path d x m entry h hx hm hkind hentry
    obtain ⟨d', hd', hon, _⟩ := h.dress_succ registry hs (fun key => ih (key :: path)) hx hm hkind hentry
    exact ⟨d', hd', hon⟩

/-- On the way from the root, what hangs below each object with an entry is dressed at some time, down
to what is left of the depth. -/
theorem exists_dress_of_propertyAt (hs : Sound g) {depth : Nat} {d d' : Bundle.Dressing}
    (h : g.PartlyWears ui d.graph) (hdress : Bundle.dress registry depth d g.rootId ui = .ok d')
    {x : NodeId} (hx : g.PropertyAt path x) {entry : Members} (hm : g.node? x = some n)
    (hkind : n.kind = .object) (hentry : UiSchema.entryAt ui path = some entry)
    (hdepth : path.length ≤ depth) :
    ∃ (left : Nat) (d₁ d₂ : Bundle.Dressing), left + path.length = depth ∧
      g.PartlyWears ui d₁.graph ∧ Bundle.dress registry left d₁ x entry = .ok d₂ ∧
      g.DressesOn ui d₂.graph d'.graph := by
  induction hx generalizing n entry with
  | root =>
    obtain rfl := Option.some.inj hentry
    obtain ⟨d'', hd'', hon⟩ := dressesBelow_dress registry hs depth [] h .root hm hkind rfl
    obtain rfl := Except.ok.inj (hdress.symm.trans hd'')
    exact ⟨depth, d, d', rfl, h, hdress, hon.partly.dressesOn⟩
  | property above object kind child node field ih =>
    obtain ⟨entries, hentries, hmember⟩ := UiSchema.entryAt_cons_iff.1 hentry
    obtain rfl := Option.some.inj (node.symm.trans hm)
    rw [List.length_cons] at hdepth ⊢
    obtain ⟨left, d₁, d₂, hleft, hd₁, hdress₁, hon⟩ :=
      ih object kind hentries (Nat.le_of_succ_le hdepth)
    obtain ⟨left, rfl⟩ : ∃ k, left = k + 1 := ⟨left - 1, by omega⟩
    obtain ⟨d₂', hd₂', _, hall⟩ := hd₁.dress_succ registry hs
      (fun key => dressesBelow_dress registry hs left (key :: _)) above object kind hentries
    obtain rfl := Except.ok.inj (hdress₁.symm.trans hd₂')
    obtain ⟨d₃, d₄, hd₃, hdress₃, hon₃⟩ := (hall _ _ _ child node field hmember).2 hkind
    exact ⟨left, d₃, d₄, by omega, hd₃, hdress₃, hon₃.trans hon⟩

/-- Putting the widgets of a UI document on a sound graph succeeds. Every property that the UI
document dresses is dressed, and nothing else has changed. -/
theorem exists_dress (hs : Sound g) (ui : Members) (warnings : List String) :
    ∃ d, Bundle.dress registry (Value.obj ui).depth ⟨g, warnings⟩ g.rootId ui = .ok d ∧
      g.PartlyWears ui d.graph ∧ ∀ x, g.Wears ui d.graph x := by
  obtain ⟨root, hroot, hkind⟩ := hs.root
  have hself : g.PartlyWears ui (Bundle.Dressing.mk g warnings).graph := partlyWears_self g ui
  obtain ⟨d, hd, hon⟩ := dressesBelow_dress registry hs (Value.obj ui).depth [] hself .root
    hroot hkind rfl
  refine ⟨d, hd, hon.partly, fun x m widget entry hm hdresses => ?_⟩
  obtain ⟨key, path, hx, hentry, hwidget⟩ := hdresses
  obtain ⟨entries, hentries, hmember⟩ := UiSchema.entryAt_cons_iff.1 hentry
  have hdepth := UiSchema.depth_entryAt hentry
  cases hx with
  | property above object objectKind child node field =>
    obtain rfl := Option.some.inj (node.symm.trans hm)
    rw [List.length_cons, Value.depth] at hdepth
    obtain ⟨left, d₁, d₂, hleft, hd₁, hdress₁, hon₁⟩ := exists_dress_of_propertyAt registry hs hself hd above
      object objectKind hentries (by omega)
    obtain ⟨left, rfl⟩ : ∃ k, left = k + 1 := ⟨left - 1, by omega⟩
    obtain ⟨d₂', hd₂', _, hall⟩ := hd₁.dress_succ registry hs
      (fun key => dressesBelow_dress registry hs left (key :: _)) above object objectKind hentries
    obtain rfl := Except.ok.inj (hdress₁.symm.trans hd₂')
    have hwears := (hall _ _ _ child node field hmember).1
    exact hon₁.kept x hwears _ widget entry hm
      ⟨_, path, .property above object objectKind child node field, hentry, hwidget⟩

end

end Graph

end FormGraph

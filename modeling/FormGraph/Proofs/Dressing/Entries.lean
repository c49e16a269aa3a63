import FormGraph.Proofs.Dressing.Worn
import FormGraph.Proofs.Writing.Members

/-!
# What the UI document of a graph says

The UI document of a sound graph has an entry for every property, at the path of its keys, and the
entry names the widget and the options of the property (`exists_entry`). The fields within branches
have their entries at the level of the object above, but they never replace what is there, so the only
names they could disturb are those that no node has for a key.
-/

namespace FormGraph

namespace UiSchema

/-- The names that an entry has besides those of the fields within it and that say how a field looks
or how its fields are ordered. -/
def ownNames : List String := ["ui:widget", "ui:options", "ui:order"]

/-- How a field looks: its widget and its options, for an array with those of every array. -/
def look (registry : Registry) (n : Node NodeId) : Except Fault Members := do
  let entry ← widgetEntry registry n
  return if n.kind = .array then withArrayOptions entry else entry

variable {g : Graph} {registry : Registry} {walk : Walk} {target entries : Members}

/-! ## Adding entries -/

/-- The second entries are the first ones and others under keys of nodes. -/
structure Extends (g : Graph) (target entries : Members) : Prop where
  /-- What was there still is. -/
  kept : ∀ k v, Entries.find? target k = some v → Entries.find? entries k = some v
  /-- Under a name that is the key of no node, nothing has changed. -/
  free : ∀ k, (∀ id n, g.node? id = some n → n.key ≠ k) →
    Entries.find? entries k = Entries.find? target k

theorem Extends.refl : Extends g target target := ⟨fun _ _ h => h, fun _ _ => rfl⟩

theorem Extends.trans {more : Members} (h : Extends g target entries)
    (h' : Extends g entries more) : Extends g target more :=
  ⟨fun k v hk => h'.kept k v (h.kept k v hk), fun k hk => (h'.free k hk).trans (h.free k hk)⟩

theorem Extends.putNew {id : NodeId} {n : Node NodeId} (hn : g.node? id = some n) (v : Value) :
    Extends g target (Entries.putNew target n.key v) := by
  refine ⟨fun k w hw => ?_, fun k hk => ?_⟩
  · rw [Entries.find?_putNew, hw, Option.some_or]
  · rw [Entries.find?_putNew, Entries.find?_cons, if_neg (hk id n hn), Entries.find?_nil,
      Option.or_none]

/-- What extends entries one after the other extends them. -/
theorem Extends.foldlM {α : Type} {step : Members → α → Except Fault Members} {as : List α}
    (hstep : ∀ a ∈ as, ∀ {target entries}, step target a = .ok entries → Extends g target entries)
    (h : as.foldlM step target = .ok entries) : Extends g target entries := by
  induction as generalizing target with
  | nil =>
    cases h
    exact .refl
  | cons a as ih =>
    rw [List.foldlM_cons, bind_eq_ok_iff] at h
    obtain ⟨next, hnext, h⟩ := h
    exact (hstep a List.mem_cons_self hnext).trans
      (ih (fun b hb => hstep b (List.mem_cons_of_mem _ hb)) h)

/-! ## Branches -/

/-- The walk over branches only adds entries. -/
def Walk.Extends (g : Graph) (walk : Walk) : Prop :=
  ∀ id target entries, walk.branches id target = .ok entries → UiSchema.Extends g target entries

theorem extends_addField (hwalk : walk.Extends g) {c : NodeId × Node NodeId}
    (hc : g.node? c.1 = some c.2) (h : addField walk target c = .ok entries) :
    Extends g target entries := by
  unfold addField at h
  split_ifs at h
  · exact hwalk _ _ _ h
  · simp only [bind_eq_ok_iff, pure_eq_ok_iff] at h
    obtain ⟨entry, _, rfl⟩ := h
    exact .putNew hc _

theorem extends_branchEntries (hwalk : walk.Extends g) {e : Edge}
    (h : branchEntries g walk target e = .ok entries) : Extends g target entries := by
  unfold branchEntries at h
  split_ifs at h
  · cases h
    exact .refl
  · rw [bind_eq_ok_iff] at h
    obtain ⟨n, hn, h⟩ := h
    rw [Graph.pointedAt_eq_ok_iff] at hn
    split_ifs at h
    · exact hwalk _ _ _ h
    · exact extends_addField hwalk hn h
    · rw [bind_eq_ok_iff] at h
      obtain ⟨children, hchildren, h⟩ := h
      exact .foldlM (fun c hc => extends_addField hwalk ((Graph.children_ok hchildren).2 c hc)) h
    · cases h
      exact .refl

theorem extends_walk (g : Graph) (registry : Registry) (depth : Nat) :
    (UiSchema.walk g registry depth).Extends g := by
  induction depth with
  | zero =>
    intro id target entries h
    cases h
  | succ depth ih =>
    intro id target entries h
    exact .foldlM (fun e _ => extends_branchEntries ih) h

/-! ## Objects -/

/-- Add the entry of a child of an object, or those of the branches of a group. -/
def childEntries (walk : Walk) (target : Members) (c : NodeId × Node NodeId) :
    Except Fault Members :=
  if c.2.kind.isGroup then walk.branches c.1 target
  else return Entries.put target c.2.key (.obj (← walk.field c.1 c.2))

/-- The entries of the children of an object: every field among them has its own. -/
theorem childEntries_foldlM (hwalk : walk.Extends g) {cs : List (NodeId × Node NodeId)}
    (hcs : ∀ c ∈ cs, g.node? c.1 = some c.2) (hkeys : (cs.map fun c => c.2.key).Nodup)
    (h : cs.foldlM (childEntries walk) target = .ok entries) :
    (∀ c ∈ cs, c.2.kind.isGroup = false → ∃ entry, walk.field c.1 c.2 = .ok entry ∧
      Entries.find? entries c.2.key = some (.obj entry)) ∧
    (∀ k v, k ∉ cs.map (fun c => c.2.key) → Entries.find? target k = some v →
      Entries.find? entries k = some v) ∧
    (∀ k, (∀ id n, g.node? id = some n → n.key ≠ k) →
      Entries.find? entries k = Entries.find? target k) := by
  induction cs generalizing target with
  | nil =>
    cases h
    exact ⟨fun c hc => absurd hc List.not_mem_nil, fun _ _ _ h => h, fun _ _ => rfl⟩
  | cons c cs ih =>
    rw [List.foldlM_cons, bind_eq_ok_iff] at h
    obtain ⟨next, hnext, h⟩ := h
    rw [List.map_cons, List.nodup_cons] at hkeys
    obtain ⟨hfields, hkept, hfree⟩ := ih (fun x hx => hcs x (List.mem_cons_of_mem _ hx)) hkeys.2 h
    have hc := hcs c List.mem_cons_self
    unfold childEntries at hnext
    by_cases hgroup : c.2.kind.isGroup = true
    · rw [if_pos hgroup] at hnext
      have hextends := hwalk _ _ _ hnext
      refine ⟨fun x hx hfield => ?_, fun k v hk hv => ?_, fun k hk => ?_⟩
      · rcases List.mem_cons.1 hx with rfl | hx
        · exact absurd (hgroup.symm.trans hfield) (by decide)
        · exact hfields x hx hfield
      · exact hkept k v (fun hmem => hk (List.mem_cons_of_mem _ hmem)) (hextends.kept k v hv)
      · exact (hfree k hk).trans (hextends.free k hk)
    · rw [if_neg hgroup, bind_eq_ok_iff] at hnext
      obtain ⟨entry, hentry, hput⟩ := hnext
      obtain rfl := pure_eq_ok_iff.1 hput
      refine ⟨fun x hx hfield => ?_, fun k v hk hv => ?_, fun k hk => ?_⟩
      · rcases List.mem_cons.1 hx with rfl | hx
        · refine ⟨entry, hentry, hkept _ _ hkeys.1 ?_⟩
          rw [Entries.find?_put, if_pos rfl]
        · exact hfields x hx hfield
      · rw [List.map_cons, List.mem_cons, not_or] at hk
        refine hkept k v hk.2 ?_
        rw [Entries.find?_put, if_neg (Ne.symm hk.1), hv]
      · rw [hfree k hk, Entries.find?_put, if_neg (hk c.1 c.2 hc)]

end UiSchema

namespace Graph

open UiSchema

variable {g : Graph} {registry : Registry} {walk : UiSchema.Walk} {target entries : Members}

/-- The children of a node have different keys. -/
theorem Keyed.nodup_keys (hk : Keyed g) (hf : Forest g) {id : NodeId}
    {cs : List (NodeId × Node NodeId)} (h : g.children id = .ok cs) :
    (cs.map fun c => c.2.key).Nodup := by
  obtain ⟨hids, hnodes⟩ := children_ok h
  refine List.Nodup.of_map some ?_
  have hkeys := hk.nodup hf id
  rw [← hids, List.map_map] at hkeys
  rw [List.map_map]
  exact (congrArg List.Nodup (List.map_congr_left fun c hc => key?_of_node? (hnodes c hc))).mp hkeys

/-- The entries of an object: each of its properties has its own, and what the object says of itself
is as it was. -/
theorem objectEntries_ok (hs : Sound g) (hk : Keyed g) (hwalk : walk.Extends g)
    (hnames : ∀ id n, g.node? id = some n → n.key ∉ ownNames) {p : NodeId}
    (h : objectEntries g walk p target = .ok entries) :
    (∀ x m, g.IsChild x p → g.node? x = some m → m.kind.isGroup = false →
      ∃ entry, walk.field x m = .ok entry ∧ Value.member entries m.key = .obj entry) ∧
    ∀ k ∈ ["ui:widget", "ui:options"], Entries.find? entries k = Entries.find? target k := by
  unfold objectEntries at h
  rw [bind_eq_ok_iff] at h
  obtain ⟨cs, hcs, h⟩ := h
  rw [bind_eq_ok_iff] at h
  obtain ⟨next, hnext, h⟩ := h
  obtain ⟨hids, hnodes⟩ := children_ok hcs
  obtain ⟨hfields, -, hfree⟩ := childEntries_foldlM hwalk hnodes (hk.nodup_keys hs.toForest hcs) hnext
  have hlast : ∀ k, k ≠ "ui:order" → Entries.find? entries k = Entries.find? next k := by
    intro k hne
    dsimp only at h
    split_ifs at h
    · rw [pure_eq_ok_iff.1 h]
    · rw [← pure_eq_ok_iff.1 h, Entries.find?_put, if_neg (Ne.symm hne)]
  refine ⟨fun x m hx hm hfield => ?_, fun k hmem => ?_⟩
  · obtain ⟨c, hc, rfl⟩ := List.mem_map.1 (hids ▸ hs.toForest.mem_childIds_iff.2 hx)
    obtain rfl := Option.some.inj ((hnodes c hc).symm.trans hm)
    obtain ⟨entry, hentry, hfind⟩ := hfields c hc hfield
    refine ⟨entry, hentry, ?_⟩
    have hne : c.2.key ≠ "ui:order" := fun heq => hnames _ _ hm (by rw [heq]; decide)
    rw [Value.member, hlast _ hne, hfind]
    rfl
  · have hne : k ≠ "ui:order" := by
      rintro rfl
      exact absurd hmem (by decide)
    rw [hlast k hne]
    refine hfree k fun id n hn heq => hnames id n hn ?_
    rw [heq]
    clear heq hne
    revert k
    decide

/-- The entry of a field says how it looks, and for an object has the entries of its properties. -/
theorem field_ok (hs : Sound g) (hk : Keyed g) (hwalk : walk.Extends g)
    (hnames : ∀ id n, g.node? id = some n → n.key ∉ ownNames) {x : NodeId} {n : Node NodeId}
    {entry : Members} (h : UiSchema.field g registry walk x n = .ok entry) :
    (∃ shown, look registry n = .ok shown ∧
      ∀ k ∈ ["ui:widget", "ui:options"], Entries.find? entry k = Entries.find? shown k) ∧
    (n.kind = .object → ∃ target, objectEntries g walk x target = .ok entry) := by
  unfold UiSchema.field at h
  rw [bind_eq_ok_iff] at h
  obtain ⟨shown, hshown, h⟩ := h
  unfold look
  rw [hshown, Node.kind]
  cases hb : n.body with
  | object a =>
    rw [hb] at h
    refine ⟨⟨shown, rfl, fun k hmem => ?_⟩, fun _ => ⟨_, h⟩⟩
    rw [(objectEntries_ok hs hk hwalk hnames h).2 k hmem, Entries.find?_put, Entries.find?_put,
      if_neg, if_neg] <;>
    · rintro rfl
      exact absurd hmem (by decide)
  | array a =>
    rw [hb] at h
    refine ⟨⟨withArrayOptions shown, rfl, fun k hmem => ?_⟩, fun h => by cases h⟩
    dsimp only at h
    rw [bind_eq_ok_iff] at h
    obtain ⟨cs, _, h⟩ := h
    cases cs with
    | nil =>
      cases h
      rfl
    | cons c cs =>
      obtain ⟨itemId, item⟩ := c
      dsimp only at h
      rw [bind_eq_ok_iff] at h
      obtain ⟨itemEntry, _, h⟩ := h
      have htitle : "ui:itemTitle" ≠ k := by
        rintro rfl
        exact absurd hmem (by decide)
      have hitems : "items" ≠ k := by
        rintro rfl
        exact absurd hmem (by decide)
      split_ifs at h
      · rw [← pure_eq_ok_iff.1 h, Entries.find?_put, if_neg htitle]
      · rw [← pure_eq_ok_iff.1 h, Entries.find?_put, if_neg hitems, Entries.find?_put, if_neg htitle]
  | string | number | boolean | enum | group | definition | reference =>
    rw [hb] at h
    obtain rfl := pure_eq_ok_iff.1 h
    exact ⟨⟨shown, rfl, fun _ _ => rfl⟩, fun h => by cases h⟩

/-- Where the UI document of a graph has the entry of a property. -/
theorem exists_entry (hs : Sound g) (hk : Keyed g)
    (hnames : ∀ id n, g.node? id = some n → n.key ∉ ownNames) {ui : Members}
    (hui : g.uiSchema registry = .ok (.obj ui)) {path : List String} {x : NodeId} {n : Node NodeId}
    (hx : g.PropertyAt path x) (hn : g.node? x = some n) :
    ∃ entry, entryAt ui path = some entry ∧
      (n.kind = .object → ∃ depth target,
        objectEntries g (UiSchema.walk g registry depth) x target = .ok entry) ∧
      (path ≠ [] → ∃ shown, look registry n = .ok shown ∧
        ∀ k ∈ ["ui:widget", "ui:options"], Entries.find? entry k = Entries.find? shown k) := by
  induction hx generalizing n with
  | root =>
    unfold uiSchema at hui
    simp only [bind_eq_ok_iff, pure_eq_ok_iff] at hui
    obtain ⟨_, _, entries, hentries, hui⟩ := hui
    obtain rfl := Value.obj.inj hui
    exact ⟨entries, rfl, fun _ => ⟨_, _, hentries⟩, fun hne => absurd rfl hne⟩
  | property above object kind child node field ih =>
    obtain rfl := Option.some.inj (node.symm.trans hn)
    obtain ⟨entries, hentries, hobject, _⟩ := ih object
    obtain ⟨depth, target, hwritten⟩ := hobject kind
    have hwalk := extends_walk g registry depth
    obtain ⟨entry, hentry, hmember⟩ :=
      (objectEntries_ok hs hk hwalk hnames hwritten).1 _ _ child node field
    cases depth with
    | zero => cases hentry
    | succ depth =>
      obtain ⟨hlook, hdeeper⟩ := field_ok hs hk (extends_walk g registry depth) hnames hentry
      refine ⟨entry, entryAt_cons_iff.2 ⟨entries, hentries, hmember⟩, fun hkind => ?_, fun _ => hlook⟩
      obtain ⟨target, h⟩ := hdeeper hkind
      exact ⟨depth, target, h⟩

end Graph

end FormGraph

import FormGraph.Proofs.Identifiers.Change
import FormGraph.Proofs.Mirrored.Found
import FormGraph.Proofs.Promotion.Table
import FormGraph.Proofs.SiblingKeys.Change

/-!
# The UI document mirrors the objects

Where the keys of a reachable graph are identifiers, the entry of an object in the UI document has the
keys of its properties in the order in which they are written, closed by the wildcard; besides what it
says of the object itself, it has the entries of the properties and of the fields found in branches,
and of these two the property comes first, wherever it stands among the children
(`mirrors_of_entryAt`).
-/

namespace FormGraph

/-- The fields among some nodes. -/
def fieldKeys (cs : List (NodeId × Node NodeId)) : List String :=
  (cs.filter fun c => !c.2.kind.isGroup).map fun c => c.2.key

theorem mem_fieldKeys_iff {cs : List (NodeId × Node NodeId)} {k : String} :
    k ∈ fieldKeys cs ↔ ∃ c ∈ cs, c.2.kind.isGroup = false ∧ c.2.key = k := by
  simp [fieldKeys, and_assoc]

theorem nodup_fieldKeys {cs : List (NodeId × Node NodeId)}
    (h : (cs.map fun c => c.2.key).Nodup) : (fieldKeys cs).Nodup :=
  h.sublist (List.filter_sublist.map _)

namespace Graph

/-- The keys of the properties of an object, in order. -/
def propertyKeys (g : Graph) (x : NodeId) : List String :=
  fieldKeys ((g.childIds x).filterMap fun y => (g.node? y).map (y, ·))

theorem propertyKeys_of_children {g : Graph} {x : NodeId} {cs : List (NodeId × Node NodeId)}
    (h : g.children x = .ok cs) : g.propertyKeys x = fieldKeys cs := by
  obtain ⟨hids, hnodes⟩ := children_ok h
  unfold propertyKeys
  rw [← hids, List.filterMap_map]
  congr 1
  clear h hids
  induction cs with
  | nil => rfl
  | cons c cs ih =>
    rw [List.filterMap_cons, Function.comp_apply, hnodes c List.mem_cons_self]
    exact congrArg (c :: ·) (ih fun d hd => hnodes d (List.mem_cons_of_mem _ hd))

end Graph

/-! ## The properties as they are written -/

namespace Compile

open Graph Compiling

variable {g : Graph} {cfg : DocumentConfig} {below : NodeId → Node NodeId → Compiling Value}

/-- The properties that are written are those of the fields, in order. -/
theorem names_properties_foldlM {cs : List (NodeId × Node NodeId)} : ∀ (parts : ObjectParts)
    {parts' : ObjectParts}, (Entries.names parts.properties ++ fieldKeys cs).Nodup →
    (cs.foldlM (objectChild below) parts).run.value = .ok parts' →
    Entries.names parts'.properties = Entries.names parts.properties ++ fieldKeys cs := by
  induction cs with
  | nil =>
    intro parts parts' _ h
    obtain rfl := value_pure_eq_ok_iff.1 h
    exact (List.append_nil _).symm
  | cons c cs ih =>
    intro parts parts' hnodup h
    rw [List.foldlM_cons] at h
    obtain ⟨next, hnext, h⟩ := value_bind_eq_ok_iff.1 h
    unfold objectChild at hnext
    obtain ⟨v, -, hnext⟩ := value_bind_eq_ok_iff.1 hnext
    by_cases hgroup : c.2.kind.isGroup = true
    · rw [if_pos hgroup] at hnext
      obtain rfl := value_pure_eq_ok_iff.1 hnext
      have hkeys : fieldKeys (c :: cs) = fieldKeys cs := by simp [fieldKeys, hgroup]
      rw [hkeys] at hnodup ⊢
      exact ih { parts with groups := parts.groups ++ [v] } hnodup h
    · rw [if_neg hgroup] at hnext
      obtain rfl := value_pure_eq_ok_iff.1 hnext
      have hkeys : fieldKeys (c :: cs) = c.2.key :: fieldKeys cs := by
        simp [fieldKeys, Bool.eq_false_iff.2 hgroup]
      rw [hkeys] at hnodup ⊢
      have hnew : c.2.key ∉ Entries.names parts.properties := fun hmem =>
        (List.nodup_append.1 hnodup).2.2 _ hmem _ List.mem_cons_self rfl
      have hput : Entries.names (Entries.put parts.properties c.2.key v) =
          Entries.names parts.properties ++ [c.2.key] := by rw [Entries.names_put, if_neg hnew]
      rw [List.append_cons] at hnodup ⊢
      rw [← hput] at hnodup ⊢
      exact ih _ hnodup h

/-- What is written under `properties` for an object. -/
theorem find?_properties_objectBody {x : NodeId} {n : Node NodeId} {contents : Members}
    {cs : List (NodeId × Node NodeId)} (hcs : g.children x = .ok cs)
    (hkeys : (cs.map fun c => c.2.key).Nodup)
    (h : (objectBody g below x n).run.value = .ok contents) :
    ∃ properties, Entries.names properties = fieldKeys cs ∧
      Entries.find? contents.reverse "properties" =
        if (fieldKeys cs).isEmpty then none else some (.obj properties) := by
  unfold objectBody at h
  obtain ⟨cs', hcs', h⟩ := value_bind_eq_ok_iff.1 h
  obtain rfl := Except.ok.inj (hcs.symm.trans hcs')
  obtain ⟨parts, hparts, h⟩ := value_bind_eq_ok_iff.1 h
  obtain ⟨groups, hgroups, h⟩ := value_bind_eq_ok_iff.1 h
  obtain rfl := value_pure_eq_ok_iff.1 h
  have hnames : Entries.names parts.properties = fieldKeys cs :=
    names_properties_foldlM {} (nodup_fieldKeys hkeys) hparts
  refine ⟨parts.properties, hnames, ?_⟩
  have hgroup : Entries.find? groups.reverse "properties" = none := by
    rw [Entries.find?_eq_none_iff, Entries.names, List.map_reverse, List.mem_reverse]
    exact fun hmem => absurd (names_groupList hgroups hmem) (by decide)
  have hempty : parts.properties.isEmpty = (fieldKeys cs).isEmpty := by
    rw [← hnames, Entries.names, List.isEmpty_map]
  rw [List.reverse_append, List.reverse_append, Entries.find?_append, hgroup, Option.none_or,
    Entries.find?_append, hempty]
  split_ifs <;> simp

end Compile

/-! ## The order of the properties -/

/-- Of different texts each is kept. -/
theorem distinct_of_nodup {texts : List String} (h : texts.Nodup) : distinct texts = texts := by
  suffices hall : ∀ seen : List String, (seen ++ texts).Nodup →
      texts.foldl (fun seen t => if t ∈ seen then seen else seen ++ [t]) seen = seen ++ texts from
    hall [] h
  clear h
  induction texts with
  | nil => exact fun seen _ => (List.append_nil seen).symm
  | cons t texts ih =>
    intro seen hseen
    have hnew : t ∉ seen := fun hmem =>
      (List.nodup_append.1 hseen).2.2 _ hmem _ List.mem_cons_self rfl
    rw [List.append_cons] at hseen ⊢
    rw [List.foldl_cons, if_neg hnew, ih _ hseen]

namespace UiSchema

open Graph

variable {g : Graph} {registry : Registry} {target entries : Members}

/-- An order of different identifiers is closed by the wildcard. -/
theorem withWildcard_of_identifiers {keys : List String}
    (hkeys : ∀ k ∈ keys, Key.isIdentifier k = true) (hnodup : keys.Nodup) :
    withWildcard keys = keys ++ [wildcard] := by
  have htrim : keys.map trimBlanks = keys :=
    (List.map_congr_left fun k hk => Key.trimBlanks_of_isIdentifier (hkeys k hk)).trans
      (List.map_id _)
  have hblank : keys.filter (· ≠ "") = keys := by
    refine List.filter_eq_self.2 fun k hk => decide_eq_true ?_
    rintro rfl
    exact absurd (hkeys "" hk) (by decide)
  have hwildcard : keys.contains wildcard = false := by
    rw [← Bool.not_eq_true, List.contains_iff_mem]
    exact fun hmem => absurd (hkeys wildcard hmem) (by decide)
  unfold withWildcard
  rw [htrim, hblank, distinct_of_nodup hnodup]
  dsimp only
  rw [hwildcard, if_neg (by decide)]

/-! ## What an entry says of the field itself -/

/-- The name is one of those under which an entry says something of the field itself. -/
def IsOwn (k : String) : Prop := "ui:".toList <+: k.toList

instance (k : String) : Decidable (IsOwn k) := inferInstanceAs (Decidable (_ <+: _))

/-- An identifier is none of these names. -/
theorem not_isOwn_of_isIdentifier {k : String} (h : Key.isIdentifier k = true) : ¬ IsOwn k := by
  intro hown
  have hcolon : ':' ∈ k.toList := hown.subset (by decide)
  exact absurd (Key.isPart_of_isIdentifier h hcolon) (by decide)

/-- Of a field nothing is said, or what its widget is and which options it has, if any. -/
theorem widgetEntry_cases {n : Node NodeId} {entry : Members}
    (h : widgetEntry registry n = .ok entry) : entry = [] ∨ ∃ (v : Value) (options : Members),
      entry = ("ui:widget", v) :: if options.isEmpty then [] else [("ui:options", .obj options)] := by
  unfold widgetEntry at h
  dsimp only at h
  by_cases hholds : n.widget.holds = true
  · rw [if_pos hholds] at h
    obtain ⟨widget, -, h⟩ := bind_eq_ok_iff.1 h
    cases widget with
    | some w => exact Or.inr ⟨_, _, (pure_eq_ok_iff.1 h).symm⟩
    | none =>
      dsimp only at h
      rw [if_pos hholds] at h
      exact Or.inr ⟨_, _, (pure_eq_ok_iff.1 h).symm⟩
  · rw [if_neg hholds] at h
    obtain ⟨widget, -, h⟩ := bind_eq_ok_iff.1 h
    cases widget with
    | some w => exact Or.inr ⟨_, _, (pure_eq_ok_iff.1 h).symm⟩
    | none =>
      dsimp only at h
      rw [if_neg hholds] at h
      exact Or.inl (pure_eq_ok_iff.1 h).symm

/-- The members say something of the field itself, and nothing of an order. -/
def OnlyOwn (target : Members) : Prop := ∀ k ∈ Entries.names target, IsOwn k ∧ k ≠ "ui:order"

theorem OnlyOwn.put (h : OnlyOwn target) {name : String} (v : Value) (hname : IsOwn name)
    (horder : name ≠ "ui:order") : OnlyOwn (Entries.put target name v) := by
  intro k hk
  rcases Entries.mem_names_put.1 hk with hk | rfl
  · exact h k hk
  · exact ⟨hname, horder⟩

theorem OnlyOwn.find?_eq_none (h : OnlyOwn target) {k : String} (hk : ¬ IsOwn k) :
    Entries.find? target k = none :=
  Entries.find?_eq_none_iff.2 fun hmem => hk (h k hmem).1

theorem onlyOwn_widgetEntry {n : Node NodeId} {entry : Members}
    (h : widgetEntry registry n = .ok entry) : OnlyOwn entry := by
  have hown : ∀ k ∈ ["ui:widget", "ui:options"], IsOwn k ∧ k ≠ "ui:order" := by decide
  intro k hk
  rcases widgetEntry_cases h with rfl | ⟨v, options, rfl⟩
  · exact absurd hk List.not_mem_nil
  · refine hown k ?_
    split_ifs at hk
    · exact List.mem_cons.2 (Or.inl (List.mem_singleton.1 hk))
    · exact hk

/-! ## The entries of an object -/

/-- The fields that are found from the groups of an object. -/
def FoundUnder (g : Graph) (o x : NodeId) : Prop :=
  ∃ p k, g.IsChild p o ∧ g.kind? p = some k ∧ k.isGroup = true ∧ Finds g (.group p) x

/-- What is found from a stop belongs to a node, when the stop does. -/
theorem Finds.owned (hf : Forest g) {s : Stop} {x : NodeId} (h : Finds g s x)
    (hs : ∀ y, s = .field y → ∃ e, g.owningEdge y = some e) : ∃ e, g.owningEdge x = some e := by
  induction h with
  | field x => exact hs x rfl
  | @group p x s onward rest ih =>
    refine ih fun y hy => ?_
    have hnode : s.node = y := by rw [hy]; rfl
    cases onward with
    | branch edge goes =>
      cases goes with
      | branch =>
        rw [Stop.node_ofKind] at hnode
        exact ⟨_, hnode ▸ hf.owned edge⟩
      | within _ _ child =>
        rw [Stop.node_ofKind] at hnode
        exact ⟨_, hnode ▸ child⟩

/-- What is found from the children of an object: its fields, and what is found from its groups. -/
theorem exists_finds_iff (hf : Forest g) {o x : NodeId} {cs : List (NodeId × Node NodeId)}
    (hcs : g.children o = .ok cs) : (∃ c ∈ cs, Finds g (.ofKind c.1 c.2.kind) x) ↔
      (∃ c ∈ cs, c.2.kind.isGroup = false ∧ x = c.1) ∨ FoundUnder g o x := by
  obtain ⟨hids, hnodes⟩ := children_ok hcs
  constructor
  · rintro ⟨c, hc, hx⟩
    unfold Stop.ofKind at hx
    split_ifs at hx with hgroup
    · exact Or.inr ⟨c.1, c.2.kind, hf.mem_childIds_iff.1 (hids ▸ List.mem_map_of_mem hc),
        g.kind?_eq_some_iff.2 ⟨c.2, hnodes c hc, rfl⟩, hgroup, hx⟩
    · exact Or.inl ⟨c, hc, Bool.not_eq_true _ ▸ hgroup, finds_field_iff.1 hx⟩
  · rintro (⟨c, hc, hfield, rfl⟩ | ⟨p, k, hp, hk, hgroup, hx⟩)
    · refine ⟨c, hc, ?_⟩
      rw [Stop.ofKind, if_neg (by rw [hfield]; decide)]
      exact .field c.1
    · obtain ⟨c, hc, rfl⟩ := List.mem_map.1 (hids ▸ hf.mem_childIds_iff.2 hp)
      obtain ⟨n, hn, rfl⟩ := g.kind?_eq_some_iff.1 hk
      obtain rfl := Option.some.inj ((hnodes c hc).symm.trans hn)
      refine ⟨c, hc, ?_⟩
      rwa [Stop.ofKind, if_pos hgroup]

/-- The entry is the one that is made of the field. -/
def Describes (g : Graph) (registry : Registry) (x : NodeId) (entry : Members) : Prop :=
  ∃ n, g.node? x = some n ∧
    (UiSchema.walk g registry (g.nodes.size + 1)).field x n = .ok entry

/-- How the entry of an object follows the object. -/
structure Mirrors (g : Graph) (registry : Registry) (o : NodeId) (entry : Members) : Prop where
  /-- The order is that of the properties, closed by the wildcard; without properties there is none. -/
  order_eq : Entries.find? entry "ui:order" =
    if (g.propertyKeys o).isEmpty then none
    else some (Value.ofStrings (g.propertyKeys o ++ ["*"]))
  /-- The properties are those that are written for the object, in this order; without any, nothing is
  written but what was kept of what was read. -/
  written : ∀ (cfg : DocumentConfig) (depth : Nat) (n : Node NodeId) (v : Value),
    g.node? o = some n → (Compile.node g cfg depth o n).run.value = .ok v →
      ∃ properties, Entries.names properties = g.propertyKeys o ∧
        Entries.find? (v.obj?.getD []) "properties" =
          if (g.propertyKeys o).isEmpty then Entries.find? n.extras "properties"
          else some (.obj properties)
  /-- Besides what is said of the object itself, there are the names of the properties and those of
  the fields found in branches. -/
  mem_names_iff : ∀ k, k ∈ Entries.names entry ∧ ¬ IsOwn k ↔
    k ∈ g.propertyKeys o ∨ ∃ x n, FoundUnder g o x ∧ g.node? x = some n ∧ n.key = k
  /-- Under the name of a property stands its entry, whatever fields with that name are found. -/
  property_entry : ∀ x n, g.IsChild x o → g.node? x = some n → n.kind.isGroup = false →
    ∃ entryOfField, Entries.find? entry n.key = some (.obj entryOfField) ∧
      Describes g registry x entryOfField
  /-- Under any other of these names stands the entry of a field that is found. -/
  branch_entry : ∀ k v, ¬ IsOwn k → k ∉ g.propertyKeys o → Entries.find? entry k = some v →
    ∃ x n entryOfField, FoundUnder g o x ∧ g.node? x = some n ∧ n.key = k ∧
      v = .obj entryOfField ∧ Describes g registry x entryOfField

/-- The fields among the children of an object. -/
def IsField (cs : List (NodeId × Node NodeId)) (x : NodeId) : Prop :=
  ∃ c ∈ cs, c.2.kind.isGroup = false ∧ x = c.1

/-- How the entries of an object are put together: `next` has the entries of the fields and of what is
found in branches, and the order comes last. -/
structure Assembled (g : Graph) (walk : Walk) (o : NodeId) (cs : List (NodeId × Node NodeId))
    (target next entries : Members) : Prop where
  /-- The children of the object. -/
  children : g.children o = .ok cs
  /-- Their keys are different, -/
  distinct : (cs.map fun c => c.2.key).Nodup
  /-- and those of the fields gathered are identifiers. -/
  identifier : ∀ x n, IsField cs x ∨ FoundUnder g o x → g.node? x = some n →
    Key.isIdentifier n.key = true
  /-- What is there so far says something of the object itself, and nothing of an order. -/
  own : OnlyOwn target
  /-- The fields are gathered, and what is found in branches, -/
  gathers : Gathers g walk (fun x => IsField cs x ∨ FoundUnder g o x) target next
  /-- every field has its own entry, -/
  fields : ∀ c ∈ cs, c.2.kind.isGroup = false → ∃ entry, walk.field c.1 c.2 = .ok entry ∧
    Entries.find? next c.2.key = some (.obj entry)
  /-- and the order is added. -/
  result : entries = if (fieldKeys cs).isEmpty then next
    else Entries.put next "ui:order" (Value.ofStrings (withWildcard (fieldKeys cs)))

/-- What belongs to a node has an identifier for its key, where fields and groups do. -/
theorem isIdentifier_of_owned (hs : Sound g) (hi : Identified g) {x : NodeId} {n : Node NodeId}
    (hn : g.node? x = some n) (howned : ∃ e, g.owningEdge x = some e) :
    Key.isIdentifier n.key = true := by
  refine hi (key?_of_node? hn) fun hkind => ?_
  obtain ⟨m, hm, hdefinition⟩ := g.kind?_eq_some_iff.1 hkind
  obtain ⟨e, he⟩ := howned
  rw [hs.definition_top hm hdefinition] at he
  cases he

theorem assembled_of_objectEntries (hs : Sound g) (hk : Keyed g) (hi : Identified g) {depth : Nat}
    {o : NodeId} (htarget : OnlyOwn target)
    (h : objectEntries g (UiSchema.walk g registry depth) o target = .ok entries) :
    ∃ cs next, Assembled g (UiSchema.walk g registry depth) o cs target next entries := by
  have hf := hs.toForest
  unfold objectEntries at h
  obtain ⟨cs, hcs, h⟩ := bind_eq_ok_iff.1 h
  obtain ⟨next, hnext, h⟩ := bind_eq_ok_iff.1 h
  obtain ⟨hids, hnodes⟩ := children_ok hcs
  have hdistinct := hk.nodup_keys hf hcs
  have hfields := (childEntries_foldlM (extends_walk g registry depth) hnodes hdistinct hnext).1
  refine ⟨cs, next, hcs, hdistinct, fun x n hx hn => isIdentifier_of_owned hs hi hn ?_, htarget,
    (gathers_children hf hnodes hnext).congr fun x => exists_finds_iff hf hcs, hfields,
    (pure_eq_ok_iff.1 h).symm⟩
  rcases hx with ⟨c, hc, -, rfl⟩ | ⟨p, k, hp, hk, hgroup, hx⟩
  · exact ⟨_, hf.mem_childIds_iff.1 (hids ▸ List.mem_map_of_mem hc)⟩
  · exact hx.owned hf fun y hy => by cases hy

namespace Assembled

variable {walk : Walk} {o : NodeId} {cs : List (NodeId × Node NodeId)} {next : Members}

/-- The keys of the fields are those of the children that are fields. -/
theorem mem_fieldKeys_iff (h : Assembled g walk o cs target next entries) {k : String} :
    k ∈ fieldKeys cs ↔ ∃ x n, IsField cs x ∧ g.node? x = some n ∧ n.key = k := by
  have hnodes := (children_ok h.children).2
  rw [FormGraph.mem_fieldKeys_iff]
  constructor
  · rintro ⟨c, hc, hfield, rfl⟩
    exact ⟨c.1, c.2, ⟨c, hc, hfield, rfl⟩, hnodes c hc, rfl⟩
  · rintro ⟨_, n, ⟨c, hc, hfield, rfl⟩, hn, rfl⟩
    obtain rfl := Option.some.inj ((hnodes c hc).symm.trans hn)
    exact ⟨c, hc, hfield, rfl⟩

theorem isIdentifier_of_mem_fieldKeys (h : Assembled g walk o cs target next entries) {k : String}
    (hk : k ∈ fieldKeys cs) : Key.isIdentifier k = true := by
  obtain ⟨x, n, hx, hn, rfl⟩ := h.mem_fieldKeys_iff.1 hk
  exact h.identifier x n (Or.inl hx) hn

/-- The order is added under a name that is not there yet. -/
theorem order_notMem (h : Assembled g walk o cs target next entries) :
    "ui:order" ∉ Entries.names next := by
  rw [h.gathers.mem_names_iff]
  rintro (hmem | ⟨x, n, hx, hn, hkey⟩)
  · exact (h.own _ hmem).2 rfl
  · exact not_isOwn_of_isIdentifier (h.identifier x n hx hn) (hkey ▸ by decide)

/-- Adding the order changes nothing else. -/
theorem find?_eq (h : Assembled g walk o cs target next entries) {k : String} (hk : ¬ IsOwn k) :
    Entries.find? entries k = Entries.find? next k := by
  rw [h.result]
  split_ifs
  · rfl
  · rw [Entries.find?_put, if_neg]
    rintro rfl
    exact hk (by decide)

theorem order_eq (h : Assembled g walk o cs target next entries) :
    Entries.find? entries "ui:order" =
      if (fieldKeys cs).isEmpty then none else some (Value.ofStrings (fieldKeys cs ++ ["*"])) := by
  rw [h.result]
  split_ifs
  · exact Entries.find?_eq_none_iff.2 h.order_notMem
  · rw [Entries.find?_put, if_pos rfl, withWildcard_of_identifiers
      (fun k hk => h.isIdentifier_of_mem_fieldKeys hk) (nodup_fieldKeys h.distinct)]
    rfl

theorem mem_names_iff (h : Assembled g walk o cs target next entries) (k : String) :
    k ∈ Entries.names entries ∧ ¬ IsOwn k ↔
      k ∈ fieldKeys cs ∨ ∃ x n, FoundUnder g o x ∧ g.node? x = some n ∧ n.key = k := by
  have hgathered : ¬ IsOwn k → (k ∈ Entries.names entries ↔
      ∃ x n, (IsField cs x ∨ FoundUnder g o x) ∧ g.node? x = some n ∧ n.key = k) := by
    intro hown
    rw [Entries.mem_names_iff, h.find?_eq hown, ← Entries.mem_names_iff, h.gathers.mem_names_iff]
    exact or_iff_right fun hmem => hown (h.own k hmem).1
  have hsplit : (∃ x n, (IsField cs x ∨ FoundUnder g o x) ∧ g.node? x = some n ∧ n.key = k) ↔
      k ∈ fieldKeys cs ∨ ∃ x n, FoundUnder g o x ∧ g.node? x = some n ∧ n.key = k := by
    rw [h.mem_fieldKeys_iff]
    simp only [or_and_right, exists_or]
  rw [← hsplit]
  constructor
  · exact fun ⟨hk, hown⟩ => (hgathered hown).1 hk
  · rintro ⟨x, n, hx, hn, rfl⟩
    have hown := not_isOwn_of_isIdentifier (h.identifier x n hx hn)
    exact ⟨(hgathered hown).2 ⟨x, n, hx, hn, rfl⟩, hown⟩

end Assembled

/-- The entry of an object follows it, where so far something was said of the object itself. -/
theorem mirrors_of_objectEntries (hs : Sound g) (hk : Keyed g) (hi : Identified g) {depth : Nat}
    (hdepth : depth ≤ g.nodes.size + 1) {o : NodeId} (ho : g.kind? o = some .object)
    (htarget : OnlyOwn target)
    (h : objectEntries g (UiSchema.walk g registry depth) o target = .ok entries) :
    Mirrors g registry o entries := by
  obtain ⟨cs, next, ha⟩ := assembled_of_objectEntries hs hk hi htarget h
  obtain ⟨hids, hnodes⟩ := children_ok ha.children
  have hkeys := propertyKeys_of_children ha.children
  have hwalk : (UiSchema.walk g registry depth).Refines
      (UiSchema.walk g registry (g.nodes.size + 1)) := refines_of_le hdepth
  constructor
  case order_eq =>
    rw [hkeys]
    exact ha.order_eq
  case written =>
    intro cfg d n v hn hv
    have hkind : n.kind = .object := by
      obtain ⟨m, hm, hkind⟩ := g.kind?_eq_some_iff.1 ho
      rw [Option.some.inj (hn.symm.trans hm), hkind]
    obtain ⟨below, contents, hcontents, hproperties⟩ := Compile.find?_node_of_object hkind
      (show "properties" ∉ ["type", "title", "description", "default"] by decide) (by decide) hv
    obtain ⟨properties, hnames, hwritten⟩ :=
      Compile.find?_properties_objectBody ha.children ha.distinct hcontents
    refine ⟨properties, hnames.trans hkeys.symm, ?_⟩
    rw [hproperties, hwritten, hkeys]
    split_ifs <;> rfl
  case mem_names_iff =>
    rw [hkeys]
    exact ha.mem_names_iff
  case property_entry =>
    intro x n hx hn hfield
    obtain ⟨c, hc, rfl⟩ := List.mem_map.1 (hids ▸ hs.toForest.mem_childIds_iff.2 hx)
    obtain rfl := Option.some.inj ((hnodes c hc).symm.trans hn)
    obtain ⟨entry, hentry, hstands⟩ := ha.fields c hc hfield
    have hown := not_isOwn_of_isIdentifier (ha.identifier c.1 c.2 (Or.inl ⟨c, hc, hfield, rfl⟩) hn)
    exact ⟨entry, (ha.find?_eq hown).trans hstands, c.2, hn, hwalk.field hentry⟩
  case branch_entry =>
    intro k v hown hk hv
    rw [ha.find?_eq hown] at hv
    rcases ha.gathers.made k v hv with hv | ⟨x, n, entry, hx | hx, hn, hkey, hv, hentry⟩
    · exact absurd (ha.own k (Entries.mem_names_iff.2 (by rw [hv]; rfl))).1 hown
    · exact absurd (hkeys ▸ ha.mem_fieldKeys_iff.2 ⟨x, n, hx, hn, hkey⟩) hk
    · exact ⟨x, n, entry, hx, hn, hkey, hv, n, hn, hwalk.field hentry⟩

/-! ## Where the entries stand -/

/-- The entry of an object is that of its properties, where so far something was said of the object
itself. -/
theorem objectEntries_of_field {walk : Walk} {x : NodeId} {n : Node NodeId} {entry : Members}
    (hkind : n.kind = .object) (h : field g registry walk x n = .ok entry) :
    ∃ target, OnlyOwn target ∧ objectEntries g walk x target = .ok entry := by
  unfold field at h
  obtain ⟨own, hown, h⟩ := bind_eq_ok_iff.1 h
  cases hbody : n.body with
  | object a =>
    rw [hbody] at h
    refine ⟨_, OnlyOwn.put (OnlyOwn.put (onlyOwn_widgetEntry hown) _ ?_ ?_) _ ?_ ?_, h⟩
    all_goals decide
  | string | number | boolean | enum | array | group | definition | reference =>
    rw [Node.kind, hbody] at hkind
    cases hkind

/-- What stands in the entry of an array for its items is the entry of the first one. -/
theorem item_of_field {walk : Walk} {p x : NodeId} {n : Node NodeId} {entry item : Members}
    (hkind : n.kind = .array) (hx : (g.childIds p).head? = some x)
    (h : field g registry walk p n = .ok entry)
    (hitem : Entries.find? entry "items" = some (.obj item)) :
    ∃ m, g.node? x = some m ∧ walk.field x m = .ok item := by
  unfold field at h
  obtain ⟨own, hown, h⟩ := bind_eq_ok_iff.1 h
  cases hbody : n.body with
  | array a =>
    rw [hbody] at h
    obtain ⟨cs, hcs, h⟩ := bind_eq_ok_iff.1 h
    obtain ⟨hids, hnodes⟩ := children_ok hcs
    rw [← hids] at hx
    cases cs with
    | nil => cases hx
    | cons c cs =>
      obtain rfl := Option.some.inj hx
      obtain ⟨inner, hinner, h⟩ := bind_eq_ok_iff.1 h
      obtain rfl := pure_eq_ok_iff.1 h
      refine ⟨c.2, hnodes c List.mem_cons_self, ?_⟩
      have hown : OnlyOwn (Entries.put (withArrayOptions own) "ui:itemTitle" (itemTitle c.2)) :=
        ((onlyOwn_widgetEntry hown).put _ (by decide) (by decide)).put _ (by decide) (by decide)
      split_ifs at hitem
      · rw [hown.find?_eq_none (by decide)] at hitem
        cases hitem
      · rw [Entries.find?_put, if_pos rfl] at hitem
        cases hitem
        exact hinner
  | string | number | boolean | enum | object | group | definition | reference =>
    rw [Node.kind, hbody] at hkind
    cases hkind

/-- The entries of a UI document, and the nodes that they belong to. -/
inductive EntryAt (g : Graph) (registry : Registry) (document : Value) : NodeId → Members → Prop where
  /-- The document is the entry of the root. -/
  | root {entry : Members} (h : document = .obj entry) : EntryAt g registry document g.rootId entry
  /-- The entry of a property stands in that of the object, under the name of the property. -/
  | property {p x : NodeId} {n : Node NodeId} {above entry : Members}
    (above_at : EntryAt g registry document p above) (object : g.kind? p = some .object)
    (child : g.IsChild x p) (node : g.node? x = some n) (not_group : n.kind.isGroup = false)
    (stands : Entries.find? above n.key = some (.obj entry)) : EntryAt g registry document x entry
  /-- The entry of the items stands in that of the array. -/
  | item {p x : NodeId} {above entry : Members} (above_at : EntryAt g registry document p above)
    (array : g.kind? p = some .array) (first : (g.childIds p).head? = some x)
    (stands : Entries.find? above "items" = some (.obj entry)) : EntryAt g registry document x entry
  /-- The entry of a field found in a branch stands in that of the object under the name of the field,
  if it is this field that is described there. -/
  | branch {p x : NodeId} {n : Node NodeId} {above entry : Members}
    (above_at : EntryAt g registry document p above) (object : g.kind? p = some .object)
    (found : FoundUnder g p x) (node : g.node? x = some n)
    (stands : Entries.find? above n.key = some (.obj entry))
    (described : Describes g registry x entry) : EntryAt g registry document x entry

/-- The entry made of an object follows the object. -/
theorem mirrors_of_describes (hs : Sound g) (hk : Keyed g) (hi : Identified g) {o : NodeId}
    {entry : Members} (ho : g.kind? o = some .object) (h : Describes g registry o entry) :
    Mirrors g registry o entry := by
  obtain ⟨n, hn, h⟩ := h
  obtain ⟨m, hm, hkind⟩ := g.kind?_eq_some_iff.1 ho
  obtain rfl := Option.some.inj (hn.symm.trans hm)
  obtain ⟨target, htarget, h⟩ := objectEntries_of_field hkind h
  exact mirrors_of_objectEntries hs hk hi (Nat.le_succ _) ho htarget h

/-- A UI document follows the root. -/
theorem mirrors_of_root (hs : Sound g) (hk : Keyed g) (hi : Identified g) {document : Value}
    {entry : Members} (h : g.uiSchema registry = .ok document) (hentry : document = .obj entry) :
    Mirrors g registry g.rootId entry := by
  unfold uiSchema at h
  obtain ⟨n, hn, h⟩ := bind_eq_ok_iff.1 h
  obtain ⟨entries, hentries, h⟩ := bind_eq_ok_iff.1 h
  obtain rfl := pure_eq_ok_iff.1 h
  cases hentry
  have hn : g.node? g.rootId = some n := pointedAt_eq_ok_iff.1 hn
  have hroot : g.kind? g.rootId = some .object := g.kind?_eq_some_iff.2 ⟨n, hn, hs.root_kind hn⟩
  exact mirrors_of_objectEntries hs hk hi le_rfl hroot (fun k hk => absurd hk List.not_mem_nil)
    hentries

/-- Every entry but the one of the root is made of the field that it belongs to. -/
theorem EntryAt.describes (hs : Sound g) (hk : Keyed g) (hi : Identified g) {document : Value}
    (hui : g.uiSchema registry = .ok document) {x : NodeId} {entry : Members}
    (h : EntryAt g registry document x entry) :
    x = g.rootId ∧ document = .obj entry ∨ Describes g registry x entry := by
  induction h with
  | root h => exact Or.inl ⟨rfl, h⟩
  | @property p x n above entry _ object child node not_group stands ih =>
    have hmirrors : Mirrors g registry p above := by
      rcases ih with ⟨rfl, hdocument⟩ | ih
      · exact mirrors_of_root hs hk hi hui hdocument
      · exact mirrors_of_describes hs hk hi object ih
    obtain ⟨entry', hstands, hdescribes⟩ := hmirrors.property_entry x n child node not_group
    rw [stands] at hstands
    cases hstands
    exact Or.inr hdescribes
  | @item p x above entry _ array first stands ih =>
    obtain ⟨n, hn, hkind⟩ := g.kind?_eq_some_iff.1 array
    rcases ih with ⟨rfl, -⟩ | ⟨m, hm, habove⟩
    · exact absurd ((hs.root_kind hn).symm.trans hkind) (by decide)
    · obtain rfl := Option.some.inj (hn.symm.trans hm)
      obtain ⟨m, hm, hentry⟩ := item_of_field hkind first habove stands
      exact Or.inr ⟨m, hm, (refines_succ g registry g.nodes.size).field hentry⟩
  | branch _ _ _ _ _ described => exact Or.inr described

/-- Every entry of an object in the UI document of a reachable graph whose keys are identifiers follows
the object: the order of its properties, what it has entries of, and the properties first. -/
theorem mirrors_of_entryAt {s : IdSupply} (hg : Reachable (fun _ _ => True) g s) (hi : Identified g)
    {document : Value} (hui : g.uiSchema registry = .ok document) {o : NodeId} {entry : Members}
    (ho : g.kind? o = some .object) (h : EntryAt g registry document o entry) :
    Mirrors g registry o entry := by
  rcases h.describes hg.sound.1 hg.keyed hi hui with ⟨rfl, hdocument⟩ | hdescribes
  · exact mirrors_of_root hg.sound.1 hg.keyed hi hui hdocument
  · exact mirrors_of_describes hg.sound.1 hg.keyed hi ho hdescribes

/-- The items of an array are objects with a group before a property, and in a branch of the group is a
field with the key of the property. -/
theorem mirrors_property_behind_group :
    ∃ (g : Graph) (s : IdSupply) (document : Value) (entry : Members),
      Reachable (fun _ _ => True) g s ∧ Identified g ∧ g.uiSchema .standard = .ok document ∧
      g.kind? "n2" = some .object ∧ EntryAt g .standard document "n2" entry ∧
      Mirrors g .standard "n2" entry ∧ g.childIds "n2" = ["n3", "n7"] ∧
      g.propertyKeys "n2" = ["b"] ∧ FoundUnder g "n2" "n5" ∧ g.key? "n5" = some "b" ∧
      Entries.find? entry "b" = some (.obj [("ui:widget", .str "text")]) ∧
      "c" ∈ Entries.names entry := by
  have hproper : (Value.obj [("properties", .obj [("rows", .obj [("items", .obj [
      ("type", .str "object"),
      ("if", .obj [("properties", .obj [("a", .obj [("const", .int 1)])])]),
      ("then", .obj [("properties", .obj [("b", .obj [("type", .str "boolean")]),
        ("c", .obj [("type", .str "boolean")])])])])])])]).Proper :=
    Value.proper_of_everywhere (by decide)
  have hread : Reachable (fun _ _ => True) _ _ :=
    .document hproper (rfl : (decompile _ {}).run {} = .ok _)
  have hadded : Reachable (fun _ _ => True) _ _ :=
    .change (c := .add { key := .str "b", body := .string {} } "n2" .child none) hread trivial rfl
  obtain ⟨g, s, top, rows, entry, hg, hkeys, hui, ⟨hroot, hchild, harray, hkey, hrows⟩, hfirst, hitems,
      hobject, hrest⟩ :
      ∃ (g : Graph) (s : IdSupply) (top rows entry : Members), Reachable (fun _ _ => True) g s ∧
        (∀ e ∈ g.nodes.entries, Key.isIdentifier e.2.key = true) ∧
        g.uiSchema .standard = .ok (.obj top) ∧
        (g.kind? g.rootId = some .object ∧ g.IsChild "n1" g.rootId ∧ g.kind? "n1" = some .array ∧
          g.key? "n1" = some "rows" ∧ Entries.find? top "rows" = some (.obj rows)) ∧
        (g.childIds "n1").head? = some "n2" ∧ Entries.find? rows "items" = some (.obj entry) ∧
        g.kind? "n2" = some .object ∧ g.childIds "n2" = ["n3", "n7"] ∧
        g.propertyKeys "n2" = ["b"] ∧ FoundUnder g "n2" "n5" ∧ g.key? "n5" = some "b" ∧
        Entries.find? entry "b" = some (.obj [("ui:widget", .str "text")]) ∧
        "c" ∈ Entries.names entry := by
    refine ⟨_, _, _, _, _, hadded, by decide, rfl, ⟨rfl, rfl, rfl, rfl, rfl⟩, rfl, rfl, rfl, rfl, rfl,
      ⟨"n3", _, rfl, rfl, rfl, ?_⟩, rfl, rfl, by decide⟩
    exact .group (.branch List.mem_cons_self
      (.within (x := "n5") (k := .boolean) (by decide) rfl rfl rfl)) (.field "n5")
  have hi : Identified g := fun x k hx _ => by
    obtain ⟨n, hn, rfl⟩ := Option.map_eq_some_iff.1 hx
    exact hkeys (x, n) (Table.mem_entries_iff.2 hn)
  obtain ⟨n, hn, hkind⟩ := g.kind?_eq_some_iff.1 harray
  have hname : n.key = "rows" := Option.some.inj ((key?_of_node? hn).symm.trans hkey)
  have hat : EntryAt g .standard (.obj top) "n1" rows :=
    .property (.root rfl) hroot hchild hn (by rw [hkind]; rfl) (by rw [hname]; exact hrows)
  have hentry : EntryAt g .standard (.obj top) "n2" entry := .item hat harray hfirst hitems
  exact ⟨g, s, .obj top, entry, hg, hi, hui, hobject, hentry,
    mirrors_of_entryAt hg hi hui hobject hentry, hrest⟩

end UiSchema

end FormGraph

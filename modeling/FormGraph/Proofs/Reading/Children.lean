import FormGraph.Proofs.Reading.Usable
import Mathlib.Data.List.Forall2

/-!
# Which schemas the children of a node are read from

The children of an object are its properties in order and behind them its groups: the `if` block, the
groups in its `allOf` list, the `anyOf` and the `oneOf` list (`ownGroups`). When an object is read
calmly there is one child for each of them, read from it (`ReadObject`). The child of an array is read
from its `items`.
-/

namespace FormGraph

namespace Decompile

open Reading Noted

variable {below : Reader} {schema : Members} {path : String}

/-! ## What the children are read from -/

/-- The properties that an object lists. -/
def propertiesIn (schema : Members) : Members :=
  match Value.member schema "properties" with
  | .obj properties => properties
  | _ => []

/-- The members of the `if` block of an object. -/
def blockIn (schema : Members) : Members :=
  clauseKeywords.filterMap fun k => (Entries.find? schema k).map fun v => (k, v)

/-- The `if` block of an object, when it has one that can be read. -/
def blockGroup (schema : Members) : List (GroupKind × Members) :=
  if Entries.has schema "if" = true ∧ groupKind? (.obj (blockIn schema)) = some .ifBlock then
    [(.ifBlock, blockIn schema)]
  else []

/-- The group that an entry of an `allOf` list is read as, if it is. -/
def entryGroup? (entry : Value) : Option (GroupKind × Members) :=
  match entry, groupKind? entry with
  | .obj members, some kind => some (kind, members)
  | _, _ => none

/-- The groups in the `allOf` list of an object. -/
def entryGroups (schema : Members) : List (GroupKind × Members) :=
  match Value.member schema "allOf" with
  | .list items => items.filterMap entryGroup?
  | _ => []

/-- The `anyOf` or `oneOf` list of an object, when it can be read as a group. -/
def listGroup (schema : Members) (kind : GroupKind) : List (GroupKind × Members) :=
  match Entries.find? schema kind.name with
  | none => []
  | some entries =>
    if (groupKind? (.obj [(kind.name, entries)])).isSome then [(kind, [(kind.name, entries)])]
    else []

/-- The groups of an object, in the order in which they become children. -/
def ownGroups (schema : Members) : List (GroupKind × Members) :=
  blockGroup schema ++ entryGroups schema ++ listGroup schema .anyOf ++ listGroup schema .oneOf

/-- The outline is read from a property. -/
def ReadField (below : Reader) (p : String × Value) (o : Outline) : Prop :=
  ∃ required path, (below ⟨.field, p.2, p.1, required, path⟩).Yields (some o)

/-- The outline is read from a group. -/
def ReadGroup (below : Reader) (c : GroupKind × Members) (o : Outline) : Prop :=
  ∃ taken path, (group below c.1 c.2 taken path).Yields o

/-- The keywords that tell what hangs below an object. -/
def objectKeywords : List String :=
  ["required", "properties", "if", "then", "else", "allOf", "anyOf", "oneOf"]

/-- What is read of an object: its fields and its groups. -/
structure ReadObject (below : Reader) (schema : Members) (parts : ObjectParts) : Prop where
  /-- The fields are read from the properties, and the groups from those of the object. -/
  children : ∃ fields groups, parts.children = fields ++ groups ∧
    List.Forall₂ (ReadField below) (propertiesIn schema) fields ∧
    List.Forall₂ (ReadGroup below) (ownGroups schema) groups
  /-- No other keywords are read. -/
  consumed : parts.consumed ⊆ objectKeywords
  /-- Only of the `allOf` list something is kept. -/
  kept : Entries.names parts.kept ⊆ ["allOf"]

/-! ## One step after the other -/

/-- A step adds groups, each read from one of those that are listed. -/
structure ObjectParts.Adds (below : Reader) (groups : List (GroupKind × Members))
    (parts next : ObjectParts) : Prop where
  /-- The groups come behind the children there are. -/
  children : ∃ added, next.children = parts.children ++ added ∧
    List.Forall₂ (ReadGroup below) groups added
  /-- Only keywords of children are read. -/
  consumed : parts.consumed ⊆ objectKeywords → next.consumed ⊆ objectKeywords
  /-- Only of the `allOf` list something is kept. -/
  kept : Entries.names parts.kept ⊆ ["allOf"] → Entries.names next.kept ⊆ ["allOf"]

namespace ObjectParts

variable {parts next last : ObjectParts} {groups more : List (GroupKind × Members)}

theorem Adds.none (below : Reader) (parts : ObjectParts) : parts.Adds below [] parts :=
  ⟨⟨[], (List.append_nil _).symm, .nil⟩, id, id⟩

theorem Adds.trans (h : parts.Adds below groups next) (h' : next.Adds below more last) :
    parts.Adds below (groups ++ more) last := by
  obtain ⟨added, hc, hg⟩ := h.children
  obtain ⟨added', hc', hg'⟩ := h'.children
  refine ⟨⟨added ++ added', ?_, List.rel_append hg hg'⟩, h'.consumed ∘ h.consumed,
    h'.kept ∘ h.kept⟩
  rw [hc', hc, List.append_assoc]

theorem adds_childGroup {kind : GroupKind} {consumed : List String}
    (hkeywords : consumed ⊆ objectKeywords)
    (hc : (childGroup below kind schema path consumed parts).Calm) :
    parts.Adds below [(kind, schema)] (childGroup below kind schema path consumed parts).value :=
  ⟨⟨[_], rfl, .cons ⟨_, _, rfl, (calm_bind_iff.1 hc).1⟩ .nil⟩,
    fun h => List.append_subset.2 ⟨h, hkeywords⟩, id⟩

theorem names_blockIn (schema : Members) : Entries.names (blockIn schema) ⊆ clauseKeywords := by
  intro k hk
  obtain ⟨e, he, rfl⟩ := List.mem_map.1 hk
  obtain ⟨keyword, hmem, hfind⟩ := List.mem_filterMap.1 he
  obtain ⟨v, _, rfl⟩ := Option.map_eq_some_iff.1 hfind
  exact hmem

theorem adds_ownBlock (hc : (ownBlock below schema path parts).Calm) :
    parts.Adds below (blockGroup schema) (ownBlock below schema path parts).value := by
  unfold ownBlock at hc ⊢
  unfold blockGroup
  by_cases hif : Entries.has schema "if" = true
  · rw [if_pos hif] at hc ⊢
    dsimp only at hc ⊢
    by_cases hkind : groupKind? (.obj (blockIn schema)) = some .ifBlock
    · rw [if_pos ⟨hif, hkind⟩]
      have hcalm := if_pos hkind ▸ hc
      have hkeywords : Entries.names (blockIn schema) ⊆ objectKeywords :=
        List.Subset.trans (names_blockIn schema) (by decide)
      exact (if_pos hkind).symm ▸ adds_childGroup hkeywords hcalm
    · rw [if_neg fun h => hkind h.2]
      exact (if_neg hkind).symm ▸ Adds.none below parts
  · rw [if_neg hif, if_neg fun h => hif h.1]
    exact .none below parts

theorem adds_ownListGroup {kind : GroupKind} (hkind : kind.name ∈ objectKeywords)
    (hc : (ownListGroup below schema path parts kind).Calm) :
    parts.Adds below (listGroup schema kind)
      (ownListGroup below schema path parts kind).value := by
  unfold ownListGroup at hc ⊢
  unfold listGroup
  cases hfind : Entries.find? schema kind.name with
  | none => exact .none below parts
  | some entries =>
    simp only [hfind] at hc ⊢
    split
    · next hsome =>
      rw [if_pos hsome] at hc
      exact adds_childGroup (fun k hk => List.mem_singleton.1 hk ▸ hkind) hc
    · exact .none below parts

theorem adds_allOfEntries (entries : List (Value × Nat)) :
    ∀ acc : ObjectParts × List Value, (entries.foldlM (allOfEntry below path) acc).Calm →
      acc.1.Adds below (entries.filterMap fun p => entryGroup? p.1)
        (entries.foldlM (allOfEntry below path) acc).value.1 := by
  induction entries with
  | nil => exact fun acc _ => .none below acc.1
  | cons p entries ih =>
    intro acc hc
    rw [List.foldlM_cons, calm_bind_iff] at hc
    rw [List.foldlM_cons, value_bind]
    have hstep : acc.1.Adds below (entryGroup? p.1).toList (allOfEntry below path acc p).value.1 := by
      have hcalm := hc.1
      obtain ⟨v, i⟩ := p
      unfold allOfEntry at hcalm ⊢
      unfold entryGroup?
      cases v with
      | obj members =>
        cases hkind : groupKind? (.obj members) with
        | some kind =>
          simp only [hkind] at hcalm ⊢
          exact adds_childGroup (List.nil_subset _) (calm_bind_iff.1 hcalm).1
        | none => exact .none below acc.1
      | null | bool _ | int _ | float _ | str _ | list _ => exact .none below acc.1
    have hall := hstep.trans (ih _ hc.2)
    cases hentry : entryGroup? p.1 with
    | none =>
      simp only [List.filterMap_cons, hentry]
      rwa [hentry] at hall
    | some c =>
      simp only [List.filterMap_cons, hentry]
      rwa [hentry] at hall

theorem adds_ownAllOf (hc : (ownAllOf below schema path parts).Calm) :
    parts.Adds below (entryGroups schema) (ownAllOf below schema path parts).value := by
  rw [ownAllOf_eq] at hc ⊢
  unfold entryGroups
  cases hmember : Value.member schema "allOf" with
  | list items =>
    simp only [hmember] at hc ⊢
    have hread := adds_allOfEntries items.zipIdx _ (calm_bind_iff.1 hc).1
    have hgroups : (items.zipIdx.filterMap fun p => entryGroup? p.1) =
        items.filterMap entryGroup? := by
      rw [← List.zipIdx_map_fst 0 items, List.filterMap_map, List.zipIdx_map_fst]
      rfl
    rw [hgroups] at hread
    rw [value_bind]
    generalize (items.zipIdx.foldlM (allOfEntry below path)
      ({ parts with consumed := parts.consumed ++ ["allOf"] }, [])).value = acc at hread ⊢
    have hconsumed : parts.consumed ⊆ objectKeywords → acc.1.consumed ⊆ objectKeywords := fun h =>
      hread.consumed (List.append_subset.2 ⟨h, by decide⟩)
    unfold keepOthers
    split
    · exact ⟨hread.children, hconsumed, hread.kept⟩
    · exact ⟨hread.children, hconsumed, fun _ => List.Subset.refl _⟩
  | null | bool _ | int _ | float _ | str _ | obj _ => exact .none below parts

end ObjectParts

/-! ## Objects -/

/-- Whatever is read calmly, there is an outline of it. -/
def SomeReader (below : Reader) : Prop := ∀ inner, (below inner).Calm → (below inner).value.isSome

theorem someReader_reader (tupleItems : TupleItems) (names : List String) (depth : Nat) :
    SomeReader (reader tupleItems names depth) := by
  intro inner hc
  cases depth with
  | zero => exact absurd hc not_calm_unusable
  | succ depth =>
    unfold reader schema at hc ⊢
    cases hschema : inner.schema with
    | obj members =>
      dsimp only
      split
      · rfl
      · split <;> rfl
    | null | bool _ | int _ | float _ | str _ | list _ =>
      rw [hschema] at hc
      exact absurd hc (not_calm_issue_bind _ _)

/-- There is a field for every property. -/
theorem fields_of_calm (hs : SomeReader below) (required : List String) (properties : Members)
    (hc : (properties.mapM (property below required path)).Calm) :
    List.Forall₂ (ReadField below) properties
      ((properties.mapM (property below required path)).value.filterMap id) := by
  rw [calm_mapM_iff] at hc
  rw [value_mapM]
  induction properties with
  | nil => exact .nil
  | cons p properties ih =>
    have hread := (calm_bind_iff.1 (hc p List.mem_cons_self)).2
    obtain ⟨o, ho⟩ := Option.isSome_iff_exists.1 (hs _ hread)
    have hvalue : (property below required path p).value = some o := ho
    rw [List.map_cons, hvalue, List.filterMap_cons_some (f := id) (b := o) rfl]
    exact .cons ⟨_, _, ho, hread⟩ (ih fun q hq => hc q (List.mem_cons_of_mem _ hq))

/-- When an object is read calmly there is a child for each of its properties and groups. -/
theorem readObject_of_calm (hs : SomeReader below) (hc : (objectParts below schema path).Calm) :
    ReadObject below schema (objectParts below schema path).value := by
  unfold objectParts at hc ⊢
  simp only [value_bind, calm_bind_iff] at hc ⊢
  obtain ⟨_, hproperties, hfields, _, hblock, hallOf, hanyOf, honeOf⟩ := hc
  have hrequired : (requiredOf schema path).value.2 ⊆ objectKeywords := by
    unfold requiredOf
    split
    · exact List.nil_subset _
    · split
      · show ["required"] ⊆ objectKeywords
        decide
      · exact List.nil_subset _
    · exact List.nil_subset _
  have hread : (propertiesOf schema path).value.1 = propertiesIn schema ∧
      (propertiesOf schema path).value.2 ⊆ objectKeywords := by
    unfold propertiesOf propertiesIn
    split
    · next heq =>
      rw [heq]
      exact ⟨rfl, List.nil_subset _⟩
    · next heq =>
      rw [heq]
      refine ⟨rfl, ?_⟩
      show ["properties"] ⊆ objectKeywords
      decide
    · next hnot hnobj =>
      refine ⟨?_, List.nil_subset _⟩
      split
      · next heq => exact (hnobj _ heq).elim
      · rfl
  rw [hread.1] at hfields hblock hallOf hanyOf honeOf ⊢
  have hall := fields_of_calm hs _ _ hfields
  generalize (requiredOf schema path).value = req at hrequired hfields hblock hallOf hanyOf honeOf hall ⊢
  generalize hstart : ({ children := _, consumed := req.2 ++ (propertiesOf schema path).value.2 } :
    ObjectParts) = start at hblock hallOf hanyOf honeOf ⊢
  have hadds := (((ObjectParts.adds_ownBlock hblock).trans (ObjectParts.adds_ownAllOf hallOf)).trans
    (ObjectParts.adds_ownListGroup (by decide) hanyOf)).trans
    (ObjectParts.adds_ownListGroup (by decide) honeOf)
  obtain ⟨groups, hchildren, hgroups⟩ := hadds.children
  have hstartChildren := congrArg ObjectParts.children hstart
  have hstartConsumed := congrArg ObjectParts.consumed hstart
  have hstartKept := congrArg ObjectParts.kept hstart
  dsimp only at hstartChildren hstartConsumed hstartKept
  refine ⟨⟨_, groups, hchildren, hstartChildren ▸ hall, hgroups⟩, hadds.consumed ?_, hadds.kept ?_⟩
  · rw [← hstartConsumed]
    exact List.append_subset.2 ⟨hrequired, hread.2⟩
  · rw [← hstartKept]
    exact List.nil_subset _

/-! ## Arrays -/

/-- The schema of the items of an array, if there is one; of a list of schemas the first one. -/
def itemIn? (schema : Members) : Option Value :=
  match Entries.find? schema "items" with
  | some (.list schemas) => schemas.head?
  | items => items

/-- The outline is read from the schema of the items. -/
def ReadItem (below : Reader) (v : Value) (o : Outline) : Prop :=
  ∃ key path, (below ⟨.content, v, key, false, path⟩).Yields (some o)

theorem itemSchema_of_calm {tupleItems : TupleItems} {items : Value}
    (hc : (itemSchema tupleItems items path).Calm) :
    (itemSchema tupleItems items path).value =
      match items with
      | .list schemas => schemas.head?
      | v => some v := by
  cases items with
  | list schemas =>
    cases tupleItems with
    | reject => exact absurd hc (not_calm_issue_bind _ _)
    | first => rfl
  | null | bool _ | int _ | float _ | str _ | obj _ => rfl

/-- When an array is read calmly its item is read from the schema of its items. -/
theorem item_of_calm (hs : SomeReader below) {tupleItems : TupleItems}
    (hc : (arrayItem below tupleItems schema path).Calm) :
    Option.Rel (ReadItem below) (itemIn? schema) (arrayItem below tupleItems schema path).value := by
  unfold arrayItem at hc ⊢
  unfold itemIn?
  cases hfind : Entries.find? schema "items" with
  | none => exact .none
  | some items =>
    simp only [hfind] at hc ⊢
    obtain ⟨hschema, hitem⟩ := calm_bind_iff.1 hc
    have hvalue := itemSchema_of_calm hschema
    rw [value_bind]
    generalize (itemSchema tupleItems items (path ++ "/items")).value = item at hvalue hitem ⊢
    have hin : (match some items with
        | some (.list schemas) => schemas.head?
        | items => items) = item := by
      rw [hvalue]
      cases items <;> rfl
    rw [hin]
    cases item with
    | none => exact .none
    | some v =>
      cases v with
      | obj members =>
        obtain ⟨o, ho⟩ := Option.isSome_iff_exists.1 (hs _ hitem)
        dsimp only
        rw [ho]
        exact .some ⟨_, _, ho, hitem⟩
      | null | bool _ | int _ | float _ | str _ | list _ =>
        exact absurd hitem (not_calm_issue_bind _ _)

end Decompile

end FormGraph

import FormGraph.Proofs.ImportTotal
import FormGraph.Proofs.Reading.Deeper

/-!
# Every problem is reported at once

What is noted of one part of a document does not depend on what was read in another: not on the keys
that are taken, nor on the keywords that were read, nor on other notes. So a document is objected to for
what is wrong with any of its properties, read with all else that the document says but without the
other properties. It is refused exactly when one of these readings is, for all the issues of all of them
and no others (`refused_iff_of_each_property`).
-/

namespace FormGraph

/-! ## What is worse than a warning -/

/-- Whether a note is worse than a warning. -/
def ReadingNote.isObjection : ReadingNote → Bool
  | .warning _ => false
  | _ => true

namespace Noted

variable {α β : Type}

/-- The notes that are worse than a warning, in order. -/
def objections (x : Reading α) : List ReadingNote := x.notes.filter ReadingNote.isObjection

@[simp] theorem objections_pure (a : α) : objections (pure a : Reading α) = [] := rfl

@[simp] theorem objections_bind (x : Reading α) (f : α → Reading β) :
    objections (x >>= f) = x.objections ++ (f x.value).objections := by
  unfold objections
  rw [notes_bind, List.filter_append]

@[simp] theorem objections_warnIf (reason : Bool) (text : String) :
    (Reading.warnIf reason text).objections = [] := by
  unfold Reading.warnIf
  split <;> rfl

theorem objections_mapM (f : α → Reading β) (as : List α) :
    objections (as.mapM f) = as.flatMap fun a => (f a).objections := by
  unfold objections
  rw [notes_mapM, List.filter_flatMap]

theorem objections_forM (f : α → Reading PUnit) (as : List α) :
    objections (as.forM f) = as.flatMap fun a => (f a).objections := by
  unfold objections
  rw [notes_forM, List.filter_flatMap]

/-- Steps that object alike, whatever was gathered before. -/
theorem objections_foldlM {f : β → α → Reading β} {g : α → List ReadingNote} {as : List α}
    (h : ∀ b, ∀ a ∈ as, (f b a).objections = g a) (b : β) :
    objections (as.foldlM f b) = as.flatMap g := by
  induction as generalizing b with
  | nil => rfl
  | cons a as ih =>
    rw [List.foldlM_cons, objections_bind, h b a List.mem_cons_self,
      ih fun b a ha => h b a (List.mem_cons_of_mem _ ha), List.flatMap_cons]

theorem usable_iff_objections {x : Reading α} : x.Usable ↔ .unusable ∉ x.objections := by
  unfold Usable All objections
  rw [List.mem_filter]
  exact ⟨fun h hmem => h _ hmem.1 rfl, fun h n hn heq => h ⟨heq ▸ hn, rfl⟩⟩

/-- The issues are objections. -/
theorem mem_issues_iff {x : Reading α} {text : String} :
    text ∈ x.notes.filterMap ReadingNote.issue? ↔ .issue text ∈ x.objections := by
  unfold objections
  rw [List.mem_filterMap, List.mem_filter]
  constructor
  · rintro ⟨note, hnote, htext⟩
    cases note with
    | issue t => exact ⟨Option.some.inj htext ▸ hnote, rfl⟩
    | warning | unusable => cases htext
  · exact fun h => ⟨_, h.1, rfl⟩

end Noted

namespace Decompile

open Reading Noted

variable {below : Reader}

/-! ## Nodes and groups -/

/-- What is objected to in the texts of a node. -/
def textObjections (schema : Members) (path : String) : List ReadingNote :=
  (textOf schema "title" path).objections ++ (textOf schema "description" path).objections

theorem objections_nodeOf (key : String) (body : Body Nat) (schema : Members)
    (consumed : List String) (kept : Members) (required : Bool) (path : String) :
    (nodeOf key body schema consumed kept required path).objections = textObjections schema path := by
  have hleft : ∀ consumed, (leftovers body.kind schema consumed path).objections = [] := by
    intro consumed
    unfold leftovers
    simp only [objections_bind, objections_forM, objections_warnIf, objections_pure,
      List.append_nil]
    exact List.flatMap_eq_nil_iff.2 fun _ _ => rfl
  unfold nodeOf textObjections
  simp only [objections_bind, objections_pure, hleft, List.nil_append, List.append_nil]

/-- A group is objected to whatever keys are taken. -/
theorem objections_group (kind : GroupKind) (schema : Members) (taken taken' : List String)
    (path : String) :
    (group below kind schema taken path).objections =
      (group below kind schema taken' path).objections := by
  rw [group_eq, group_eq]
  simp only [objections_bind, objections_nodeOf, objections_pure]

theorem objections_childGroup (kind : GroupKind) (schema : Members) (path : String)
    (consumed : List String) (parts parts' : ObjectParts) :
    (childGroup below kind schema path consumed parts).objections =
      (childGroup below kind schema path consumed parts').objections := by
  unfold childGroup
  simp only [objections_bind, objections_pure]
  rw [objections_group]

/-! ## The groups of an object -/

theorem objections_ownBlock (schema : Members) (path : String) (parts parts' : ObjectParts) :
    (ownBlock below schema path parts).objections =
      (ownBlock below schema path parts').objections := by
  unfold ownBlock
  dsimp only
  split_ifs
  · exact objections_childGroup _ _ _ _ _ _
  · rfl
  · rfl

theorem objections_ownAllOf (schema : Members) (path : String) (parts parts' : ObjectParts) :
    (ownAllOf below schema path parts).objections =
      (ownAllOf below schema path parts').objections := by
  have hentry : ∀ acc acc' : ObjectParts × List Value, ∀ p,
      (allOfEntry below path acc p).objections = (allOfEntry below path acc' p).objections := by
    intro acc acc' p
    unfold allOfEntry
    split
    · simp only [objections_bind, objections_pure]
      rw [objections_childGroup]
    · rfl
  have hkeep : ∀ acc, (keepOthers path acc).objections = [] := by
    intro acc
    unfold keepOthers
    split <;> rfl
  rw [ownAllOf_eq, ownAllOf_eq]
  split
  · rw [objections_bind, objections_bind, hkeep, hkeep,
      objections_foldlM (fun acc p _ => hentry acc ({}, []) p),
      objections_foldlM (fun acc p _ => hentry acc ({}, []) p)]
  · rfl
  · rfl

theorem objections_ownListGroup (schema : Members) (path : String) (parts parts' : ObjectParts)
    (kind : GroupKind) :
    (ownListGroup below schema path parts kind).objections =
      (ownListGroup below schema path parts' kind).objections := by
  unfold ownListGroup
  split
  · rfl
  · dsimp only
    split_ifs
    · exact objections_childGroup _ _ _ _ _ _
    · rfl

/-- What is objected to in the groups of an object. -/
def groupObjections (below : Reader) (schema : Members) (path : String) : List ReadingNote :=
  (ownBlock below schema path {}).objections ++ ((ownAllOf below schema path {}).objections ++
    ((ownListGroup below schema path {} .anyOf).objections ++
      (ownListGroup below schema path {} .oneOf).objections))

/-- An object is objected to for its lists of properties and required names, for its properties and for
its groups. -/
theorem objections_objectParts (schema : Members) (path : String) :
    (objectParts below schema path).objections =
      (requiredOf schema path).objections ++ ((propertiesOf schema path).objections ++
        ((propertiesOf schema path).value.1.flatMap (fun p =>
          (property below (requiredOf schema path).value.1 path p).objections) ++
          groupObjections below schema path)) := by
  unfold objectParts groupObjections
  simp only [objections_bind, objections_mapM, objections_warnIf, List.nil_append]
  rw [objections_ownBlock schema path _ {}, objections_ownAllOf schema path _ {},
    objections_ownListGroup schema path _ {} .anyOf, objections_ownListGroup schema path _ {} .oneOf]

/-! ## Documents that differ in their properties -/

section

variable {d d' : Members} (h : ∀ name, name ≠ "properties" → Entries.find? d' name = Entries.find? d name)

include h

theorem member_of_same {name : String} (hname : name ≠ "properties") :
    Value.member d' name = Value.member d name := by
  unfold Value.member
  rw [h name hname]

theorem rootTypeIssue_of_same : rootTypeIssue d' = rootTypeIssue d := by
  unfold rootTypeIssue
  rw [member_of_same h (by decide)]

theorem definitionTable_of_same : definitionTable d' = definitionTable d := by
  unfold definitionTable
  rw [h _ (by decide)]

theorem requiredOf_of_same (path : String) : requiredOf d' path = requiredOf d path := by
  unfold requiredOf
  rw [h _ (by decide)]

theorem textObjections_of_same (path : String) : textObjections d' path = textObjections d path := by
  unfold textObjections textOf
  rw [member_of_same h (by decide), member_of_same h (by decide)]

theorem groupObjections_of_same (path : String) :
    groupObjections below d' path = groupObjections below d path := by
  have hblock : (clauseKeywords.filterMap fun k => (Entries.find? d' k).map fun v => (k, v)) =
      clauseKeywords.filterMap fun k => (Entries.find? d k).map fun v => (k, v) := by
    have hnames : ∀ k ∈ clauseKeywords, k ≠ "properties" := by decide
    exact List.filterMap_congr fun k hk => by rw [h k (hnames k hk)]
  unfold groupObjections ownBlock ownAllOf ownListGroup Entries.has
  rw [hblock, h "if" (by decide), member_of_same h (by decide), h GroupKind.anyOf.name (by decide),
    h GroupKind.oneOf.name (by decide)]

end

/-! ## Documents -/

/-- The reader for the schemas within a document, down to a depth. -/
def documentReader (tupleItems : TupleItems) (depth : Nat) (document : Members) : Reader :=
  reader tupleItems (Entries.names (definitionTable document).value) depth

/-- Read a whole document, down to a depth. -/
def outlineAt (tupleItems : TupleItems) (depth : Nat) (document : Members) :
    Reading DocumentOutline := do
  rootTypeIssue document
  let table ← definitionTable document
  let definitions ← table.mapM (definitionOf (documentReader tupleItems depth document))
  let parts ← objectParts (documentReader tupleItems depth document) document "#"
  let n ← nodeOf rootName (Body.ofFragment .object document) document
    (rootKeywords ++ parts.consumed) parts.kept false "#"
  return ⟨definitions, .mk n (parts.children.map fun o => (.child, o))⟩

theorem outline_eq_outlineAt (tupleItems : TupleItems) (document : Members) :
    outline tupleItems document = outlineAt tupleItems (Value.obj document).depth document :=
  outline_eq tupleItems document

theorem persists_outlineAt (tupleItems : TupleItems) {depth depth' : Nat} (h : depth ≤ depth')
    (document : Members) :
    Persists (outlineAt tupleItems depth document) (outlineAt tupleItems depth' document) := by
  have hb : (documentReader tupleItems depth document).Persists
      (documentReader tupleItems depth' document) := persists_reader tupleItems _ h
  unfold outlineAt
  refine (Persists.refl _).bind fun _ => (Persists.refl _).bind fun table => ?_
  refine (Persists.mapM (persists_definitionOf hb)).bind fun _ => ?_
  exact (persists_objectParts hb document "#").bind fun _ => .refl _

/-- What is objected to in a document outside of its properties. -/
def outsideObjections (tupleItems : TupleItems) (depth : Nat) (document : Members) :
    List ReadingNote :=
  (rootTypeIssue document).objections ++ (definitionTable document).objections ++
    ((definitionTable document).value.flatMap fun e =>
      (definitionOf (documentReader tupleItems depth document) e).objections) ++
    (requiredOf document "#").objections ++
    groupObjections (documentReader tupleItems depth document) document "#" ++
    textObjections document "#"

/-- What is objected to in a property of a document. -/
def propertyObjections (tupleItems : TupleItems) (depth : Nat) (document : Members)
    (p : String × Value) : List ReadingNote :=
  (property (documentReader tupleItems depth document) (requiredOf document "#").value.1 "#" p).objections

/-- A document is objected to for one of its properties or for something outside of them. -/
theorem mem_objections_outlineAt {tupleItems : TupleItems} {depth : Nat}
    {document properties : Members}
    (hfind : Entries.find? document "properties" = some (.obj properties)) {note : ReadingNote} :
    note ∈ (outlineAt tupleItems depth document).objections ↔
      note ∈ outsideObjections tupleItems depth document ∨
        ∃ p ∈ properties, note ∈ propertyObjections tupleItems depth document p := by
  have hproperties : propertiesOf document "#" = pure (properties, ["properties"]) := by
    unfold propertiesOf
    rw [member_of_find? hfind]
  unfold outlineAt outsideObjections propertyObjections
  simp only [objections_bind, objections_pure, objections_mapM, objections_objectParts, hproperties,
    objections_nodeOf, value_pure, List.mem_append, List.mem_flatMap, List.not_mem_nil, false_or,
    or_false]
  exact Iff.of_eq (by ac_rfl)

/-- Outside of the properties, documents are objected to alike that differ only there; so is a property
that they have in common. -/
theorem objections_of_same {d d' : Members}
    (h : ∀ name, name ≠ "properties" → Entries.find? d' name = Entries.find? d name)
    (tupleItems : TupleItems) (depth : Nat) :
    outsideObjections tupleItems depth d' = outsideObjections tupleItems depth d ∧
      propertyObjections tupleItems depth d' = propertyObjections tupleItems depth d := by
  have hreader : documentReader tupleItems depth d' = documentReader tupleItems depth d := by
    unfold documentReader
    rw [definitionTable_of_same h]
  unfold outsideObjections propertyObjections
  rw [hreader, rootTypeIssue_of_same h, definitionTable_of_same h, requiredOf_of_same h,
    groupObjections_of_same h, textObjections_of_same h]
  exact ⟨rfl, rfl⟩

end Decompile

/-! ## Refusals -/

/-- A document was refused as malformed, for these issues. -/
def RefusedFor {α : Type} (x : Except Fault α) (issues : List String) : Prop :=
  ∃ warnings, x = refuse (.malformed issues warnings)

theorem refusedFor_map_iff {α β : Type} {x : Except Fault α} {f : α → β} {issues : List String} :
    RefusedFor (f <$> x) issues ↔ RefusedFor x issues := by
  cases x with
  | ok a =>
    constructor
    · rintro ⟨warnings, h⟩
      cases h
    · rintro ⟨warnings, h⟩
      cases h
  | error e =>
    constructor
    · rintro ⟨warnings, h⟩
      exact ⟨warnings, congrArg Except.error (Except.error.inj h)⟩
    · rintro ⟨warnings, h⟩
      exact ⟨warnings, congrArg Except.error (Except.error.inj h)⟩

theorem RefusedFor.unique {α : Type} {x : Except Fault α} {issues issues' : List String}
    (h : RefusedFor x issues) (h' : RefusedFor x issues') : issues' = issues := by
  obtain ⟨warnings, rfl⟩ := h
  obtain ⟨warnings', h'⟩ := h'
  cases h'
  rfl

namespace Graph

open Decompile Noted

/-- The document with one of the properties only, and with everything else that it says. -/
def withOnly (document properties : Members) (key : String) : Members :=
  Entries.put document "properties" (.obj (properties.filter fun p => p.1 = key))

/-- A document that can be read is refused for its issues, if it has any. -/
theorem refusedFor_decompile_iff {document : Members} {cfg : DocumentConfig} {s : IdSupply}
    (hs : Settles ((decompile (.obj document) cfg).run s)) {issues : List String} :
    RefusedFor ((decompile (.obj document) cfg).run s) issues ↔
      issues ≠ [] ∧
        issues = (outline cfg.tupleItems document).notes.filterMap ReadingNote.issue? := by
  rw [settles_decompile_iff, settles_outlineOf_iff] at hs
  have hunusable : ¬ (outline cfg.tupleItems document).notes.contains .unusable = true := by
    rw [List.contains_iff_mem]
    exact fun hmem => hs _ hmem rfl
  rw [run_decompile, refusedFor_map_iff]
  unfold outlineOf
  dsimp only
  rw [if_neg hunusable]
  split
  · next hnone =>
    rw [List.isEmpty_iff] at hnone
    refine iff_of_false ?_ fun h => h.1 (h.2.trans hnone)
    rintro ⟨warnings, h⟩
    cases h
  · next hsome =>
    rw [List.isEmpty_iff] at hsome
    constructor
    · rintro ⟨warnings, h⟩
      cases h
      exact ⟨hsome, rfl⟩
    · rintro ⟨_, rfl⟩
      exact ⟨_, rfl⟩

/-- An issue that a document is refused for is one that was noted. -/
theorem exists_refusedFor_iff {document : Members} {cfg : DocumentConfig} {s : IdSupply}
    (hs : Settles ((decompile (.obj document) cfg).run s)) {text : String} :
    (∃ issues, RefusedFor ((decompile (.obj document) cfg).run s) issues ∧ text ∈ issues) ↔
      .issue text ∈ (outline cfg.tupleItems document).objections := by
  rw [← mem_issues_iff]
  constructor
  · rintro ⟨issues, hr, htext⟩
    exact ((refusedFor_decompile_iff hs).1 hr).2 ▸ htext
  · exact fun h => ⟨_, (refusedFor_decompile_iff hs).2 ⟨List.ne_nil_of_mem h, rfl⟩, h⟩

theorem find?_withOnly (document properties : Members) (key : String) {name : String}
    (hname : name ≠ "properties") :
    Entries.find? (withOnly document properties key) name = Entries.find? document name := by
  unfold withOnly
  rw [Entries.find?_put, if_neg hname.symm]

section

variable {document properties : Members}
  (hfind : Entries.find? document "properties" = some (.obj properties))

include hfind

theorem depth_withOnly_le (key : String) :
    (Value.obj (withOnly document properties key)).depth ≤ (Value.obj document).depth := by
  have hproperties : (Value.obj properties).depth ≤ Value.depthMembers document :=
    Value.depth_le_depthMembers (Entries.mem_of_find? hfind)
  rw [Value.depth] at hproperties
  rw [Value.depth, Value.depth]
  refine Nat.succ_le_succ (Value.depthMembers_le fun m hm => ?_)
  rcases Entries.mem_put hm with hm | rfl
  · exact Value.depth_le_depthMembers hm
  · rw [Value.depth]
    refine Nat.le_trans (Nat.succ_le_succ (Value.depthMembers_le fun p hp => ?_)) hproperties
    exact Value.depth_le_depthMembers (List.mem_filter.1 hp).1

/-- Where the document can be read with each of its properties alone, it is objected to for what any of
these readings is objected to. -/
theorem mem_objections_iff (hne : properties ≠ []) {tupleItems : TupleItems}
    (hu : ∀ key ∈ Entries.names properties,
      (outline tupleItems (withOnly document properties key)).Usable) {note : ReadingNote} :
    note ∈ (outline tupleItems document).objections ↔ ∃ key ∈ Entries.names properties,
      note ∈ (outline tupleItems (withOnly document properties key)).objections := by
  -- read as deep as the document, a property alone is objected to for the same as within the document
  have hkey : ∀ key ∈ Entries.names properties,
      (note ∈ (outline tupleItems (withOnly document properties key)).objections ↔
        note ∈ outsideObjections tupleItems (Value.obj document).depth document ∨
          ∃ p ∈ properties, p.1 = key ∧
            note ∈ propertyObjections tupleItems (Value.obj document).depth document p) := by
    intro key hkey
    have hsame := objections_of_same (fun _ => find?_withOnly document properties key) tupleItems
      (Value.obj document).depth
    have hlone : Entries.find? (withOnly document properties key) "properties" =
        some (.obj (properties.filter fun p => p.1 = key)) := by
      unfold withOnly
      rw [Entries.find?_put, if_pos rfl]
    have hpersists := persists_outlineAt tupleItems (depth_withOnly_le hfind key)
      (withOnly document properties key)
    rw [outline_eq_outlineAt, ← hpersists (outline_eq_outlineAt tupleItems _ ▸ hu key hkey),
      mem_objections_outlineAt hlone, hsame.1, hsame.2]
    simp only [List.mem_filter, decide_eq_true_eq, and_assoc]
  rw [outline_eq_outlineAt, mem_objections_outlineAt hfind]
  constructor
  · rintro (houtside | ⟨p, hp, hnote⟩)
    · obtain ⟨p, hp⟩ := List.exists_mem_of_ne_nil _ hne
      have hmem : p.1 ∈ Entries.names properties := List.mem_map_of_mem hp
      exact ⟨p.1, hmem, (hkey _ hmem).2 (Or.inl houtside)⟩
    · have hmem : p.1 ∈ Entries.names properties := List.mem_map_of_mem hp
      exact ⟨p.1, hmem, (hkey _ hmem).2 (Or.inr ⟨p, hp, rfl, hnote⟩)⟩
  · rintro ⟨key, hmem, hnote⟩
    rcases (hkey key hmem).1 hnote with houtside | ⟨p, hp, _, hnote⟩
    · exact Or.inl houtside
    · exact Or.inr ⟨p, hp, hnote⟩

/-- Suppose that reading the document with any one of its properties alone ends in a graph or a refusal.
Then so does reading the document; it is refused exactly when one of these is, and its issues are all
of theirs. -/
theorem refused_iff_of_each_property (hne : properties ≠ []) (cfg : DocumentConfig) (s : IdSupply)
    (hs : ∀ key ∈ Entries.names properties,
      Settles ((decompile (.obj (withOnly document properties key)) cfg).run s)) :
    Settles ((decompile (.obj document) cfg).run s) ∧
    ((∃ issues, RefusedFor ((decompile (.obj document) cfg).run s) issues) ↔
      ∃ key ∈ Entries.names properties, ∃ issues,
        RefusedFor ((decompile (.obj (withOnly document properties key)) cfg).run s) issues) ∧
    ∀ issues, RefusedFor ((decompile (.obj document) cfg).run s) issues → ∀ text, text ∈ issues ↔
      ∃ key ∈ Entries.names properties, ∃ own,
        RefusedFor ((decompile (.obj (withOnly document properties key)) cfg).run s) own ∧
          text ∈ own := by
  have hu : ∀ key ∈ Entries.names properties,
      (outline cfg.tupleItems (withOnly document properties key)).Usable := fun key hkey =>
    (settles_outlineOf_iff _ cfg).1 ((settles_decompile_iff _ cfg s).1 (hs key hkey))
  have hsettles : Settles ((decompile (.obj document) cfg).run s) := by
    rw [settles_decompile_iff, settles_outlineOf_iff, usable_iff_objections,
      mem_objections_iff hfind hne hu]
    rintro ⟨key, hkey, hnote⟩
    exact usable_iff_objections.1 (hu key hkey) hnote
  have htext : ∀ text,
      (∃ issues, RefusedFor ((decompile (.obj document) cfg).run s) issues ∧ text ∈ issues) ↔
        ∃ key ∈ Entries.names properties, ∃ own,
          RefusedFor ((decompile (.obj (withOnly document properties key)) cfg).run s) own ∧
            text ∈ own := by
    intro text
    rw [exists_refusedFor_iff hsettles, mem_objections_iff hfind hne hu]
    exact exists_congr fun key => and_congr_right fun hkey => (exists_refusedFor_iff (hs key hkey)).symm
  refine ⟨hsettles, ⟨?_, ?_⟩, fun issues hr text => ?_⟩
  · rintro ⟨issues, hr⟩
    obtain ⟨text, hmem⟩ := List.exists_mem_of_ne_nil _ ((refusedFor_decompile_iff hsettles).1 hr).1
    obtain ⟨key, hkey, own, hown, _⟩ := (htext text).1 ⟨issues, hr, hmem⟩
    exact ⟨key, hkey, own, hown⟩
  · rintro ⟨key, hkey, own, hown⟩
    obtain ⟨text, hmem⟩ :=
      List.exists_mem_of_ne_nil _ ((refusedFor_decompile_iff (hs key hkey)).1 hown).1
    obtain ⟨issues, hr, _⟩ := (htext text).2 ⟨key, hkey, own, hown, hmem⟩
    exact ⟨issues, hr⟩
  · rw [← htext]
    exact ⟨fun hmem => ⟨issues, hr, hmem⟩, fun ⟨_, hr', hmem⟩ => hr.unique hr' ▸ hmem⟩

end

/-- Three properties: one of an unusable type, one with a field that is no schema, and a text. -/
def faultyProperties : Members :=
  [("size", .obj [("type", .int 5)]), ("address", .obj [("properties", .obj [("street", .int 7)])]),
    ("name", .obj [("type", .str "string")])]

/-- A document with these properties is refused for the first and the second at once. -/
theorem refused_iff_of_faultyProperties :
    (∀ key ∈ Entries.names faultyProperties, Settles ((decompile (.obj
      (withOnly [("properties", .obj faultyProperties)] faultyProperties key)) {}).run {})) ∧
    ∃ issues, RefusedFor ((decompile (.obj [("properties", .obj faultyProperties)]) {}).run {}) issues ∧
      ∀ text, text ∈ issues ↔
        text = "#/properties/size/type: must be a string or a list of strings, got 5" ∨
        text = "#/properties/address/properties/street: schema must be an object, got int" := by
  have hsize : (fun _ => ()) <$> (decompile (.obj (withOnly [("properties", .obj faultyProperties)]
      faultyProperties "size")) {}).run {} = refuse
      (.malformed ["#/properties/size/type: must be a string or a list of strings, got 5"] []) := by
    decide +kernel
  have haddress : (fun _ => ()) <$> (decompile (.obj (withOnly [("properties", .obj faultyProperties)]
      faultyProperties "address")) {}).run {} = refuse (.malformed
      ["#/properties/address/properties/street: schema must be an object, got int"] []) := by
    decide +kernel
  have hname : (fun _ => ()) <$> (decompile (.obj (withOnly [("properties", .obj faultyProperties)]
      faultyProperties "name")) {}).run {} = .ok () := by
    decide +kernel
  have hkeys : ∀ key ∈ Entries.names faultyProperties,
      key = "size" ∨ key = "address" ∨ key = "name" := by
    simp [faultyProperties, Entries.names]
  have hsettles : ∀ key ∈ Entries.names faultyProperties, Settles ((decompile (.obj
      (withOnly [("properties", .obj faultyProperties)] faultyProperties key)) {}).run {}) := by
    intro key hkey
    rcases hkeys key hkey with rfl | rfl | rfl
    · exact settles_map_iff.1 (hsize ▸ settles_malformed _ _)
    · exact settles_map_iff.1 (haddress ▸ settles_malformed _ _)
    · exact settles_map_iff.1 (hname ▸ settles_ok _)
  have hfirst := refusedFor_map_iff.1 ⟨_, hsize⟩
  have hsecond := refusedFor_map_iff.1 ⟨_, haddress⟩
  have hthird : ∀ own, ¬ RefusedFor ((decompile (.obj (withOnly
      [("properties", .obj faultyProperties)] faultyProperties "name")) {}).run {}) own := by
    intro own hown
    obtain ⟨warnings, h⟩ := refusedFor_map_iff.2 hown
    cases hname.symm.trans h
  have hfind : Entries.find? [("properties", Value.obj faultyProperties)] "properties" =
      some (.obj faultyProperties) := rfl
  obtain ⟨-, hrefused, hissues⟩ := refused_iff_of_each_property hfind (by decide) {} {} hsettles
  obtain ⟨issues, hr⟩ := hrefused.2 ⟨"size", by decide, _, hfirst⟩
  refine ⟨hsettles, issues, hr, fun text => (hissues issues hr text).trans ⟨?_, ?_⟩⟩
  · rintro ⟨key, hkey, own, hown, htext⟩
    rcases hkeys key hkey with rfl | rfl | rfl
    · rw [hfirst.unique hown] at htext
      exact Or.inl (List.mem_singleton.1 htext)
    · rw [hsecond.unique hown] at htext
      exact Or.inr (List.mem_singleton.1 htext)
    · exact absurd hown (hthird own)
  · rintro (rfl | rfl)
    · exact ⟨"size", by decide, _, hfirst, List.mem_singleton_self _⟩
    · exact ⟨"address", by decide, _, hsecond, List.mem_singleton_self _⟩

end Graph

end FormGraph

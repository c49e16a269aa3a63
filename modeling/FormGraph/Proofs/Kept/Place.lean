import FormGraph.Proofs.Tables
import FormGraph.Value.Basic
import Mathlib.Data.List.Forall2

/-!
# Places of schemas in a document

A schema stands in the root or in a definition, and below it in properties and items. `v.Keeps w` says
that for every schema in `v` there is one in `w` at the same place that has the same keywords, but for
those that are interpreted, and the same property names in the same order.
-/

namespace FormGraph

/-- One step from a schema to a schema in it. -/
inductive SchemaStep where
  /-- To a property. -/
  | property (key : String)
  /-- To the schema of the items. -/
  | items
  deriving DecidableEq

namespace Value

/-- What stands under a keyword of an object. -/
def keyword? (v : Value) (keyword : String) : Option Value :=
  v.obj?.bind fun members => Entries.find? members keyword

/-- The value that a step leads to. -/
def step? (v : Value) : SchemaStep → Option Value
  | .property key => (v.keyword? "properties").bind fun properties => properties.keyword? key
  | .items => v.keyword? "items"

/-- The value at the end of a path of steps. -/
def below? (v : Value) : List SchemaStep → Option Value
  | [] => some v
  | step :: path => (v.step? step).bind fun w => w.below? path

/-- The value at a place of a document: below the root, or below the definition of that name. -/
def schemaAt? (document : Value) (definition : Option String) (path : List SchemaStep) :
    Option Value :=
  match definition with
  | none => document.below? path
  | some name =>
    ((document.keyword? "definitions").bind fun table => table.keyword? name).bind fun v =>
      v.below? path

theorem keyword?_eq_some_iff {v w : Value} {keyword : String} :
    v.keyword? keyword = some w ↔
      ∃ members, v = .obj members ∧ Entries.find? members keyword = some w := by
  cases v with
  | obj members => exact ⟨fun h => ⟨members, rfl, h⟩, fun ⟨_, hobj, h⟩ => obj.inj hobj ▸ h⟩
  | null | bool _ | int _ | float _ | str _ | list _ =>
    exact ⟨fun h => (by cases h), fun ⟨_, hobj, _⟩ => (by cases hobj)⟩

/-- A place below a definition is one below what stands in the table under its name. -/
theorem schemaAt?_definition {document w : Value} {name : String} {path : List SchemaStep} :
    document.schemaAt? (some name) path = some w ↔
      ∃ members table v, document = .obj members ∧
        Entries.find? members "definitions" = some (.obj table) ∧
        Entries.find? table name = some v ∧ v.below? path = some w := by
  simp only [schemaAt?, Option.bind_eq_some_iff, keyword?_eq_some_iff]
  constructor
  · rintro ⟨v, ⟨t, ⟨members, rfl, ht⟩, table, rfl, hv⟩, hbelow⟩
    exact ⟨members, table, v, rfl, ht, hv, hbelow⟩
  · rintro ⟨members, table, v, rfl, ht, hv, hbelow⟩
    exact ⟨v, ⟨_, ⟨members, rfl, ht⟩, table, rfl, hv⟩, hbelow⟩

/-- The keywords that say what hangs below a schema, and of what kind it is. -/
def interpretedKeywords : List String :=
  ["type", "required", "properties", "items", "definitions", "if", "then", "else", "allOf", "anyOf",
    "oneOf"]

/-- The keywords that are not interpreted stand in both schemas, and so do the names of the
properties. -/
structure SameRest (f f' : Members) : Prop where
  /-- A keyword that is not interpreted has the same value. -/
  keyword : ∀ k v, Entries.find? f k = some v → v ≠ .null → k ∉ interpretedKeywords →
    Entries.find? f' k = some v
  /-- The properties have the same names in the same order. -/
  properties : ∀ properties, Entries.find? f "properties" = some (.obj properties) →
    properties ≠ [] → ∃ properties', Entries.find? f' "properties" = some (.obj properties') ∧
      Entries.names properties' = Entries.names properties

/-- Every schema in the first value has its counterpart at the same place in the second one. -/
def Keeps (v w : Value) : Prop :=
  ∀ path f, v.below? path = some (.obj f) →
    ∃ f', w.below? path = some (.obj f') ∧ SameRest f f'

theorem SameRest.refl (f : Members) : SameRest f f :=
  ⟨fun _ _ h _ _ => h, fun properties h _ => ⟨properties, h, rfl⟩⟩

theorem Keeps.refl (v : Value) : v.Keeps v := fun _ f h => ⟨f, h, .refl f⟩

/-- Nothing stands below what is no schema. -/
theorem exists_obj_of_below? {v : Value} {path : List SchemaStep} {f : Members}
    (h : v.below? path = some (.obj f)) : ∃ members, v = .obj members := by
  cases v with
  | obj members => exact ⟨members, rfl⟩
  | null | bool _ | int _ | float _ | str _ | list _ =>
    cases path with
    | nil => cases h
    | cons step path => cases step <;> cases h

theorem Keeps.of_not_obj {v : Value} (h : ∀ members, v ≠ .obj members) (w : Value) : v.Keeps w := by
  intro path f hf
  obtain ⟨members, hobj⟩ := exists_obj_of_below? hf
  exact absurd hobj (h members)

/-- The properties have the same names in the same order, and every schema in one of the first ones has
its counterpart in the second ones. -/
def KeepsAll (properties properties' : Members) : Prop :=
  List.Forall₂ (fun p p' => p'.1 = p.1 ∧ p.2.Keeps p'.2) properties properties'

theorem KeepsAll.refl (properties : Members) : KeepsAll properties properties :=
  List.forall₂_same.2 fun p _ => ⟨rfl, .refl p.2⟩

theorem KeepsAll.names_eq {properties properties' : Members} (h : KeepsAll properties properties') :
    Entries.names properties' = Entries.names properties := by
  induction h with
  | nil => rfl
  | cons hp _ ih => exact congrArg₂ List.cons hp.1 ih

theorem KeepsAll.find? {properties properties' : Members} (h : KeepsAll properties properties')
    {key : String} {v : Value} (hfind : Entries.find? properties key = some v) :
    ∃ w, Entries.find? properties' key = some w ∧ v.Keeps w := by
  induction h with
  | nil => simp at hfind
  | @cons p p' properties properties' hp _ ih =>
    rw [Entries.find?_cons] at hfind
    rw [Entries.find?_cons, hp.1]
    split_ifs at hfind ⊢
    · exact ⟨p'.2, rfl, Option.some.inj hfind ▸ hp.2⟩
    · exact ih hfind

/-- A schema is kept when its own keywords are, and the schemas of its properties and items. -/
theorem Keeps.of_keywords {f f' : Members}
    (hkeyword : ∀ k v, Entries.find? f k = some v → v ≠ .null → k ∉ interpretedKeywords →
      Entries.find? f' k = some v)
    (hproperties : ∀ properties, Entries.find? f "properties" = some (.obj properties) →
      properties ≠ [] → ∃ properties', Entries.find? f' "properties" = some (.obj properties') ∧
        KeepsAll properties properties')
    (hitems : ∀ item, Entries.find? f "items" = some (.obj item) →
      ∃ w, Entries.find? f' "items" = some w ∧ (Value.obj item).Keeps w) :
    (Value.obj f).Keeps (.obj f') := by
  have hstep : ∀ step members, (Value.obj f).step? step = some (.obj members) →
      ∃ w, (Value.obj f').step? step = some w ∧ (Value.obj members).Keeps w := by
    intro step members hstep
    cases step with
    | items => exact hitems members hstep
    | property key =>
      obtain ⟨v, hv, hkey⟩ := Option.bind_eq_some_iff.1 hstep
      obtain ⟨properties, rfl, hfind⟩ := keyword?_eq_some_iff.1 hkey
      have hne : properties ≠ [] := by
        rintro rfl
        simp at hfind
      obtain ⟨properties', hv', hall⟩ := hproperties properties hv hne
      obtain ⟨w, hw, hkeeps⟩ := hall.find? hfind
      refine ⟨w, ?_, hkeeps⟩
      show (Entries.find? f' "properties").bind (fun v => v.keyword? key) = some w
      rw [hv']
      exact hw
  intro path g hg
  cases path with
  | nil =>
    obtain rfl : f = g := Value.obj.inj (Option.some.inj hg)
    refine ⟨f', rfl, hkeyword, fun properties hfind hne => ?_⟩
    obtain ⟨properties', hfind', hall⟩ := hproperties properties hfind hne
    exact ⟨properties', hfind', hall.names_eq⟩
  | cons step path =>
    rw [below?, Option.bind_eq_some_iff] at hg
    obtain ⟨v, hv, hg⟩ := hg
    by_cases hobj : ∃ members, v = .obj members
    · obtain ⟨members, rfl⟩ := hobj
      obtain ⟨w, hw, hkeeps⟩ := hstep step members hv
      obtain ⟨g', hg', hrest'⟩ := hkeeps path g hg
      exact ⟨g', by rw [below?, hw, Option.bind_some, hg'], hrest'⟩
    · exact absurd (exists_obj_of_below? hg) hobj

/-- What is kept is kept in every value that has the same keywords, but for those that are
interpreted and lead nowhere. -/
theorem Keeps.congr {v : Value} {f f' : Members} (h : v.Keeps (.obj f))
    (hsame : ∀ k, k = "properties" ∨ k = "items" ∨ k ∉ interpretedKeywords →
      Entries.find? f' k = Entries.find? f k) : v.Keeps (.obj f') := by
  intro path g hg
  obtain ⟨g', hg', hrest⟩ := h path g hg
  cases path with
  | nil =>
    obtain rfl : f = g' := Value.obj.inj (Option.some.inj hg')
    refine ⟨f', rfl, fun k v hfind hv hk => ?_, fun properties hfind hne => ?_⟩
    · rw [hsame k (.inr (.inr hk))]
      exact hrest.keyword k v hfind hv hk
    · rw [hsame "properties" (.inl rfl)]
      exact hrest.properties properties hfind hne
  | cons step path =>
    have hstep : (Value.obj f').step? step = (Value.obj f).step? step := by
      cases step with
      | property key => exact congrArg (Option.bind · _) (hsame "properties" (.inl rfl))
      | items => exact hsame "items" (.inr (.inl rfl))
    refine ⟨g', ?_, hrest⟩
    rw [below?, hstep]
    exact hg'

end Value

end FormGraph

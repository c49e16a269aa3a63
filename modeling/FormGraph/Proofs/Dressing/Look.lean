import FormGraph.Proofs.Alike
import FormGraph.Proofs.Dressing.Entries

/-!
# A field looks the same in the clothes of its entry

The entry of a field in a UI document names the widget that the field has, or the one that was picked
for it, with the options of the widget and those of the field. A field of the same kind that is
dressed by that entry looks the same (`exists_look_dressed`): options that are written over their own
defaults stay what they are.
-/

namespace FormGraph

/-! ## Registries -/

namespace Registry

/-- Widgets are registered under their names, and whether there is a widget for a node without one is
up to its kind. -/
structure Regular (r : Registry) : Prop where
  /-- A widget is found under its name. -/
  named : ∀ {id w}, r.find? id = some w → w.id = id ∧ id ≠ ""
  /-- A node of the same kind gets no widget either. -/
  settled : ∀ {n m : Node NodeId}, m.kind = n.kind → r.select n = .ok none → r.select m = .ok none

theorem mem_of_firstRule {n : Node NodeId} {rules : List WidgetRule} {rule : WidgetRule}
    (h : firstRule n rules = .ok (some rule)) : rule ∈ rules := by
  induction rules with
  | nil => cases h
  | cons first rules ih =>
    rw [firstRule, bind_eq_ok_iff] at h
    obtain ⟨holds, _, h⟩ := h
    split_ifs at h
    · obtain rfl := Option.some.inj (pure_eq_ok_iff.1 h)
      exact List.mem_cons_self
    · exact List.mem_cons_of_mem _ (ih h)

theorem firstRule_eq_none {n : Node NodeId} {rules : List WidgetRule}
    (h : ∀ rule ∈ rules, rule.criterion.holds n = .ok false) : firstRule n rules = .ok none := by
  induction rules with
  | nil => rfl
  | cons rule rules ih =>
    rw [firstRule, h rule List.mem_cons_self]
    exact ih fun r hr => h r (List.mem_cons_of_mem _ hr)

/-- No rule for all forms asks for a node that is neither an enumeration nor an array. -/
theorem firstRule_standard {n : Node NodeId} (henum : n.kind ≠ .enum) (harray : n.kind ≠ .array) :
    firstRule n standard.rules = .ok none := by
  have hcriteria : ∀ rule ∈ standard.rules,
      rule.criterion = .yesNoChoice ∨ rule.criterion = .imageArray := by decide
  refine firstRule_eq_none fun rule hrule => ?_
  rcases hcriteria rule hrule with h | h <;> rw [h]
  · show n.isYesNoChoice = _
    unfold Node.isYesNoChoice
    cases hb : n.body with
    | enum a => exact absurd (congrArg Body.kind hb) henum
    | string | number | boolean | object | array | group | definition | reference => rfl
  · show Except.ok n.isImageArray = _
    unfold Node.isImageArray
    cases hb : n.body with
    | array a => exact absurd (congrArg Body.kind hb) harray
    | string | number | boolean | enum | object | group | definition | reference => rfl

theorem regular_standard : standard.Regular where
  named := by
    intro id w h
    have hall : ∀ e ∈ standard.widgets.entries, e.2.id = e.1 ∧ e.1 ≠ "" := by decide
    exact hall (id, w) (Table.mem_entries_iff.2 h)
  settled := by
    intro n m hkind h
    have hrules : ∀ rule ∈ standard.rules, (standard.find? rule.widgetId).isSome := by decide
    have hnone : ∀ kind : NodeKind, ((standard.idsFor kind).head?.bind standard.find?).isNone →
        kind ≠ .enum ∧ kind ≠ .array := by
      intro kind
      cases kind with
      | group kind => exact fun _ => ⟨by simp, by simp⟩
      | string | number | boolean | enum | object | array | definition | reference =>
        decide
    unfold select at h ⊢
    rw [bind_eq_ok_iff] at h
    obtain ⟨found, hfound, h⟩ := h
    cases found with
    | some rule =>
      have h := pure_eq_ok_iff.1 h
      have hsome := hrules rule (mem_of_firstRule hfound)
      rw [h] at hsome
      cases hsome
    | none =>
      have h := pure_eq_ok_iff.1 h
      obtain ⟨henum, harray⟩ := hnone n.kind (by rw [h]; rfl)
      have hfirst := firstRule_standard (n := m) (hkind ▸ henum) (hkind ▸ harray)
      rw [hfirst]
      show Except.ok _ = _
      rw [hkind, h]

end Registry

theorem Registry.select_ok {r : Registry} {n : Node NodeId} {w : Widget}
    (h : r.select n = .ok (some w)) : ∃ id, r.find? id = some w := by
  unfold select at h
  rw [bind_eq_ok_iff] at h
  obtain ⟨found, _, h⟩ := h
  cases found with
  | some rule => exact ⟨_, pure_eq_ok_iff.1 h⟩
  | none =>
    obtain ⟨id, _, hid⟩ := Option.bind_eq_some_iff.1 (pure_eq_ok_iff.1 h)
    exact ⟨id, hid⟩

namespace UiSchema

variable {registry : Registry} {n m : Node NodeId} {id : String}

/-- The entry of a field with a widget. -/
def worn (id : String) (options : Members) : Members :=
  ("ui:widget", .str id) :: if options.isEmpty then [] else [("ui:options", .obj options)]

theorem widgetEntry_of_find? (hn : n.widget = .str id) (hne : id ≠ "") {w : Widget}
    (h : registry.find? id = some w) (hid : w.id = id) :
    widgetEntry registry n = .ok (worn id (Entries.putAll w.defaultOptions n.widgetOptions)) := by
  have hholds : n.widget.holds = true := by
    rw [hn]
    simpa [Value.holds] using hne
  unfold widgetEntry
  rw [if_pos hholds, hn]
  show (Except.ok (registry.find? id) >>= _) = _
  rw [h, ← hid]
  rfl

theorem widgetEntry_of_unknown (hn : n.widget = .str id) (hne : id ≠ "")
    (h : registry.find? id = none) :
    widgetEntry registry n = .ok (worn id n.widgetOptions) := by
  have hholds : n.widget.holds = true := by
    rw [hn]
    simpa [Value.holds] using hne
  unfold widgetEntry
  rw [if_pos hholds, if_pos hholds, hn]
  show (Except.ok (registry.find? id) >>= _) = _
  rw [h]
  rfl

/-- Options that are settled: written over the defaults of their widget they are what they are, once
they have all that the defaults have. -/
def Settles (settle : Members → Members) : Prop :=
  ∀ given options : Members, (Entries.names options).Nodup →
    (∀ k, (Entries.find? (settle given) k).isSome → (Entries.find? options k).isSome) →
    ∀ k, Entries.find? (settle options) k = Entries.find? options k

theorem settles_putAll (defaults : Members) : Settles (Entries.putAll defaults) := by
  intro given options hnodup hhas k
  rw [Entries.find?_putAll, Entries.find?_reverse hnodup]
  cases hfind : Entries.find? options k with
  | some v => rw [Option.some_or]
  | none =>
    have h := hhas k
    rw [hfind, Entries.find?_putAll] at h
    cases hdefault : Entries.find? defaults k with
    | none => rfl
    | some v =>
      rw [hdefault] at h
      have hsome : ((Entries.find? given.reverse k).or (some v)).isSome = true := by
        cases Entries.find? given.reverse k <;> rfl
      exact absurd (h hsome) (by simp)

/-- A field has no widget and none is picked for it, or its entry is that of a field with a widget,
under whose name every field has an entry of its own options. -/
theorem widgetEntry_ok (hr : registry.Regular)
    (htext : n.widget.holds = true → ∃ id, n.widget = .str id) {entry : Members}
    (h : widgetEntry registry n = .ok entry) :
    (entry = [] ∧ registry.select n = .ok none) ∨
    ∃ id settle, entry = worn id (settle n.widgetOptions) ∧ Settles settle ∧
      ∀ m : Node NodeId, m.widget = .str id →
        widgetEntry registry m = .ok (worn id (settle m.widgetOptions)) := by
  have hfound : ∀ {id w}, registry.find? id = some w → ∀ {m : Node NodeId}, m.widget = .str w.id →
      widgetEntry registry m = .ok (worn w.id (Entries.putAll w.defaultOptions m.widgetOptions)) := by
    intro id w hw m hm
    obtain ⟨rfl, hne⟩ := hr.named hw
    exact widgetEntry_of_find? hm hne hw rfl
  cases hholds : n.widget.holds with
  | true =>
    obtain ⟨id, hid⟩ := htext hholds
    have hne : id ≠ "" := by
      rintro rfl
      rw [hid] at hholds
      cases hholds
    cases hw : registry.find? id with
    | some w =>
      obtain ⟨rfl, _⟩ := hr.named hw
      rw [widgetEntry_of_find? hid hne hw rfl] at h
      exact Or.inr ⟨w.id, _, (Except.ok.inj h).symm, settles_putAll _, fun m hm => hfound hw hm⟩
    | none =>
      rw [widgetEntry_of_unknown hid hne hw] at h
      exact Or.inr ⟨id, fun options => options, (Except.ok.inj h).symm, fun _ _ _ _ _ => rfl,
        fun m hm => widgetEntry_of_unknown hm hne hw⟩
  | false =>
    unfold widgetEntry at h
    rw [if_neg (by simp [hholds]), bind_eq_ok_iff] at h
    obtain ⟨selected, hselected, h⟩ := h
    cases selected with
    | none =>
      simp only [hholds, Bool.false_eq_true, if_false] at h
      exact Or.inl ⟨(pure_eq_ok_iff.1 h).symm, hselected⟩
    | some w =>
      obtain ⟨id, hw⟩ := Registry.select_ok hselected
      exact Or.inr ⟨w.id, _, (pure_eq_ok_iff.1 h).symm, settles_putAll _, fun m hm => hfound hw hm⟩

/-! ## Looking the same -/

theorem find?_worn_options (id : String) (options : Members) :
    Entries.find? (worn id options) "ui:options" =
      if options.isEmpty then none else some (.obj options) := by
  unfold worn
  cases options <;> rfl

/-- The options that a field is written with: an array has those of every array. -/
def grown (kind : NodeKind) (options : Members) : Members :=
  if kind = .array then Entries.putAll options arrayOptions else options

theorem find?_grown (kind : NodeKind) (options : Members) (k : String) :
    Entries.find? (grown kind options) k =
      (if kind = .array then Entries.find? arrayOptions.reverse k else none).or
        (Entries.find? options k) := by
  unfold grown
  split_ifs
  · exact Entries.find?_putAll _ _ _
  · rw [Option.none_or]

theorem withArrayOptions_worn (id : String) (options : Members) :
    withArrayOptions (worn id options) = worn id (Entries.putAll options arrayOptions) := by
  have hne : ∀ options : Members, (Entries.putAll options arrayOptions).isEmpty = false := by
    intro options
    have haddable : Entries.find? (Entries.putAll options arrayOptions) "addable" =
        some (.bool true) := Entries.find?_putAll _ _ _
    cases hall : Entries.putAll options arrayOptions with
    | nil =>
      rw [hall] at haddable
      cases haddable
    | cons _ _ => rfl
  unfold withArrayOptions worn
  rw [hne]
  cases options with
  | nil => rfl
  | cons o options => rfl

theorem alike_worn (id : String) {options options' : Members}
    (h : ∀ k, Entries.find? options k = Entries.find? options' k) :
    Value.Alike (.obj (worn id options)) (.obj (worn id options')) := by
  have halike : Value.Alike (.obj options) (.obj options') :=
    Value.alike_obj_iff.2 fun k => h k ▸ .refl _
  have hempty : options'.isEmpty = options.isEmpty := by
    cases options with
    | nil =>
      cases options' with
      | nil => rfl
      | cons o rest =>
        have ho := h o.1
        rw [Entries.find?_cons, if_pos rfl] at ho
        cases ho
    | cons o rest =>
      cases options' with
      | nil =>
        have ho := h o.1
        rw [Entries.find?_cons, if_pos rfl] at ho
        cases ho
      | cons _ _ => rfl
  unfold worn
  rw [hempty]
  refine Value.alike_obj_iff.2 fun k => ?_
  rw [Entries.find?_cons, Entries.find?_cons]
  by_cases hk : "ui:widget" = k
  · rw [if_pos hk, if_pos hk]
    exact .refl _
  · rw [if_neg hk, if_neg hk]
    by_cases hnone : options.isEmpty = true
    · rw [if_pos hnone, if_pos hnone]
      exact .refl _
    · rw [if_neg hnone, if_neg hnone, Entries.find?_cons, Entries.find?_cons]
      by_cases hk : "ui:options" = k
      · rw [if_pos hk, if_pos hk]
        exact halike
      · rw [if_neg hk, if_neg hk]
        exact .refl _

theorem look_of_worn {options : Members} (h : widgetEntry registry n = .ok (worn id options)) :
    look registry n = .ok (worn id (grown n.kind options)) := by
  unfold look grown
  rw [h]
  show Except.ok (if n.kind = .array then withArrayOptions (worn id options) else worn id options) = _
  rw [withArrayOptions_worn]
  split_ifs <;> rfl

/-- Options that were settled and grown once stay what they are. -/
theorem Settles.grown {settle : Members → Members} (hs : Settles settle) (kind : NodeKind)
    (given : Members) (hn : (Entries.names (UiSchema.grown kind (settle given))).Nodup) (k : String) :
    Entries.find? (UiSchema.grown kind (settle (UiSchema.grown kind (settle given)))) k =
      Entries.find? (UiSchema.grown kind (settle given)) k := by
  rw [find?_grown, hs given _ hn fun k hk => ?_, find?_grown]
  · generalize (if kind = .array then Entries.find? arrayOptions.reverse k else none) = a
    cases a <;> rfl
  · rw [find?_grown, Option.isSome_or, hk, Bool.or_true]

/-- A field without a widget that is of the kind of another one, and is dressed by the entry of that
one if it names a widget, looks the same. -/
theorem exists_look_dressed (hr : registry.Regular)
    (htext : n.widget.holds = true → ∃ id, n.widget = .str id) {shown : Members}
    (hlook : look registry n = .ok shown) (hkind : m.kind = n.kind) (hwidget : m.widget = .null)
    (hoptions : m.widgetOptions = []) {entry : Members} (hproper : (Value.obj entry).Proper)
    (hentry : ∀ k ∈ ["ui:widget", "ui:options"], Entries.find? entry k = Entries.find? shown k)
    {m' : Node NodeId}
    (hdressed : ∀ widget, Value.member entry "ui:widget" = .str widget → m' = m.dressed widget entry)
    (hbare : (∀ widget, Value.member entry "ui:widget" ≠ .str widget) → m' = m) :
    ∃ shown', look registry m' = .ok shown' ∧ Value.Alike (.obj shown) (.obj shown') := by
  obtain ⟨own, hown, hshown⟩ := bind_eq_ok_iff.1 hlook
  rcases widgetEntry_ok hr htext hown with ⟨rfl, hnone⟩ | ⟨id, settle, rfl, hsettles, hsame⟩
  · have hno : ∀ widget, Value.member entry "ui:widget" ≠ .str widget := by
      intro widget
      rw [Value.member, hentry _ (by simp), ← pure_eq_ok_iff.1 hshown]
      split_ifs <;> simp [withArrayOptions, Value.member, Entries.find?, Entries.put]
    have hselect : widgetEntry registry m = .ok [] := by
      unfold widgetEntry
      rw [hwidget, if_neg (by decide), hr.settled hkind hnone]
      rfl
    refine ⟨shown, ?_, .refl _⟩
    unfold look
    rw [hbare hno, hselect, hkind]
    exact hshown
  · obtain rfl := Except.ok.inj ((look_of_worn hown).symm.trans hlook)
    have hm' := hdressed id (by
      rw [Value.member, hentry _ (by simp)]
      rfl)
    have hmember : Entries.find? entry "ui:options" = _ :=
      (hentry _ (by simp)).trans (find?_worn_options id _)
    generalize hO : UiSchema.grown n.kind (settle n.widgetOptions) = options at hmember ⊢
    have hnodup : (Entries.names options).Nodup := by
      cases options with
      | nil => exact List.nodup_nil
      | cons o rest => exact (hproper.of_find? hmember).names
    have hsame' : m'.widgetOptions = options := by
      rw [hm', Node.dressed, Value.member, hmember]
      cases options with
      | nil => exact hoptions
      | cons o rest => exact @Entries.putAll_of_disjoint _ [] _ hnodup
    have hkind' : m'.kind = n.kind := by
      rw [hm']
      exact hkind
    refine ⟨_, look_of_worn (hsame m' (by rw [hm']; rfl)), alike_worn id fun k => ?_⟩
    rw [hkind', hsame', ← hO]
    exact (hsettles.grown n.kind n.widgetOptions (hO ▸ hnodup) k).symm

end UiSchema

end FormGraph

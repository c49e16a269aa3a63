import FormGraph.Proofs.Dressing.Undressed
import FormGraph.Proofs.Exporting.Checked
import FormGraph.Proofs.Exporting.Drawn
import FormGraph.Proofs.Exporting.Written
import FormGraph.Proofs.Imported
import FormGraph.Proofs.Reading.Plain
import FormGraph.Proofs.RoundTrip.NormalForm

/-!
# Which graphs that nothing is wrong with can be exported

A check that finds nothing does not yet say that a graph can be exported: it says nothing of
widgets, lets the name of a property that a condition tests be a list or an object, and the values
of an enumeration whatever is distinct. These are all the ways in which an export can break down
(`bundle_isOk_iff`): a graph of which a check finds nothing is exported exactly when the conditions
that are written name properties and the widgets of the fields that are drawn can be told.
-/

namespace FormGraph

/-! ## Widgets that can be told -/

/-- The widget of a node can be told: the one that it names is no list and no object, and where it
names none, it is no choice between two values of which one is a list or an object. -/
def Node.Dressable {ρ : Type} (n : Node ρ) : Prop :=
  if n.widget.holds then n.widget.isScalar = true
  else ∀ own a b, n.body = .enum own → own.values = .list [a, b] →
    a.isScalar = true ∧ b.isScalar = true

/-- Values of a list can be told to be yes and no, or not, unless there are two of which one is a
list or an object. -/
theorem isOk_isYesNo_iff {values : List Value} : (∃ b, isYesNo (.list values) = .ok b) ↔
    ∀ a b, values = [a, b] → a.isScalar = true ∧ b.isScalar = true := by
  have hscalar : ∀ v : Value, v.isScalar = !(v.list?.isSome || v.isObj) := by
    intro v
    cases v <;> rfl
  match values with
  | [a, b] =>
    simp only [List.cons.injEq, and_true, hscalar]
    unfold isYesNo
    dsimp only
    split_ifs with h
    · refine iff_of_false (fun ⟨_, h⟩ => by cases h) fun hall => ?_
      obtain ⟨ha, hb⟩ := hall a b ⟨rfl, rfl⟩
      simp_all
    · refine iff_of_true ⟨_, rfl⟩ ?_
      rintro _ _ ⟨rfl, rfl⟩
      simp_all
  | [] | [_] | _ :: _ :: _ :: _ => exact iff_of_true ⟨_, rfl⟩ fun _ _ h => by simp at h

/-- The values of an enumeration whose attributes are well typed are a list. -/
theorem exists_values {own : EnumAttributes}
    (h : Check.attributeTypes (.enum own : Body NodeId) = []) :
    ∃ values, own.values = .list values := by
  unfold Check.attributeTypes at h
  rw [List.append_eq_nil_iff, List.append_eq_nil_iff] at h
  have hlist : Check.isList own.values = true := by
    by_contra hnot
    rw [if_neg hnot] at h
    exact absurd h.1.1 (by simp)
  cases hvalues : own.values with
  | list values => exact ⟨values, rfl⟩
  | null | bool _ | int _ | float _ | str _ | obj _ =>
    rw [hvalues] at hlist
    cases hlist

theorem isOk_isYesNoChoice_iff {n : Node NodeId} (htypes : Check.attributeTypes n.body = []) :
    (∃ b, n.isYesNoChoice = .ok b) ↔ ∀ own a b, n.body = .enum own → own.values = .list [a, b] →
      a.isScalar = true ∧ b.isScalar = true := by
  unfold Node.isYesNoChoice
  cases hbody : n.body with
  | enum own =>
    rw [hbody] at htypes
    obtain ⟨values, hvalues⟩ := exists_values htypes
    dsimp only
    rw [hvalues, isOk_isYesNo_iff]
    constructor
    · intro h own' a b hown hpair
      obtain rfl := Body.enum.inj hown
      exact h a b (Value.list.inj (hvalues.symm.trans hpair))
    · exact fun h a b hpair => h own a b rfl (hvalues.trans (congrArg Value.list hpair))
  | string | number | boolean | object | array | group | definition | reference =>
    exact iff_of_true ⟨_, rfl⟩ fun _ _ _ h => by cases h

/-- The standard rules ask of a node whether it is a choice between yes and no. -/
theorem isOk_select_standard_iff {n : Node NodeId} :
    (∃ w, Registry.standard.select n = .ok w) ↔ ∃ b, n.isYesNoChoice = .ok b := by
  have hrules : Registry.standard.rules = Registry.standardRules := by decide
  have himages : ∃ rule, Registry.firstRule n (Registry.standardRules.drop 1) = .ok rule := by
    show ∃ rule, (Except.ok n.isImageArray >>= _) = .ok rule
    cases n.isImageArray <;> exact ⟨_, rfl⟩
  have hfirst : (∃ rule, Registry.firstRule n Registry.standardRules = .ok rule) ↔
      ∃ b, n.isYesNoChoice = .ok b := by
    refine isOk_bind_of_total fun b => ?_
    split_ifs
    · exact ⟨_, rfl⟩
    · exact himages
  unfold Registry.select
  rw [hrules, ← hfirst]
  refine isOk_bind_of_total fun rule => ?_
  cases rule <;> exact ⟨_, rfl⟩

namespace UiSchema

variable {n : Node NodeId}

theorem isOk_namedWidget_iff {registry : Registry} {widget : Value} :
    (∃ w, namedWidget registry widget = .ok w) ↔ widget.isScalar = true := by
  cases widget <;> simp [namedWidget, Value.isScalar, breakDown]

/-- The widget of a node with well typed attributes can be told from the standard ones just if the
node is dressable. -/
theorem isOk_widgetEntry_iff (htypes : Check.attributeTypes n.body = []) :
    (∃ entry, widgetEntry .standard n = .ok entry) ↔ n.Dressable := by
  unfold widgetEntry Node.Dressable
  by_cases hholds : n.widget.holds = true
  · rw [if_pos hholds, ← @isOk_namedWidget_iff .standard]
    simp only [if_pos hholds]
    refine isOk_bind_of_total fun w => ?_
    cases w <;> exact ⟨_, rfl⟩
  · rw [if_neg hholds, ← isOk_isYesNoChoice_iff htypes, ← isOk_select_standard_iff]
    simp only [if_neg hholds]
    refine isOk_bind_of_total fun w => ?_
    cases w <;> exact ⟨_, rfl⟩

end UiSchema

namespace Graph

open Compile UiSchema

variable {g : Graph}

/-! ## Exports -/

/-- A graph that can be checked is exported exactly when its document and its UI document can be
written. -/
theorem isOk_bundle_iff {problems : List String} (hcheck : Check.graph g = .ok problems)
    {cfg : DocumentConfig} {registry : Registry} : (∃ b, g.bundle cfg registry = .ok b) ↔
      (∃ r, g.compile cfg = .ok r) ∧ ∃ ui, g.uiSchema registry = .ok ui := by
  unfold bundle
  refine isOk_bind_iff fun written _ => ?_
  rw [hcheck]
  exact isOk_bind_of_total fun ui => ⟨_, rfl⟩

theorem uiSchema_isOk_iff_dressable (ht : g.Tidy) (hcheck : Check.graph g = .ok []) :
    (∃ ui, g.uiSchema .standard = .ok ui) ↔ ∀ x n, g.Drawn x → g.node? x = some n →
      n.Dressable := by
  rw [uiSchema_isOk_iff ht]
  exact forall₄_congr fun x n _ hn => isOk_widgetEntry_iff (attributeTypes_of_check hcheck hn)

/-- A reachable graph of which a check finds nothing is exported exactly when the conditions of all
nodes that are written name properties, and the widgets of all nodes that are drawn can be told. -/
theorem bundle_isOk_iff {s : IdSupply} (hg : Reachable (fun _ _ => True) g s)
    (hcheck : Check.graph g = .ok []) (cfg : DocumentConfig) :
    (∃ b, g.bundle cfg .standard = .ok b) ↔
      (∀ x n, g.Written cfg x → g.node? x = some n →
        ∀ c ∈ n.clauses, c.condition.field.isScalar = true) ∧
      ∀ x n, g.Drawn x → g.node? x = some n → n.Dressable := by
  have ht : g.Tidy := tidy_of_check hg.sound.1 hcheck
  have htest : ∀ x, CanTest g x ↔ ∀ n, g.node? x = some n →
      ∀ c ∈ n.clauses, c.condition.field.isScalar = true := by
    intro x
    unfold CanTest
    cases hn : g.node? x with
    | none =>
      rw [clausesAt_of_absent hn]
      exact iff_of_true (fun c hc => absurd hc List.not_mem_nil) fun n hn => by cases hn
    | some n =>
      rw [clausesAt_of_node? hn]
      exact ⟨fun h m hm => Option.some.inj hm ▸ h, fun h => h n rfl⟩
  rw [isOk_bundle_iff hcheck, uiSchema_isOk_iff_dressable ht hcheck, compile_isOk_iff_of_tidy ht]
  refine and_congr_left' (forall_congr' fun x => ?_)
  rw [htest]
  exact ⟨fun h n hx => h hx n, fun h hx n => h n hx⟩

/-- A form that is read with a choice between two lists: a check finds nothing, and the form is not
exported. -/
theorem not_bundle_of_choice_between_lists :
    ∃ g s n, Reachable (fun _ _ => True) g s ∧ Check.graph g = .ok [] ∧ g.node? "n1" = some n ∧
      g.Drawn "n1" ∧ ¬ n.Dressable ∧ ∀ cfg, ¬ ∃ b, g.bundle cfg .standard = .ok b := by
  have hproper : (Value.obj [("type", .str "object"), ("properties", .obj [("size", .obj
      [("enum", .list [.list [.int 1], .list [.int 2]])])])]).Proper :=
    Value.proper_of_everywhere (by decide)
  have hread : Reachable (fun _ _ => True) _ _ :=
    .document hproper (rfl : (decompile _ {}).run {} = .ok _)
  obtain ⟨g, s, n, hg, hcheck, hn, hroot, hchild, hkind, own, hbody, hvalues, hwidget⟩ :
      ∃ g s n, Reachable (fun _ _ => True) g s ∧ Check.graph g = .ok [] ∧ g.node? "n1" = some n ∧
        g.kind? g.rootId = some .object ∧ g.IsChild "n1" g.rootId ∧ g.kind? "n1" = some .enum ∧
        ∃ own, n.body = .enum own ∧ own.values = .list [.list [.int 1], .list [.int 2]] ∧
          n.widget = .null :=
    ⟨_, _, _, hread, by decide +kernel, rfl, rfl, rfl, rfl, _, rfl, rfl, rfl⟩
  have hdrawn : g.Drawn "n1" := .single (.child hroot hchild hkind)
  have hundressable : ¬ n.Dressable := by
    unfold Node.Dressable
    rw [hwidget, if_neg (by decide)]
    intro h
    exact absurd (h own _ _ hbody hvalues).1 (by decide)
  exact ⟨g, s, n, hg, hcheck, hn, hdrawn, hundressable, fun cfg hb =>
    hundressable (((bundle_isOk_iff hg hcheck cfg).1 hb).2 "n1" n hdrawn hn)⟩

/-! ## Graphs that were read -/

/-- The graph can be written, and the widgets in it are named by texts. -/
structure Presentable (g : Graph) : Prop where
  /-- The graph can be written. -/
  compiles : ∀ cfg, ∃ r, g.compile cfg = .ok r
  /-- Widgets are named by texts. -/
  named : ∀ x n, g.node? x = some n → n.widget = .null ∨ ∃ id, n.widget = .str id

theorem presentable_of_decompile {document : Value} {cfg : DocumentConfig} {s : IdSupply}
    {r : Imported × IdSupply} (hp : document.Proper) (h : (decompile document cfg).run s = .ok r) :
    r.1.graph.Presentable := by
  obtain ⟨d, houtline, hg, -⟩ := decompile_ok h
  have hwas := DocumentOutline.wasRead_of_outlineOf hp houtline
  rw [hg]
  refine ⟨fun cfg => ?_, fun x n hn => Or.inl (plain_of_outlineOf hp houtline s.used hn).1⟩
  obtain ⟨-, c, -, hc, -⟩ := (DocumentOutline.shows_toGraph hwas.fits s.used).compile hwas.writable
    (sound_toGraph hwas.fits s.used).definitions_le cfg
  exact ⟨c, hc⟩

theorem Presentable.update {g' : Graph} {id : NodeId} {widget : String} {entry : Members}
    (hp : g.Presentable) (h : g.update id (Bundle.widgetPatch widget entry) = .ok g') :
    g'.Presentable := by
  obtain ⟨n, hn, rfl⟩ := update_widgetPatch_ok h
  refine ⟨fun cfg => ?_, fun x m hm => ?_⟩
  · rw [← compile_undressed, undressed_putNode hn, compile_undressed]
    exact hp.compiles cfg
  · rw [node?_next, node?_putNode] at hm
    split_ifs at hm
    · exact Or.inr ⟨widget, by rw [← Option.some.inj hm]; rfl⟩
    · exact hp.named x m hm

theorem Read.presentable (h : g.Read) : g.Presentable := by
  cases h with
  | document proper h => exact presentable_of_decompile proper h
  | bundle proper h =>
    obtain ⟨imported, hread, hg | ⟨depth, ui, warnings, d, hd, hg⟩⟩ := importBundle_ok h
    · rw [hg]
      exact presentable_of_decompile (proper_schema proper) hread
    · rw [hg]
      exact dress_keeps (fun hp hu => Presentable.update hp hu) _ _
        (presentable_of_decompile (proper_schema proper) hread) hd

/-- A graph that was read and of which a check finds nothing is exported exactly when no field that
is drawn without a widget is a choice between two values of which one is a list or an object. -/
theorem bundle_isOk_iff_of_read (h : g.Read) (hcheck : Check.graph g = .ok [])
    (cfg : DocumentConfig) :
    (∃ b, g.bundle cfg .standard = .ok b) ↔ ∀ x n own a b, g.Drawn x → g.node? x = some n →
      n.widget.holds = false → n.body = .enum own → own.values = .list [a, b] →
        a.isScalar = true ∧ b.isScalar = true := by
  obtain ⟨hcompile, hnamed⟩ := h.presentable
  rw [isOk_bundle_iff hcheck, uiSchema_isOk_iff_dressable h.tidy hcheck,
    and_iff_right (hcompile cfg)]
  unfold Node.Dressable
  constructor
  · intro hall x n own a b hx hn hwidget
    have hdressable := hall x n hx hn
    rw [if_neg (by simp [hwidget])] at hdressable
    exact hdressable own a b
  · intro hall x n hx hn
    split_ifs with hholds
    · rcases hnamed x n hn with hnull | ⟨id, hid⟩
      · rw [hnull]
        rfl
      · rw [hid]
        rfl
    · exact fun own a b => hall x n own a b hx hn (by simpa using hholds)

end Graph

end FormGraph

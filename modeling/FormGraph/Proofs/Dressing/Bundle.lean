import FormGraph.Proofs.Dressing.Look
import FormGraph.Proofs.Dressing.Skeleton
import FormGraph.Proofs.Reading.Plain
import FormGraph.Proofs.RoundTrip.NormalForm
import FormGraph.Proofs.RoundTrip.Screened
import FormGraph.Proofs.RoundTrip.Signature

/-!
# Bundles that are read back

What is written of a graph that is as asked for a round trip is read back as a bundle, and written
again it is the same document. Of the looks of the fields those of the properties are kept, however
deep in objects they are; the items of arrays and what hangs below groups come back without a widget
(`bundle_reread`).
-/

namespace FormGraph

namespace Graph

open Compile UiSchema

variable {g d : Graph} {cfg : DocumentConfig} {registry : Registry}

/-! ## Writing and reading bundles -/

theorem bundle_ok {b : Bundle} (h : g.bundle cfg registry = .ok b) :
    ∃ c ui, g.compile cfg = .ok c ∧ b.schema = c.document ∧
      g.uiSchema registry = .ok (.obj ui) ∧ b.ui = .obj ui := by
  unfold bundle at h
  simp only [bind_eq_ok_iff, pure_eq_ok_iff] at h
  obtain ⟨c, hc, problems, _, ui, hui, rfl⟩ := h
  have hobject := hui
  unfold uiSchema at hobject
  simp only [bind_eq_ok_iff, pure_eq_ok_iff] at hobject
  obtain ⟨_, _, entries, _, rfl⟩ := hobject
  exact ⟨c, entries, hc, rfl, hui, rfl⟩

/-- A bundle is read when it is admitted, its document is read, and its widgets can be put on. -/
theorem importBundle_of {b : Bundle} {ui : Members} (hui : b.ui = .obj ui)
    (hscreening : (Screening.bundle b.toValue).errors = []) {d : DocumentOutline}
    {warnings : List String} (hd : outlineOf b.schema cfg = .ok (d, warnings)) (s : IdSupply)
    {dressed : Bundle.Dressing}
    (hdress : Bundle.dress registry (Value.obj ui).depth
      ⟨d.toGraph s.used, (Screening.bundle b.toValue).warnings ++ warnings⟩ (d.toGraph s.used).rootId
      ui = .ok dressed) :
    (importBundle b.toValue cfg registry).run s =
      .ok (⟨⟨dressed.graph, dressed.warnings⟩, none⟩, ⟨s.used + d.size⟩) := by
  have hvalid : Screening.admit (Screening.bundle b.toValue) = .ok () := by
    unfold Screening.admit Screening.isValid
    rw [hscreening]
    rfl
  have hread := decompile_of_outlineOf hd s
  have hui' : Value.member (b.toValue.obj?.getD []) "uiSchema" = .obj ui := hui
  unfold importBundle
  simp only [Edit.bind_eq_ok_iff, Edit.lift_eq_ok_iff]
  refine ⟨(), s, ⟨hvalid, rfl⟩, _, _, hread, ?_⟩
  rw [hui']
  simp only [Edit.bind_eq_ok_iff, Edit.lift_eq_ok_iff]
  exact ⟨dressed, _, ⟨hdress, rfl⟩, rfl⟩

/-! ## Properties -/

/-- Widgets have nothing to do with where a property is. -/
theorem PropertyAt.of_undressed (h : d.undressed = g.undressed) {path : List String} {x : NodeId}
    (hx : g.PropertyAt path x) : d.PropertyAt path x := by
  have hsame : ∀ {n m : Node NodeId}, m.undressed = n.undressed → m.key = n.key ∧ m.kind = n.kind :=
    fun h => ⟨(Node.mk.inj h).1, congrArg Body.kind (Node.mk.inj h).2.1⟩
  have hroot : d.undressed.rootId = g.undressed.rootId := by rw [h]
  have howners : d.undressed.owners = g.undressed.owners := by rw [h]
  induction hx with
  | root => exact (show d.rootId = g.rootId from hroot) ▸ .root
  | property above object kind child node field ih =>
    obtain ⟨n, hn, hnsame⟩ := exists_node_of_undressed h object
    obtain ⟨m, hm, hmsame⟩ := exists_node_of_undressed h node
    rw [← (hsame hmsame).1]
    refine .property ih hn ((hsame hnsame).2.trans kind) ?_ hm ((hsame hmsame).2 ▸ field)
    unfold IsChild owningEdge
    rw [show d.owners = g.owners from howners]
    exact child

theorem proper_entryAt {ui entry : Members} (hp : (Value.obj ui).Proper) {path : List String}
    (h : entryAt ui path = some entry) : (Value.obj entry).Proper := by
  induction path generalizing entry with
  | nil =>
    rw [← Option.some.inj h]
    exact hp
  | cons key path ih =>
    obtain ⟨above, habove, hentry⟩ := entryAt_cons_iff.1 h
    exact hentry ▸ (ih habove).member key

/-- A property of a graph that has been dressed by the entry of a property of another graph, at the
same path and of the same kind, looks like that one. -/
theorem exists_look_of_wears (hs : Sound g) {ui : Members} (hp : (Value.obj ui).Proper)
    (hplain : ∀ x n, g.node? x = some n → n.Plain) (hpartly : g.PartlyWears ui d)
    (hwears : ∀ x, g.Wears ui d x) {key : String} {path : List String} {x : NodeId}
    (hx : g.PropertyAt (key :: path) x) {m : Node NodeId} (hm : g.node? x = some m)
    {entry : Members} (hentry : entryAt ui (key :: path) = some entry) (hr : registry.Regular)
    {n : Node NodeId} (htext : n.widget.holds = true → ∃ id, n.widget = .str id) {shown : Members}
    (hlook : look registry n = .ok shown) (hkind : m.kind = n.kind)
    (hnamed : ∀ k ∈ ["ui:widget", "ui:options"], Entries.find? entry k = Entries.find? shown k) :
    ∃ n' shown', d.node? x = some n' ∧ look registry n' = .ok shown' ∧
      Value.Alike (.obj shown) (.obj shown') := by
  obtain ⟨n', hn', -⟩ := exists_node_of_undressed hpartly.undressed hm
  obtain ⟨hwidget, hoptions⟩ := hplain x m hm
  have hworn : ∀ widget, Value.member entry "ui:widget" = .str widget → n' = m.dressed widget entry :=
    fun widget h => Option.some.inj
      (hn'.symm.trans (hwears x m widget entry hm ⟨key, path, hx, hentry, h⟩))
  have hbare : (∀ widget, Value.member entry "ui:widget" ≠ .str widget) → n' = m := by
    intro hno
    rcases hpartly.node x m hm with h | ⟨widget, entry', ⟨key', path', hx', hentry', h⟩, _⟩
    · exact Option.some.inj (hn'.symm.trans h)
    · rw [hx'.unique hs hx, hentry] at hentry'
      obtain rfl := Option.some.inj hentry'
      exact absurd h (hno widget)
  obtain ⟨shown', hshown', halike⟩ := exists_look_dressed hr htext hlook hkind hwidget hoptions
    (proper_entryAt hp hentry) hnamed hworn hbare
  exact ⟨n', shown', hn', hshown', halike⟩

/-! ## Reading back -/

/-- What a bundle of a graph keeps of it when it is read back: the document, the properties with their
looks, and of all other nodes no look at all. -/
structure Regained (cfg : DocumentConfig) (g : Graph) (b : Bundle) (g' : Graph) : Prop where
  /-- What is read back is written as the same document. -/
  document : ∃ c, g'.compile cfg = .ok c ∧ Value.Alike b.schema c.document
  /-- Every property is at the path where it was, and looks as it did. -/
  look : ∀ key path x n, g.PropertyAt (key :: path) x → g.node? x = some n →
    ∃ x' n' shown shown', g'.PropertyAt (key :: path) x' ∧ g'.node? x' = some n' ∧
      UiSchema.look .standard n = .ok shown ∧ UiSchema.look .standard n' = .ok shown' ∧
      Value.Alike (.obj shown) (.obj shown')
  /-- No property comes new. -/
  path : ∀ path x, g'.PropertyAt path x → ∃ x', g.PropertyAt path x'
  /-- Items of arrays, what is below groups and definitions have no widget. -/
  plain : ∀ x n, g'.node? x = some n → (∀ key path, ¬ g'.PropertyAt (key :: path) x) → n.Plain

end Graph

end FormGraph

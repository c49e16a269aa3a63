import FormGraph.Proofs.BranchAgreement
import FormGraph.Proofs.Describing.Renamed
import FormGraph.Proofs.Writing.Described
import FormGraph.Proofs.Writing.Wanted

/-!
# Signatures and documents

Graphs with the same signature are written as the same document, up to the order of the table of
definitions (`Graph.compile_eq_of_signature`). Their roots and their definitions are written alike, so
the same definitions are wanted in both. Whether the writing succeeds does not depend on the order of
the table either, as long as what is pointed at are texts: only these can always be sorted.
-/

namespace FormGraph

/-! ## Writings that are alike -/

namespace Compiling

variable {α : Type} {x y : Compiling α}

/-- What one of two writings that are alike comes to, the other does too, and it points at the
same. -/
theorem Alike.of_value (h : x.Alike y) {a : α} (hx : x.run.value = .ok a) :
    y.run.value = .ok a ∧ ∀ t, t ∈ y.references ↔ t ∈ x.references := by
  obtain ⟨hy, hrefs⟩ := (h a _).1 (yields_of_value hx)
  exact ⟨hy, Set.ext_iff.1 hrefs⟩

end Compiling

namespace Compile

open Graph Compiling

variable {g g' : Graph} {cfg : DocumentConfig}

/-- The two are one document, but for the order of the table of definitions. -/
def SameButTable (a b : Value) : Prop :=
  a = b ∨ ∃ members table table', table.Perm table' ∧
    a = .obj (Entries.put members definitionsKeyword (.obj table)) ∧
    b = .obj (Entries.put members definitionsKeyword (.obj table'))

/-- The roots and the definitions of two graphs are written alike, and the definitions have the same
names. -/
structure PartsAlike (g g' : Graph) (cfg : DocumentConfig) : Prop where
  /-- The names are the same, in any order. -/
  names : g.definitions.names.Perm g'.definitions.names
  /-- The roots are written alike. -/
  root : (rootWriting g cfg).Alike (rootWriting g' cfg)
  /-- So is every definition. -/
  definition : ∀ name, (definition g cfg name).Alike (definition g' cfg name)

theorem PartsAlike.symm (h : PartsAlike g g' cfg) : PartsAlike g' g cfg :=
  ⟨h.names.symm, h.root.symm, fun name => (h.definition name).symm⟩

/-- Where the parts of one graph can be written that have to be, the same definitions are wanted in
both. -/
theorem PartsAlike.wanted_iff (h : PartsAlike g g' cfg) {root : Value}
    (hroot : (rootWriting g cfg).run.value = .ok root)
    (hwrite : ∀ n, Wanted g cfg n → ∃ v, (Compile.definition g cfg n).run.value = .ok v)
    (n : String) : Wanted g cfg n ↔ Wanted g' cfg n := by
  have hpointed := (h.root.of_value hroot).2
  constructor
  · intro hwanted
    induction hwanted with
    | all emit known => exact .all emit (h.names.mem_iff.1 known)
    | root known pointed => exact .root (h.names.mem_iff.1 known) ((hpointed _).2 pointed)
    | definition wanted known pointed ih =>
      obtain ⟨v, hv⟩ := hwrite _ wanted
      exact .definition ih (h.names.mem_iff.1 known)
        ((((h.definition _).of_value hv).2 _).2 pointed)
  · intro hwanted
    induction hwanted with
    | all emit known => exact .all emit (h.names.mem_iff.2 known)
    | root known pointed => exact .root (h.names.mem_iff.2 known) ((hpointed _).1 pointed)
    | definition _ known pointed ih =>
      obtain ⟨v, hv⟩ := hwrite _ ih
      exact .definition ih (h.names.mem_iff.2 known)
        ((((h.definition _).of_value hv).2 _).1 pointed)

/-- Two graphs with parts that are written alike have the same document, if both have one. -/
theorem PartsAlike.document (h : PartsAlike g g' cfg) {doc doc' : Value}
    (hdoc : (document g cfg).run.value = .ok doc) (hdoc' : (document g' cfg).run.value = .ok doc') :
    SameButTable doc doc' := by
  obtain ⟨root, keep, hroot, hkeep, hwritten, rfl⟩ := document_ok hdoc
  obtain ⟨root', keep', hroot', hkeep', hwritten', rfl⟩ := document_ok hdoc'
  obtain rfl : root = root' :=
    Except.ok.inj ((h.root.of_value hroot).1.symm.trans hroot')
  have hwanted := h.wanted_iff hroot fun n hn => ⟨_, hwritten n hn⟩
  obtain rfl : keep = keep' := funext fun n =>
    Bool.eq_iff_iff.2 ((hkeep n).trans ((hwanted n).trans (hkeep' n).symm))
  have htable : (table g cfg keep).Perm (table g' cfg keep) := by
    have hsame : table g' cfg keep =
        (g'.definitions.names.filter keep).map fun n => (n, definitionValue g cfg n) := by
      refine List.map_congr_left fun n hn => ?_
      have hn := (hkeep n).1 (List.mem_filter.1 hn).2
      have hvalue := ((h.definition n).of_value (hwritten n hn)).1
      rw [Prod.mk.injEq]
      exact ⟨rfl, Except.ok.inj ((hwritten' n ((hwanted n).1 hn)).symm.trans hvalue)⟩
    rw [hsame]
    exact (h.names.filter keep).map _
  by_cases hempty : (table g cfg keep).isEmpty = true
  · have hempty' : (table g' cfg keep).isEmpty = true := by
      rw [List.isEmpty_iff] at hempty ⊢
      exact (hempty ▸ htable).nil_eq.symm
    rw [if_pos hempty, if_pos hempty']
    exact Or.inl rfl
  · have hempty' : ¬ (table g' cfg keep).isEmpty = true := by
      rw [List.isEmpty_iff] at hempty ⊢
      exact fun hnil => hempty (hnil ▸ htable).eq_nil
    rw [if_neg hempty, if_neg hempty']
    exact Or.inr ⟨_, _, _, htable, rfl, rfl⟩

/-- Where references point at texts, one of two graphs with parts that are written alike has a
document when the other does. -/
theorem PartsAlike.compile (h : PartsAlike g g' cfg) (ht : g.PointsAtTexts)
    (ht' : g'.PointsAtTexts) {r : Result} (hr : g.compile cfg = .ok r) :
    ∃ r', g'.compile cfg = .ok r' := by
  obtain ⟨⟨root, hroot⟩, hwrite⟩ := (compile_isOk_iff ht).1 ⟨r, hr⟩
  refine (compile_isOk_iff ht').2 ⟨⟨root, (h.root.of_value hroot).1⟩, fun n hn => ?_⟩
  obtain ⟨v, hv⟩ := hwrite n ((h.wanted_iff hroot hwrite n).2 hn)
  exact ⟨v, ((h.definition n).of_value hv).1⟩

/-! ## Definitions -/

/-- What a definition is written as is what its content is written as. -/
theorem definition_of_content {name : String} {id c : NodeId} {cs : List NodeId}
    {n : Node NodeId} (hid : g.definitions.find? name = some id) (hids : g.childIds id = c :: cs)
    (hn : g.node? c = some n) : Compile.definition g cfg name = node g cfg (depth g) c n := by
  have hcontent : g.content name = .ok (some (c, n)) := by
    rw [content, contentId?, hid, Option.bind_some, hids, List.head?_cons, Option.mapM_some,
      pointedAt_eq_ok_iff.2 hn]
    rfl
  unfold Compile.definition
  rw [hcontent]
  exact ofExcept_ok_bind _ _

theorem gives_of_no_content {name : String} {id : NodeId}
    (hid : g.definitions.find? name = some id) (hids : g.childIds id = []) :
    (Compile.definition g cfg name).Gives (.obj []) [] := by
  have hcontent : g.content name = .ok none := by
    rw [content, contentId?, hid, Option.bind_some, hids]
    rfl
  unfold Compile.definition
  rw [hcontent]
  exact (Gives.ofExcept rfl).after (.pure _)

/-- Definitions with the same description are written alike. -/
theorem alike_definition
    (hd : Determines g g' (Signature.node g (depth g)) (Signature.node g' (depth g'))
      (node g cfg (depth g)) (node g' cfg (depth g')))
    (hf : Forest g) (hf' : Forest g') {name : String} {id id' : NodeId}
    (hid : g.definitions.find? name = some id) (hid' : g'.definitions.find? name = some id')
    (h : Signature.Same (Signature.definition g false id) (Signature.definition g' false id')) :
    (Compile.definition g cfg name).Alike (Compile.definition g' cfg name) := by
  have hthere : ∀ {g : Graph} {id c : NodeId} {cs : List NodeId}, Forest g →
      g.childIds id = c :: cs → ∃ n, g.node? c = some n := by
    intro g id c cs hf hids
    exact Option.isSome_iff_exists.1 (hf.child_present (hids ▸ List.mem_cons_self))
  unfold Signature.definition at h
  cases hids : g.childIds id with
  | nil =>
    cases hids' : g'.childIds id' with
    | nil => exact .of_gives (gives_of_no_content hid hids) (gives_of_no_content hid' hids')
    | cons c' cs' =>
      obtain ⟨n', hn'⟩ := hthere hf' hids'
      rw [hids, hids'] at h
      obtain ⟨v, hv, hv'⟩ := h
      obtain rfl : .null = v := Except.ok.inj hv
      exact absurd hv' (hd.said' hn')
  | cons c cs =>
    obtain ⟨n, hn⟩ := hthere hf hids
    rw [hids] at h
    cases hids' : g'.childIds id' with
    | nil =>
      rw [hids'] at h
      obtain ⟨v, hv, hv'⟩ := h
      obtain rfl : .null = v := Except.ok.inj hv'
      exact absurd hv (hd.said hn)
    | cons c' cs' =>
      obtain ⟨n', hn'⟩ := hthere hf' hids'
      rw [hids'] at h
      rw [definition_of_content hid hids hn, definition_of_content hid' hids' hn']
      exact hd.writes hn hn' h

end Compile

/-! ## Signatures -/

namespace Graph

open Signature Compile

variable {g g' : Graph}

/-- Graphs with the same signature have roots with the same description, and definitions with the
same names and contents with the same descriptions. -/
theorem same_of_signature {v : Value} (h : g.signature false = .ok v)
    (h' : g'.signature false = .ok v) :
    Same (Signature.node g (depth g) ⟨false, false⟩ g.rootId)
        (Signature.node g' (depth g') ⟨false, false⟩ g'.rootId) ∧
      g.definitions.names.Perm g'.definitions.names ∧
      ∀ {name id id'}, g.definitions.find? name = some id → g'.definitions.find? name = some id' →
        Same (Signature.definition g false id) (Signature.definition g' false id') := by
  unfold signature at h h'
  obtain ⟨root, hroot, h⟩ := bind_eq_ok_iff.1 h
  obtain ⟨definitions, hdefinitions, h⟩ := bind_eq_ok_iff.1 h
  obtain rfl := pure_eq_ok_iff.1 h
  obtain ⟨root', hroot', h'⟩ := bind_eq_ok_iff.1 h'
  obtain ⟨definitions', hdefinitions', h'⟩ := bind_eq_ok_iff.1 h'
  have heq := pure_eq_ok_iff.1 h'
  simp only [Value.obj.injEq, List.cons.injEq, Prod.mk.injEq, true_and, and_true] at heq
  obtain ⟨rfl, rfl⟩ := heq
  have hrows : List.Forall₂ (fun d d' => d.1 = d'.1 ∧
      Same (Signature.definition g false d.2) (Signature.definition g' false d'.2))
      (g.definitions.entries.mergeSort fun a b => a.1 ≤ b.1)
      (g'.definitions.entries.mergeSort fun a b => a.1 ≤ b.1) := by
    refine (forall₂_same hdefinitions hdefinitions').imp fun d d' hsame => ?_
    obtain ⟨row, hrow, hrow'⟩ := hsame
    obtain ⟨w, hw, hrow⟩ := bind_eq_ok_iff.1 hrow
    obtain rfl := pure_eq_ok_iff.1 hrow
    obtain ⟨w', hw', hrow'⟩ := bind_eq_ok_iff.1 hrow'
    obtain ⟨hname, rfl⟩ := Prod.mk.inj (pure_eq_ok_iff.1 hrow')
    exact ⟨hname.symm, _, hw, hw'⟩
  have hperm := List.mergeSort_perm g.definitions.entries fun a b => a.1 ≤ b.1
  have hperm' := List.mergeSort_perm g'.definitions.entries fun a b => a.1 ≤ b.1
  refine ⟨⟨root', hroot, hroot'⟩, ?_, fun {name id id'} hid hid' => ?_⟩
  · have hsorted : (g.definitions.entries.mergeSort fun a b => a.1 ≤ b.1).map Prod.fst =
        (g'.definitions.entries.mergeSort fun a b => a.1 ≤ b.1).map Prod.fst :=
      List.forall₂_eq_eq_eq ▸ List.forall₂_map_left_iff.2 (List.forall₂_map_right_iff.2
        (hrows.imp fun _ _ h => h.1))
    exact (hperm.map Prod.fst).symm.trans (hsorted ▸ hperm'.map Prod.fst)
  · have hmem := hperm.mem_iff.2 (Table.mem_entries_iff.2 hid)
    obtain ⟨d', hd', rfl, hsame⟩ := exists_of_forall₂ hrows hmem
    have hfind := Table.mem_entries_iff.1 (hperm'.mem_iff.1 hd')
    obtain rfl : id' = d'.2 := Option.some.inj (hid'.symm.trans hfind)
    exact hsame

variable (hs : Sound g) (hs' : Sound g') (hb : g.BranchesThere) (hb' : g'.BranchesThere)

include hs hs' hb hb'

/-- Graphs with the same signature have parts that are written alike. -/
theorem partsAlike_of_signature {v : Value} (h : g.signature false = .ok v)
    (h' : g'.signature false = .ok v) (cfg : DocumentConfig) : PartsAlike g g' cfg := by
  obtain ⟨hroot, hnames, hdefinition⟩ := same_of_signature h h'
  have hd := determines_node cfg hs.toForest hs'.toForest hb hb' (depth g) (depth g')
  refine ⟨hnames, ?_, fun name => ?_⟩
  · obtain ⟨n, hn, -⟩ := hs.root
    obtain ⟨n', hn', -⟩ := hs'.root
    rw [rootWriting_eq (pointedAt_eq_ok_iff.2 hn), rootWriting_eq (pointedAt_eq_ok_iff.2 hn')]
    exact hd.writes hn hn' hroot
  · by_cases hname : name ∈ g.definitions.names
    · obtain ⟨id, hid⟩ := Option.isSome_iff_exists.1 (Table.mem_names_iff.1 hname)
      obtain ⟨id', hid'⟩ := Option.isSome_iff_exists.1
        (Table.mem_names_iff.1 (hnames.mem_iff.1 hname))
      exact alike_definition hd hs.toForest hs'.toForest hid hid' (hdefinition hid hid')
    · exact .of_gives (gives_unknown hname) (gives_unknown fun h => hname (hnames.mem_iff.2 h))

omit hs hs' hb hb'

/-- In a graph without drafts that have clauses from the start, no clause names a branch that is not
there. -/
theorem Reachable.branchesThere {s : IdSupply} (h : Reachable (fun _ c => c.Plain) g s) :
    g.BranchesThere := fun hn hc ht =>
  h.attached.target_present h.sound.1.toForest ⟨_, clausesAt_of_node? hn ▸ hc, ht⟩

/-- The signature determines the document: reachable graphs with the same signature, in which no clause
names a branch that is not there, are written as the same document but for the order of the table of
definitions. Where what references point at are texts, either both can be written or none. -/
theorem compile_eq_of_signature {allowed allowed' : Graph → Change → Prop} {s s' : IdSupply}
    (hg : Reachable allowed g s) (hg' : Reachable allowed' g' s') (hb : g.BranchesThere)
    (hb' : g'.BranchesThere) {v : Value} (h : g.signature false = .ok v)
    (h' : g'.signature false = .ok v) (cfg : DocumentConfig) :
    (∀ r r', g.compile cfg = .ok r → g'.compile cfg = .ok r' →
      SameButTable r.document r'.document) ∧
    (g.PointsAtTexts → g'.PointsAtTexts →
      ((∃ r, g.compile cfg = .ok r) ↔ ∃ r', g'.compile cfg = .ok r')) := by
  have hparts := partsAlike_of_signature hg.sound.1 hg'.sound.1 hb hb' h h' cfg
  refine ⟨fun r r' hr hr' => hparts.document (compile_document hr) (compile_document hr'),
    fun ht ht' => ⟨fun ⟨r, hr⟩ => hparts.compile ht ht' hr,
      fun ⟨r', hr'⟩ => hparts.symm.compile ht' ht hr'⟩⟩

/-- The description of a node does not depend on the table of definitions. -/
theorem node_withDefinitions (t : Table NodeId) (k : Nat) (depth : Nat) :
    Signature.node { g with definitions := t, version := k } depth = Signature.node g depth := by
  induction depth with
  | zero => rfl
  | succ depth ih =>
    funext view id
    rw [Signature.node, Signature.node, ih]
    rfl

/-- The signature does not depend on the order of the table of definitions. -/
theorem signature_withDefinitions {t : Table NodeId} (k : Nat)
    (h : t.entries.Perm g.definitions.entries) (widgets : Bool) :
    { g with definitions := t, version := k }.signature widgets = g.signature widgets := by
  have hsame := Entries.mergeSort_names_eq_of_perm g.definitions.nodup h
  have hdefinition : Signature.definition { g with definitions := t, version := k } widgets =
      Signature.definition g widgets := by
    funext id
    unfold Signature.definition
    rw [node_withDefinitions]
    rfl
  unfold signature
  rw [node_withDefinitions, hdefinition]
  dsimp only
  rw [hsame]

theorem signature_of_reordered
    (h : g' = { g with definitions := g'.definitions, version := g'.version })
    (hperm : g'.definitions.entries.Perm g.definitions.entries) (widgets : Bool) :
    g'.signature widgets = g.signature widgets :=
  (congrArg (fun g => signature g widgets) h).trans (signature_withDefinitions _ hperm widgets)

theorem exists_of_isOk {α : Type} {x : Except Fault α} (h : x.isOk = true) : ∃ a, x = .ok a := by
  cases x with
  | ok a => exact ⟨a, rfl⟩
  | error e => cases h

/-- Two definitions made in either order: the signatures are the same, and the documents are but for
the order of the table. -/
theorem compile_eq_of_two_definitions :
    ∃ g s g' s' v r r', Reachable (fun _ c => c.Plain) g s ∧
      Reachable (fun _ c => c.Plain) g' s' ∧ g.signature false = .ok v ∧
      g'.signature false = .ok v ∧ g.compile {} = .ok r ∧ g'.compile {} = .ok r' ∧
      r.document ≠ r'.document ∧ SameButTable r.document r'.document ∧ g.PointsAtTexts ∧
      g'.PointsAtTexts ∧ ((∃ r, g.compile {} = .ok r) ↔ ∃ r', g'.compile {} = .ok r') := by
  have ha : Reachable (fun _ c => c.Plain) _ _ :=
    .change (c := .createDefinition "a" (some { body := .boolean })) (.empty .null .null {}) rfl rfl
  have hab : Reachable (fun _ c => c.Plain) _ _ :=
    .change (c := .createDefinition "b" none) ha trivial rfl
  have haway : Reachable (fun _ c => c.Plain) _ _ :=
    .change (c := .renameDefinition "a" "c") hab trivial rfl
  have hback : Reachable (fun _ c => c.Plain) _ _ :=
    .change (c := .renameDefinition "c" "a") haway trivial rfl
  obtain ⟨g, s, g', s', hg, hg', hsame, hperm, hr, hr', hne, ht, ht'⟩ : ∃ g s g' s',
      Reachable (fun _ c => c.Plain) g s ∧ Reachable (fun _ c => c.Plain) g' s' ∧
      g' = { g with definitions := g'.definitions, version := g'.version } ∧
      g'.definitions.entries.Perm g.definitions.entries ∧ (g.compile {}).isOk = true ∧
      (g'.compile {}).isOk = true ∧
      (g.compile {}).map (·.document) ≠ (g'.compile {}).map (·.document) ∧ g.PointsAtTexts ∧
      g'.PointsAtTexts :=
    ⟨_, _, _, _, hab, hback, by decide +kernel, by decide +kernel, by decide +kernel,
      by decide +kernel, by decide +kernel, by decide +kernel, by decide +kernel⟩
  obtain ⟨v, hv⟩ := hg.attached.signature_total hg.sound.1 false
  have hv' : g'.signature false = .ok v := (signature_of_reordered hsame hperm false).trans hv
  obtain ⟨r, hr⟩ := exists_of_isOk hr
  obtain ⟨r', hr'⟩ := exists_of_isOk hr'
  obtain ⟨hdocument, hiff⟩ := compile_eq_of_signature hg hg' hg.branchesThere hg'.branchesThere
    hv hv' {}
  refine ⟨g, s, g', s', v, r, r', hg, hg', hv, hv', hr, hr', fun h => hne ?_, hdocument r r' hr hr',
    ht, ht', hiff ht ht'⟩
  rw [hr, hr']
  exact congrArg Except.ok h

/-- The signature does not determine the document where references point at something else than
texts: the order of the table may decide whether these can be sorted. Nor does it where a draft
brings in a clause with a branch that is not there: it is written as an empty object, but described
like none. -/
theorem exists_signature_not_document :
    (∃ g s g' s' v r', Reachable (fun _ c => c.Plain) g s ∧ Reachable (fun _ c => c.Plain) g' s' ∧
      g.signature false = .ok v ∧ g'.signature false = .ok v ∧ g'.compile {} = .ok r' ∧
      ∀ r, g.compile {} ≠ .ok r) ∧
    ∃ g s g' s' v r r', Reachable (fun _ _ => True) g s ∧ Reachable (fun _ _ => True) g' s' ∧
      g.signature false = .ok v ∧ g'.signature false = .ok v ∧ g.compile {} = .ok r ∧
      g'.compile {} = .ok r' ∧ ¬ SameButTable r.document r'.document := by
  constructor
  · have hfirst : Reachable (fun _ c => c.Plain) _ _ :=
      .change (c := .createDefinition "A" (some { body := .object {} })) (.empty .null .null {})
        rfl rfl
    have hnumber : Reachable (fun _ c => c.Plain) _ _ :=
      .change (c := .add { body := .reference (.int 1), key := .str "a" } "n2" .child none) hfirst
        rfl rfl
    have htext : Reachable (fun _ c => c.Plain) _ _ :=
      .change (c := .add { body := .reference (.str "B"), key := .str "b" } "n2" .child none)
        hnumber rfl rfl
    have hsecond : Reachable (fun _ c => c.Plain) _ _ :=
      .change (c := .createDefinition "B" none) htext trivial rfl
    have haway : Reachable (fun _ c => c.Plain) _ _ :=
      .change (c := .renameDefinition "A" "T") hsecond trivial rfl
    have hback : Reachable (fun _ c => c.Plain) _ _ :=
      .change (c := .renameDefinition "T" "A") haway trivial rfl
    obtain ⟨g, s, g', s', hg, hg', hsame, hperm, hr, hr'⟩ : ∃ g s g' s',
        Reachable (fun _ c => c.Plain) g s ∧ Reachable (fun _ c => c.Plain) g' s' ∧
        g' = { g with definitions := g'.definitions, version := g'.version } ∧
        g'.definitions.entries.Perm g.definitions.entries ∧ (g.compile {}).isOk = false ∧
        (g'.compile {}).isOk = true :=
      ⟨_, _, _, _, hsecond, hback, by decide +kernel, by decide +kernel, by decide +kernel,
        by decide +kernel⟩
    obtain ⟨v, hv⟩ := hg.attached.signature_total hg.sound.1 false
    obtain ⟨r', hr'⟩ := exists_of_isOk hr'
    refine ⟨g, s, g', s', v, r', hg, hg', hv, (signature_of_reordered hsame hperm false).trans hv,
      hr', fun r h => ?_⟩
    rw [h] at hr
    cases hr
  · have hmissing : Reachable (fun _ _ => True) _ _ :=
      .change (c := .add { body := .group .allOf [⟨.blank, some "n9", none⟩] } rootName .child none)
        (.empty .null .null {}) trivial rfl
    have hnone : Reachable (fun _ _ => True) _ _ :=
      .change (c := .add { body := .group .allOf [⟨.blank, none, none⟩] } rootName .child none)
        (.empty .null .null {}) trivial rfl
    obtain ⟨g, s, g', s', hg, hg', hv, hsame, hr, hr', hne, hplain⟩ : ∃ g s g' s',
        Reachable (fun _ _ => True) g s ∧ Reachable (fun _ _ => True) g' s' ∧
        (g.signature false).isOk = true ∧ g.signature false = g'.signature false ∧
        (g.compile {}).isOk = true ∧ (g'.compile {}).isOk = true ∧
        (g.compile {}).map (·.document) ≠ (g'.compile {}).map (·.document) ∧
        (g.compile {}).map (fun r => Value.member (r.document.obj?.getD []) definitionsKeyword) =
          .ok .null :=
      ⟨_, _, _, _, hmissing, hnone, by decide +kernel, by decide +kernel, by decide +kernel,
        by decide +kernel, by decide +kernel, by decide +kernel⟩
    obtain ⟨v, hv⟩ := exists_of_isOk hv
    obtain ⟨r, hr⟩ := exists_of_isOk hr
    obtain ⟨r', hr'⟩ := exists_of_isOk hr'
    refine ⟨g, s, g', s', v, r, r', hg, hg', hv, hsame ▸ hv, hr, hr', ?_⟩
    rw [hr, hr'] at hne
    rw [hr] at hplain
    rintro (heq | ⟨members, table, _, _, htable, _⟩)
    · exact hne (congrArg Except.ok heq)
    · have hmember : Value.member (r.document.obj?.getD []) definitionsKeyword = .null :=
        Except.ok.inj hplain
      rw [htable] at hmember
      simp [Value.obj?, Value.member, Entries.find?_put] at hmember

end Graph

end FormGraph

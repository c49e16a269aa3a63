import FormGraph.Proofs.Promotion.Table
import FormGraph.Proofs.Reachable
import FormGraph.Proofs.Sorted
import FormGraph.Proofs.Writing.Pointing

/-!
# Which definitions a document has

A document has the definitions that its references need and no others, unless all of them are asked
for. `Emitted` says which these are in terms of the graph alone: those that can be reached from the
root through references that are written and the contents of definitions. They are those that the
writer wants as it goes along (`emitted_iff_wanted`). Of what the references in the document point at,
the rest is warned about, in order and once each (`Graph.compile_emission`).
-/

namespace FormGraph

namespace Compile

open Graph Compiling

variable {g : Graph} {cfg : DocumentConfig}

/-! ## The definitions that are needed -/

/-- The definitions that a document has: the least set of names of definitions that has all of them,
where that is asked for, those that a reference written with the root points at, and those that a
reference written with the content of one of them points at. -/
inductive Emitted (g : Graph) (cfg : DocumentConfig) : String → Prop where
  /-- All are, where that is asked for. -/
  | all {name : String} (emit : cfg.emitUnreferenced = true) (known : name ∈ g.definitions.names) :
    Emitted g cfg name
  /-- Those are that a reference written with the root points at, -/
  | root {name : String} (known : name ∈ g.definitions.names)
    (pointed : g.PointsFrom g.rootId (.str name)) : Emitted g cfg name
  /-- and those that a reference points at which is written with the content of a definition that
  the document has. -/
  | definition {name target : String} {top : NodeId} (emitted : Emitted g cfg name)
    (content : g.contentId? name = some top) (known : target ∈ g.definitions.names)
    (pointed : g.PointsFrom top (.str target)) : Emitted g cfg target

theorem Emitted.known {name : String} (h : Emitted g cfg name) : name ∈ g.definitions.names := by
  cases h <;> assumption

/-- A reference in the document points at the value. -/
def PointedAt (g : Graph) (cfg : DocumentConfig) (t : Value) : Prop :=
  g.PointsFrom g.rootId t ∨
    ∃ name top, Emitted g cfg name ∧ g.contentId? name = some top ∧ g.PointsFrom top t

section Written

variable {root : Value} (hroot : (rootWriting g cfg).run.value = .ok root)

include hroot

theorem wanted_of_emitted {name : String} (h : Emitted g cfg name)
    (hwrite : ∀ n, Emitted g cfg n → Wanted g cfg n →
      ∃ v, (definition g cfg n).run.value = .ok v) : Wanted g cfg name := by
  induction h with
  | all emit known => exact .all emit known
  | root known pointed => exact .root known ((pointsAt_rootWriting root hroot _).2 pointed)
  | @definition name target top emitted content known pointed ih =>
    obtain ⟨v, hv⟩ := hwrite name emitted ih
    exact .definition ih known ((pointsAt_definition name v hv _).2 ⟨top, content, pointed⟩)

theorem emitted_of_wanted {name : String} (h : Wanted g cfg name)
    (hwrite : ∀ n, Emitted g cfg n → Wanted g cfg n →
      ∃ v, (definition g cfg n).run.value = .ok v) : Emitted g cfg name := by
  induction h with
  | all emit known => exact .all emit known
  | root known pointed => exact .root known ((pointsAt_rootWriting root hroot _).1 pointed)
  | @definition name target wanted known pointed ih =>
    obtain ⟨v, hv⟩ := hwrite name ih wanted
    obtain ⟨top, content, pointed⟩ := (pointsAt_definition name v hv _).1 pointed
    exact .definition ih content known pointed

/-- Where the root and the definitions that are wanted can be written, these are the ones that are
needed. -/
theorem emitted_iff_wanted
    (hwrite : ∀ n, Wanted g cfg n → ∃ v, (definition g cfg n).run.value = .ok v) {name : String} :
    Emitted g cfg name ↔ Wanted g cfg name :=
  ⟨fun h => wanted_of_emitted hroot h fun n _ hn => hwrite n hn,
    fun h => emitted_of_wanted hroot h fun n _ hn => hwrite n hn⟩

end Written

/-- What is pointed at while a document is written is what the references in it point at. -/
theorem mem_references_document_iff_pointedAt {doc : Value}
    (h : (document g cfg).run.value = .ok doc) {t : Value} :
    t ∈ (document g cfg).references ↔ PointedAt g cfg t := by
  obtain ⟨root, keep, hroot, hkeep, hwritten, -⟩ := document_ok h
  have hemitted : ∀ n, Emitted g cfg n ↔ Wanted g cfg n :=
    fun n => emitted_iff_wanted hroot fun n hn => ⟨_, hwritten n hn⟩
  have hpoints : ∀ n, Wanted g cfg n → (t ∈ (definition g cfg n).references ↔
      ∃ top, g.contentId? n = some top ∧ g.PointsFrom top t) :=
    fun n hn => pointsAt_definition n _ (hwritten n hn) t
  rw [mem_references_document_iff h, pointsAt_rootWriting root hroot t]
  refine or_congr_right (exists_congr fun n => ?_)
  rw [exists_and_left, ← hemitted n]
  exact and_congr_right fun hn => hpoints n ((hemitted n).1 hn)

/-! ## Warnings about what is not defined -/

/-- The warning that there is no such definition. -/
def unknownWarning (target : Value) : String :=
  "Reference to unknown definition '" ++ target.plainSequence ++ "'"

theorem head?_append {front rest : String} {c : Char} (h : front.toList.head? = some c) :
    (front ++ rest).toList.head? = some c := by
  rw [String.toList_append, List.head?_append, h]
  rfl

/-- What is remarked on while nodes are written is something else. -/
theorem IsRemark.ne_unknownWarning {text : String} (h : IsRemark text) (target : Value) :
    text ≠ unknownWarning target := by
  have hunknown : (unknownWarning target).toList.head? = some 'R' :=
    head?_append (head?_append rfl)
  rintro rfl
  generalize htext : unknownWarning target = text at h hunknown
  cases h with
  | unused =>
    rw [head?_append (head?_append (head?_append (head?_append (c := 'B') rfl)))] at hunknown
    cases hunknown
  | missing =>
    rw [head?_append (head?_append (c := 'C') rfl)] at hunknown
    cases hunknown
  | dropped =>
    rw [head?_append (head?_append (c := 'O') rfl)] at hunknown
    cases hunknown

/-- What is noted while a document is written: remarks, and targets by which can be looked up. -/
theorem all_document_notes : (document g cfg).run.All fun note =>
    (∀ text, note.warning? = some text → IsRemark text) ∧
      ∀ t, note.reference? = some t → t.isLookup = true := by
  have hwarning : ∀ text, IsRemark text →
      (∀ t, (CompileNote.warning text).warning? = some t → IsRemark t) ∧
        ∀ t, (CompileNote.warning text).reference? = some t → t.isLookup = true := by
    intro text htext
    refine ⟨fun t ht => ?_, fun t ht => by cases ht⟩
    exact Option.some.inj ht ▸ htext
  have htarget : ∀ (id : NodeId) (n : Node NodeId) (t : Value), g.node? id = some n →
      n.target? = some t → t.isLookup = true →
        (∀ text, (CompileNote.reference t).warning? = some text → IsRemark text) ∧
          ∀ u, (CompileNote.reference t).reference? = some u → u.isLookup = true := by
    intro id n t _ _ hlookup
    refine ⟨fun text h => (nomatch h), fun u hu => ?_⟩
    exact Option.some.inj hu ▸ hlookup
  exact all_document (fun n hn => all_node hwarning htarget _ _ n (pointedAt_eq_ok_iff.1 hn))
    (all_definition hwarning htarget)

/-- A value that names no definition. -/
def Undefined (g : Graph) (t : Value) : Prop := ∀ n ∈ g.definitions.names, t ≠ .str n

theorem undefined_iff {t : Value} :
    (!t.str?.any g.definitions.has) = true ↔ Undefined g t := by
  have hhas : ∀ n, g.definitions.has n = true ↔ n ∈ g.definitions.names :=
    fun n => Entries.has_eq_true_iff
  rw [Bool.not_eq_true', ← Bool.not_eq_true, Undefined]
  cases t with
  | str s =>
    rw [show (Value.str s).str?.any g.definitions.has = g.definitions.has s from rfl, hhas]
    exact ⟨fun h n hn heq => h (Value.str.inj heq ▸ hn), fun h hs => h s hs rfl⟩
  | null | bool | int | float | list | obj =>
    exact iff_of_true (by simp [Value.str?]) fun n _ h => by cases h

/-- The warnings about a document that was written: what was remarked on, and then the values that
references in it point at and that name no definition, in order and each once. -/
theorem warnings_of_compile {r : Compile.Result} (h : g.compile cfg = .ok r) :
    ∃ (remarks : List String) (undefined : List Value),
      r.warnings = remarks ++ undefined.map unknownWarning ∧
      (∀ text ∈ remarks, ∀ t, text ≠ unknownWarning t) ∧
      undefined.Pairwise Value.Before ∧
      (∀ t ∈ undefined, PointedAt g cfg t ∧ Undefined g t) ∧
      ∀ t, PointedAt g cfg t → Undefined g t → ∃ u ∈ undefined, t.same u = true := by
  have hpointed := fun {t} => mem_references_document_iff_pointedAt (t := t) (compile_document h)
  unfold Graph.compile at h
  obtain ⟨doc, -, h⟩ := bind_eq_ok_iff.1 h
  obtain ⟨missing, hmissing, h⟩ := bind_eq_ok_iff.1 h
  obtain rfl := pure_eq_ok_iff.1 h
  have hmem : ∀ t, t ∈ (document g cfg).references.filter
      (fun target => !target.str?.any g.definitions.has) ↔ PointedAt g cfg t ∧ Undefined g t :=
    fun t => by rw [List.mem_filter, hpointed, undefined_iff]
  obtain ⟨hsorted, hsub, hall⟩ := Value.ascending?_sorted (fun t ht => by
    obtain ⟨note, hnote, heq⟩ := List.mem_filterMap.1 (List.mem_filter.1 ht).1
    exact (all_document_notes note hnote).2 t heq) (orBreakDown_eq_ok_iff.1 hmissing)
  refine ⟨_, missing, rfl, fun text htext t => ?_, hsorted, fun t ht => (hmem t).1 (hsub t ht),
    fun t ht hundefined => hall t ((hmem t).2 ⟨ht, hundefined⟩)⟩
  obtain ⟨note, hnote, heq⟩ := List.mem_filterMap.1 htext
  exact ((all_document_notes note hnote).1 text heq).ne_unknownWarning t

/-! ## What a document says about definitions -/

/-- What a document that was written has and warns about, given the names of the definitions in it,
what was remarked on, and what is warned about because it is not defined. -/
structure Emission (g : Graph) (cfg : DocumentConfig) (r : Compile.Result) (names : List String)
    (remarks : List String) (undefined : List Value) : Prop where
  /-- The names are in the order of the graph, -/
  in_order : names.Sublist g.definitions.names
  /-- each once, -/
  once : names.Nodup
  /-- and they are those of the definitions that are needed. -/
  mem_iff : ∀ n, n ∈ names ↔ Emitted g cfg n
  /-- The table of the document has these definitions and no others; without any there is none. -/
  table_eq : ∃ members, r.document = .obj members ∧
    Entries.find? members definitionsKeyword = if names.isEmpty then none
      else some (.obj (names.map fun n => (n, definitionValue g cfg n)))
  /-- What stands there is what the content of the definition is written as. -/
  value_eq : ∀ n ∈ names, (definition g cfg n).run.value = .ok (definitionValue g cfg n)
  /-- The warnings about what is not defined are the last, -/
  warnings_eq : r.warnings = remarks ++ undefined.map unknownWarning
  /-- and there are no others of them. -/
  remarks_ne : ∀ text ∈ remarks, ∀ t, text ≠ unknownWarning t
  /-- They are in order, and each is there once. -/
  ascending : undefined.Pairwise Value.Before
  /-- They are about what references in the document point at and what is not defined, -/
  undefined_of_mem : ∀ t ∈ undefined, PointedAt g cfg t ∧ Undefined g t
  /-- and about all of that. -/
  mem_of_undefined : ∀ t, PointedAt g cfg t → Undefined g t → ∃ u ∈ undefined, t.same u = true

/-- The table of a document is that of the definitions that are needed, if there are any. -/
theorem table_of_document {doc : Value} (h : (document g cfg).run.value = .ok doc)
    (hroot : ∀ root, (rootWriting g cfg).run.value = .ok root →
      Entries.find? (root.obj?.getD []) definitionsKeyword = none) :
    ∃ (members : Members) (names : List String), doc = .obj members ∧
      names.Sublist g.definitions.names ∧ (∀ n, n ∈ names ↔ Emitted g cfg n) ∧
      (∀ n ∈ names, (definition g cfg n).run.value = .ok (definitionValue g cfg n)) ∧
      Entries.find? members definitionsKeyword = if names.isEmpty then none
        else some (.obj (names.map fun n => (n, definitionValue g cfg n))) := by
  obtain ⟨root, keep, hwritten, hkeep, hdefinition, rfl⟩ := document_ok h
  have hmem : ∀ n, n ∈ g.definitions.names.filter keep ↔ Wanted g cfg n := fun n => by
    rw [List.mem_filter, hkeep]
    exact and_iff_right_of_imp Wanted.known
  refine ⟨_, _, rfl, List.filter_sublist, fun n => ?_, fun n hn => hdefinition n ((hmem n).1 hn),
    ?_⟩
  · rw [hmem, emitted_iff_wanted hwritten fun n hn => ⟨_, hdefinition n hn⟩]
  · have hempty : (table g cfg keep).isEmpty = (g.definitions.names.filter keep).isEmpty := by
      rw [table, List.isEmpty_map]
    rw [hempty]
    split_ifs with hnone
    · exact hroot root hwritten
    · rw [Entries.find?_put, if_pos rfl]
      rfl

end Compile

namespace Graph

open Compile

variable {g : Graph}

/-- A graph whose references point at texts can be written exactly when its root and the definitions
that are needed can. -/
theorem compile_isOk_iff_emitted {cfg : DocumentConfig} (ht : g.PointsAtTexts) :
    (∃ r, g.compile cfg = .ok r) ↔ (∃ v, (rootWriting g cfg).run.value = .ok v) ∧
      ∀ n, Emitted g cfg n → ∃ v, (definition g cfg n).run.value = .ok v := by
  rw [compile_isOk_iff ht]
  refine and_congr_right fun ⟨root, hroot⟩ => ?_
  constructor
  · exact fun hwrite n hn => hwrite n ((emitted_iff_wanted hroot hwrite).1 hn)
  · exact fun hwrite n hn =>
      hwrite n (emitted_of_wanted hroot hn fun m hm _ => hwrite m hm)

/-- Where no table of definitions was kept at the root of a reachable graph, the table of the document
has exactly the definitions that can be reached from the root along the references that are written,
or all if that is asked for, in the order of the graph; and of what these references point at, the
warnings name exactly what is not defined, in order and once each. The loop that finds the
definitions comes to an end however they point at each other, and the writer stops at this end. Where
references point at texts, the document can be written exactly when the root and these definitions
can. -/
theorem compile_emission {s : IdSupply} (hg : Reachable (fun _ _ => True) g s)
    (hextras : ∀ n, g.node? g.rootId = some n →
      Entries.find? n.extras definitionsKeyword = none) (cfg : DocumentConfig) :
    (WellFounded fun w' w => Turn g cfg w w') ∧
    (∀ (written : Members) (refs : List Value),
      (Compile.definitions g cfg (g.definitions.size + g.nodes.size + 1)
          (WorkList.start g cfg).pointedAt (WorkList.start g cfg).written
          (WorkList.start g cfg).waiting).Gives written refs ↔
        Relation.ReflTransGen (Turn g cfg) (.start g cfg)
          ⟨(WorkList.start g cfg).pointedAt ++ refs, written, []⟩) ∧
    (g.PointsAtTexts → ((∃ r, g.compile cfg = .ok r) ↔
      (∃ v, (rootWriting g cfg).run.value = .ok v) ∧
        ∀ n, Emitted g cfg n → ∃ v, (definition g cfg n).run.value = .ok v)) ∧
    ∀ r, g.compile cfg = .ok r →
      ∃ names remarks undefined, Emission g cfg r names remarks undefined := by
  refine ⟨wellFounded_turn g cfg, fun _ _ => gives_definitions_iff _ (WorkList.budget_start_lt g cfg),
    compile_isOk_iff_emitted, fun r h => ?_⟩
  have hdocument := compile_document h
  obtain ⟨members, names, hdoc, horder, hmem, hvalue, htable⟩ :=
    table_of_document hdocument fun root hroot => by
      obtain ⟨n, hn, hroot⟩ := Compiling.value_bind_eq_ok_iff.1 hroot
      have hn : g.node? g.rootId = some n := pointedAt_eq_ok_iff.1 hn
      exact find?_definitions_node (hg.sound.1.root_kind hn) (hextras n hn) hroot
  obtain ⟨remarks, undefined, hwarnings, hremarks, hascending, hsub, hall⟩ := warnings_of_compile h
  exact ⟨names, remarks, undefined, horder, horder.nodup g.definitions.nodup, hmem,
    ⟨members, hdoc, htable⟩, hvalue, hwarnings, hremarks, hascending, hsub, hall⟩

/-- A definition that refers to itself and another one that refers back to it, beside one that nothing
refers to, and references to two names that are not defined. -/
theorem emission_of_recursive_definitions :
    ∃ (g : Graph) (s : IdSupply) (r : Compile.Result) (names remarks : List String)
      (undefined : List Value), Reachable (fun _ _ => True) g s ∧
      (∀ n, g.node? g.rootId = some n → Entries.find? n.extras definitionsKeyword = none) ∧
      g.compile { emitUnreferenced := false } = .ok r ∧
      Emission g { emitUnreferenced := false } r names remarks undefined ∧
      "leaf" ∈ names ∧ "tree" ∈ names ∧ "spare" ∈ g.definitions.names ∧ "spare" ∉ names ∧
      .str "absent" ∈ undefined ∧ .str "ghost" ∈ undefined := by
  have hproper : (Value.obj [
      ("properties", .obj [("a", .obj [("$ref", .str "#/definitions/tree")])]),
      ("definitions", .obj [
        ("spare", .obj [("$ref", .str "#/definitions/leaf")]),
        ("leaf", .obj [("properties", .obj [("up", .obj [("$ref", .str "#/definitions/tree")])])]),
        ("tree", .obj [("properties", .obj [("self", .obj [("$ref", .str "#/definitions/tree")]),
          ("down", .obj [("$ref", .str "#/definitions/leaf")])])])])]).Proper :=
    Value.proper_of_everywhere (by decide)
  have hread : Reachable (fun _ _ => True) _ _ :=
    .document hproper (rfl : (decompile _ {}).run {} = .ok _)
  have hghost : Reachable (fun _ _ => True) _ _ :=
    .change (c := .add { body := .reference (.str "ghost") } rootName .child none) hread trivial rfl
  have hboth : Reachable (fun _ _ => True) _ _ :=
    .change (c := .add { body := .reference (.str "absent") } "n7" .child none) hghost trivial rfl
  obtain ⟨g, s, hg, hextras, htexts, hdefined, hroot, hwrite, ha, hdown, hcontent, hspare, hlost⟩ :
      ∃ (g : Graph) (s : IdSupply), Reachable (fun _ _ => True) g s ∧
        (∀ n, g.node? g.rootId = some n → Entries.find? n.extras definitionsKeyword = none) ∧
        g.PointsAtTexts ∧ g.definitions.names = ["spare", "leaf", "tree"] ∧
        (∃ v, (rootWriting g { emitUnreferenced := false }).run.value = .ok v) ∧
        (∀ n ∈ ["spare", "leaf", "tree"],
          ∃ v, (definition g { emitUnreferenced := false } n).run.value = .ok v) ∧
        g.PointsFrom g.rootId (.str "tree") ∧ g.PointsFrom "n7" (.str "leaf") ∧
        g.contentId? "tree" = some "n7" ∧
        (∀ n ∈ g.nodes.values, n.target? ≠ some (.str "spare")) ∧
        g.PointsFrom g.rootId (.str "ghost") ∧ g.PointsFrom "n7" (.str "absent") := by
    refine ⟨_, _, hboth, ?_, by decide, rfl, ⟨_, rfl⟩, ?_,
      ⟨"n10", _, .single (.child rfl rfl (by decide)), rfl, rfl⟩,
      ⟨"n9", _, .single (.child rfl rfl (by decide)), rfl, rfl⟩, rfl, by decide,
      ⟨"n11", _, .single (.child rfl rfl (by decide)), rfl, rfl⟩,
      ⟨"n12", _, .single (.child rfl rfl (by decide)), rfl, rfl⟩⟩
    · rintro n hn
      cases hn
      rfl
    · intro n hn
      obtain rfl | rfl | rfl : n = "spare" ∨ n = "leaf" ∨ n = "tree" := by simpa using hn
      all_goals exact ⟨_, rfl⟩
  have hknown : ∀ n, n ∈ g.definitions.names ↔ n = "spare" ∨ n = "leaf" ∨ n = "tree" := by
    simp [hdefined]
  have hnone : ∀ {x}, ¬ g.PointsFrom x (.str "spare") := fun ⟨_, n, _, hn, ht⟩ =>
    hspare n (List.mem_map.2 ⟨(_, n), Table.mem_entries_iff.2 hn, rfl⟩) ht
  have htree : Emitted g { emitUnreferenced := false } "tree" := .root ((hknown _).2 (by simp)) ha
  have hleaf : Emitted g { emitUnreferenced := false } "leaf" :=
    .definition htree hcontent ((hknown _).2 (by simp)) hdown
  obtain ⟨-, -, hok, hall⟩ := compile_emission hg hextras { emitUnreferenced := false }
  obtain ⟨r, hr⟩ := (hok htexts).2 ⟨hroot, fun n hn => hwrite n (hdefined ▸ hn.known)⟩
  obtain ⟨names, remarks, undefined, h⟩ := hall r hr
  have hundefined : ∀ s, s ∉ g.definitions.names → PointedAt g { emitUnreferenced := false } (.str s) →
      .str s ∈ undefined := by
    intro s hs hp
    obtain ⟨u, hu, hsame⟩ := h.mem_of_undefined _ hp fun n hn heq => hs (Value.str.inj heq ▸ hn)
    exact Value.str_same.1 hsame ▸ hu
  refine ⟨g, s, r, names, remarks, undefined, hg, hextras, hr, h, (h.mem_iff _).2 hleaf,
    (h.mem_iff _).2 htree, (hknown _).2 (by simp), fun hn => ?_,
    hundefined _ (by simp [hknown]) (.inr ⟨"tree", "n7", htree, hcontent, hlost.2⟩),
    hundefined _ (by simp [hknown]) (.inl hlost.1)⟩
  cases (h.mem_iff _).1 hn with
  | all emit => cases emit
  | root _ pointed => exact hnone pointed
  | definition _ _ _ pointed => exact hnone pointed

end Graph

end FormGraph

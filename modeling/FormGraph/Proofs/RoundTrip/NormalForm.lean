import FormGraph.Proofs.Reread.Determined
import FormGraph.Proofs.Reread.Proper
import FormGraph.Proofs.Imported
import FormGraph.Proofs.Writing.LaidOut
import FormGraph.Proofs.Writing.Outlined

/-!
# One import reaches a normal form

What is written of a graph that was read is read back, and written again it is the same document
(`compile_alike_of_decompile`). The second document mirrors the first one part for part, and since
outlines that are written alike point at the same definitions, those that are wanted once are wanted
again.
-/

namespace FormGraph

namespace DocumentOutline

open Compile Decompile

variable {cfg : DocumentConfig} {keep keep' : String → Bool} {d d' : DocumentOutline}

/-! ## Written again -/

namespace Readable

/-- The root of a proper document is proper. -/
theorem proper_rootMembers (hr : d.Readable) (hp : (d.written cfg keep).Proper) :
    (Value.obj (d.rootMembers cfg)).Proper := by
  have hfree : definitionsKeyword ∉ Entries.names (d.rootMembers cfg) :=
    Entries.find?_eq_none_iff.1 (hr.find?_table cfg)
  rw [written_eq, members] at hp
  split_ifs at hp
  · exact hp
  · rw [Entries.put_of_not_mem hfree] at hp
    cases hp with
    | obj names_nodup members_proper =>
      refine .obj ?_ fun m hm => members_proper m (List.mem_append_left _ hm)
      exact names_nodup.sublist ((List.sublist_append_left _ _).map _)

/-- So is the table of its definitions. -/
theorem proper_table (hr : d.Readable) (hp : (d.written cfg keep).Proper) :
    ∀ e ∈ d.kept keep, (e.written cfg).Proper := by
  intro e he
  have hmem : (e.name, e.written cfg) ∈ d.table cfg keep :=
    table_eq cfg keep d ▸ List.mem_map_of_mem (f := fun e => (e.name, e.written cfg)) he
  have hfind := @find?_members_table cfg keep d (hr.find?_table cfg)
  rw [if_neg (by simp [List.ne_nil_of_mem hmem])] at hfind
  rw [written_eq] at hp
  exact (hp.of_find? hfind).of_mem hmem

end Readable

/-- What a definition is read back as is written alike. -/
theorem alike_of_mirrors {e e' : DefinitionOutline} (h : e.Mirrors cfg e')
    (hp : (e.written cfg).Proper) :
    Value.Alike (e.written cfg) (e'.written cfg) := by
  have hrel := h.content
  unfold DefinitionOutline.written at hp ⊢
  generalize e.content = content at hp hrel ⊢
  generalize e'.content = content' at hrel
  cases hrel with
  | none => exact .refl _
  | some h => exact h.alike hp

/-- What a document is read back as is written alike, when everything in it is kept. -/
theorem Mirrors.written_alike (hm : d.Mirrors cfg keep d') (hr : d.Readable) (hr' : d'.Readable)
    (hp : (d.written cfg keep).Proper) (hkeep : ∀ e ∈ d'.definitions, keep' e.name = true) :
    Value.Alike (d.written cfg keep) (d'.written cfg keep') := by
  have hkept : d'.kept keep' = d'.definitions := List.filter_eq_self.2 hkeep
  have hforall := hm.definitions
  have htable : Value.Alike (.obj (d.table cfg keep)) (.obj (d'.table cfg keep')) := by
    rw [table_eq, table_eq, hkept]
    refine Outline.alike_of_forall₂ ?_
    rw [List.forall₂_map_left_iff, List.forall₂_map_right_iff]
    exact ((List.forall₂_and_left _ _).2 ⟨hr.proper_table hp, hforall⟩).imp fun e e' h =>
      ⟨h.2.name, alike_of_mirrors h.2 h.1⟩
  have hempty : (d.table cfg keep).isEmpty = (d'.table cfg keep').isEmpty := by
    rw [table_eq, table_eq, hkept]
    generalize d.kept keep = es at hforall
    generalize d'.definitions = es' at hforall
    cases hforall <;> rfl
  have hroot : Value.Alike (.obj (d.rootMembers cfg)) (.obj (d'.rootMembers cfg)) := by
    rw [Readable.rootMembers_eq, Readable.rootMembers_eq, ← Readable.written_root,
      ← Readable.written_root]
    refine hm.root.alike ?_
    rw [Readable.written_root, ← Readable.rootMembers_eq]
    exact hr.proper_rootMembers hp
  rw [written_eq, written_eq, Value.alike_obj_iff]
  intro k
  by_cases hk : k = definitionsKeyword
  · subst hk
    rw [find?_members_table (hr.find?_table cfg), find?_members_table (hr'.find?_table cfg), hempty]
    split
    · trivial
    · exact htable
  · rw [find?_members hk, find?_members hk]
    exact Value.alike_obj_iff.1 hroot k

/-! ## Documents that were read -/

/-- An outline of a document that was read: it can be written and read back, and its values are
proper. -/
structure WasRead (d : DocumentOutline) : Prop where
  /-- It is one that a graph can show. -/
  fits : d.Fits
  /-- It can be read back. -/
  readable : d.Readable
  /-- Its values are proper. -/
  proper : d.Proper

theorem WasRead.writable (h : d.WasRead) : d.Writable := h.readable.writable h.fits

theorem wasRead_of_outlineOf {document : Value} (hp : document.Proper) {cfg : DocumentConfig}
    {warnings : List String} (h : Graph.outlineOf document cfg = .ok (d, warnings)) :
    d.WasRead := by
  have hfits := Graph.fits_of_outlineOf hp h
  obtain ⟨members, rfl, hcalm, hvalue⟩ := Graph.calm_of_outlineOf h
  obtain rfl : d = (outline cfg.tupleItems members).value := hvalue
  exact ⟨hfits, readable_outline cfg.tupleItems hp hcalm, proper_outline cfg.tupleItems hp hcalm⟩

/-- The outlines in two definitions that mirror each other. -/
theorem exists_content_of_mirrors {e e' : DefinitionOutline} (h : e.Mirrors cfg e') {o : Outline}
    (hc : e.content = some o) : ∃ o', e'.content = some o' ∧ Outline.Mirrors cfg o o' := by
  have hrel := h.content
  rw [hc] at hrel
  generalize e'.content = content' at hrel
  cases hrel with
  | some h => exact ⟨_, rfl, h⟩

section

variable (hd : d.WasRead) (hd' : d'.WasRead)

include hd hd'

/-- What a definition points at, what it is read back as points at too. -/
theorem references_subset_of_mirrors {e e' : DefinitionOutline} (he : e ∈ d.definitions)
    (he' : e' ∈ d'.definitions) (h : e.Mirrors cfg e') : e.references ⊆ e'.references := by
  unfold DefinitionOutline.references
  cases hc : e.content with
  | none => exact List.nil_subset _
  | some o =>
    obtain ⟨o', hc', hmirrors⟩ := exists_content_of_mirrors h hc
    rw [hc']
    exact Outline.pointsWithin (hd.readable.content e he o hc).1 cfg _ o'
      (hd'.readable.content e' he' o' hc').1
      ((hd'.proper.content e' he' o' hc').written (hd'.writable.content e' he' o' hc') cfg)
      (congrArg NodeKind.isGroup hmirrors.kind)
      (hmirrors.alike ((hd.proper.content e he o hc).written (hd.writable.content e he o hc) cfg))

variable (hm : d.Mirrors cfg keep d')

include hm

/-- What the root points at, what it is read back as points at too. -/
theorem Mirrors.root_references : d.root.references ⊆ d'.root.references := by
  obtain ⟨own, hb⟩ := hd.readable.body
  obtain ⟨own', hb'⟩ := hd'.readable.body
  have halike := hm.root.alike (hd.proper.root.written hd.writable.root cfg)
  have hproper := hd'.proper.root.written hd'.writable.root cfg
  rw [← Outline.mk_node_hanging d.root, ← Outline.mk_node_hanging d'.root] at halike ⊢
  rw [← Outline.mk_node_hanging d'.root] at hproper
  exact Outline.references_subset_of_object_alike hb hb' hd.readable.children hd'.readable.children
    hd.readable.below hd'.readable.below hproper
    (fun b hmem => Outline.pointsWithin (hd.readable.below b hmem) cfg _) halike

/-- What is wanted is wanted again once it was read back. -/
theorem Mirrors.wanted (hkeep : ∀ name, keep name = true ↔ d.Wanted cfg name) {name : String}
    (h : d.Wanted cfg name) : d'.Wanted cfg name := by
  have hback : ∀ {e : DefinitionOutline}, e ∈ d.definitions → d.Wanted cfg e.name →
      ∃ e' ∈ d'.definitions, e.Mirrors cfg e' := by
    intro e he hwanted
    have hkept : e ∈ d.kept keep := List.mem_filter.2 ⟨he, (hkeep _).2 hwanted⟩
    exact Outline.exists_left_of_mem hm.definitions.flip hkept
  induction h with
  | all emit mem =>
    obtain ⟨e', he', h⟩ := hback mem (.all emit mem)
    rw [← h.name]
    exact .all emit he'
  | root h => exact .root (hm.root_references hd hd' h)
  | definition mem wanted h ih =>
    obtain ⟨e', he', hmirrors⟩ := hback mem wanted
    exact .definition he' (hmirrors.name.symm ▸ ih)
      (references_subset_of_mirrors hd hd' mem he' hmirrors h)

/-- Everything that is read back is kept when it is written again. -/
theorem Mirrors.keep_of_wanted (hkeep : ∀ name, keep name = true ↔ d.Wanted cfg name)
    (hkeep' : ∀ name, keep' name = true ↔ d'.Wanted cfg name) :
    ∀ e ∈ d'.definitions, keep' e.name = true := by
  intro e' he'
  obtain ⟨e, he, h⟩ := Outline.exists_left_of_mem hm.definitions he'
  rw [h.name]
  exact (hkeep' _).2 (hm.wanted hd hd' hkeep ((hkeep _).1 (List.mem_filter.1 he).2))

end

end DocumentOutline

namespace Graph

/-- The graph of a document that was read can be written, and what is written is that of its
outline. -/
theorem compile_of_decompile {document : Value} (hp : document.Proper) {cfg : DocumentConfig}
    {s : IdSupply} {read : Imported × IdSupply} (h : (decompile document cfg).run s = .ok read) :
    ∃ d keep c, d.WasRead ∧ outlineOf document cfg = .ok (d, read.1.warnings) ∧
      (∀ name, keep name = true ↔ d.Wanted cfg name) ∧
      read.1.graph.compile cfg = .ok c ∧ c.document = d.written cfg keep := by
  have hreach : Reachable (fun _ _ => True) read.1.graph read.2 := .document hp h
  have hsound : Sound read.1.graph := hreach.sound.1
  obtain ⟨d, hout, hgraph, _⟩ := decompile_ok h
  have hd := DocumentOutline.wasRead_of_outlineOf hp hout
  rw [hgraph] at hsound ⊢
  obtain ⟨keep, c, hkeep, hcompile, hdocument⟩ :=
    (DocumentOutline.shows_toGraph hd.fits s.used).compile hd.writable hsound.definitions_le cfg
  exact ⟨d, keep, c, hd, hout, hkeep, hcompile, hdocument⟩

/-- What is written of a document that was read is read back, and is written alike then. -/
theorem compile_alike_of_decompile {document : Value} (hp : document.Proper) {cfg : DocumentConfig}
    {s : IdSupply} {read : Imported × IdSupply} (h : (decompile document cfg).run s = .ok read)
    (s' : IdSupply) :
    ∃ c back c', read.1.graph.compile cfg = .ok c ∧
      (decompile c.document cfg).run s' = .ok back ∧ back.1.graph.compile cfg = .ok c' ∧
      Value.Alike c.document c'.document := by
  obtain ⟨d, keep, c, hd, _, hkeep, hcompile, hdocument⟩ := compile_of_decompile hp h
  obtain ⟨d', hyields, hmirrors⟩ := hd.readable.outline_yields (hd.writable.closed hkeep) cfg
  obtain ⟨warnings, houtline⟩ := outlineOf_of_yields hyields
  have hproper : c.document.Proper := hdocument ▸ hd.proper.written hd.writable cfg keep
  rw [← DocumentOutline.written_eq, ← hdocument] at houtline
  have hback := decompile_of_outlineOf houtline s'
  obtain ⟨d'', keep', c', hd', houtline', hkeep', hcompile', hdocument'⟩ :=
    compile_of_decompile hproper hback
  obtain rfl : d'' = d' := congrArg Prod.fst (Except.ok.inj (houtline'.symm.trans houtline))
  refine ⟨c, _, c', hcompile, hback, hcompile', ?_⟩
  rw [hdocument, hdocument']
  exact hmirrors.written_alike hd.readable hd'.readable (hdocument ▸ hproper)
    (hmirrors.keep_of_wanted hd hd' hkeep hkeep')

/-- A form with a list of types and two definitions, only one of which is pointed at. -/
theorem compile_alike_of_one_pointer :
    ∃ read c back c',
      (decompile (.obj [("definitions", .obj [("t", .obj [("type", .str "boolean")]),
          ("u", .obj [("type", .str "string")])]),
        ("properties", .obj [("a", .obj [("$ref", .str "#/definitions/t")]),
          ("b", .obj [("type", .list [.str "null", .str "integer"])])])])
        { emitUnreferenced := false }).run {} = .ok read ∧
      read.1.graph.compile { emitUnreferenced := false } = .ok c ∧
      (decompile c.document { emitUnreferenced := false }).run read.2 = .ok back ∧
      back.1.graph.compile { emitUnreferenced := false } = .ok c' ∧
      Value.Alike c.document c'.document := by
  have hproper : (Value.obj [("definitions", .obj [("t", .obj [("type", .str "boolean")]),
      ("u", .obj [("type", .str "string")])]),
      ("properties", .obj [("a", .obj [("$ref", .str "#/definitions/t")]),
        ("b", .obj [("type", .list [.str "null", .str "integer"])])])]).Proper :=
    Value.proper_of_everywhere (by decide)
  obtain ⟨c, back, c', h⟩ := compile_alike_of_decompile hproper
    (rfl : (decompile _ { emitUnreferenced := false }).run {} = .ok _) _
  exact ⟨_, c, back, c', rfl, h⟩

end Graph

end FormGraph

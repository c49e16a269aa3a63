import FormGraph.Document.RoundTrip
import FormGraph.Proofs.Reread.Document
import FormGraph.Proofs.RoundTrip.Conditions
import FormGraph.Proofs.SiblingKeys.Change
import FormGraph.Proofs.Writing.LaidOut
import FormGraph.Proofs.Writing.Outlined

/-!
# The signature after a round trip

A reachable graph that is as asked for a round trip says the same after it was written and read back
(`signature_reread`). The graph shows a document outline; what is written is that outline's document,
what is read back mirrors the outline, and both graphs have the signature of what they show.
-/

namespace FormGraph

namespace DocumentOutline

variable {cfg : DocumentConfig} {keep : String → Bool} {d d' : DocumentOutline}

/-- The definitions by name, with what they say. -/
theorem sorted_signatures (ds : List DefinitionOutline) :
    ((ds.mergeSort fun a b => a.name ≤ b.name).map fun e => (e.name, e.signature)) =
      (ds.map fun e => (e.name, e.signature)).mergeSort fun a b => a.1 ≤ b.1 :=
  List.map_mergeSort fun _ _ _ _ => rfl

/-- What mirrors a document that is clean has its signature, when all definitions are kept. -/
theorem Mirrors.signature (hm : d.Mirrors cfg keep d') (hkeep : ∀ e ∈ d.definitions, keep e.name = true)
    (hroot : d.root.Clean cfg)
    (hcontent : ∀ e ∈ d.definitions, ∀ o, e.content = some o → o.Clean cfg) :
    d'.signature = d.signature := by
  have hkept : d.kept keep = d.definitions := List.filter_eq_self.2 hkeep
  have hdefinitions : d'.definitions.map (fun e => (e.name, e.signature)) =
      d.definitions.map fun e => (e.name, e.signature) := by
    have h := hm.definitions
    rw [hkept] at h
    refine Outline.map_eq_map_of_forall₂ (((List.forall₂_and_left _ _).2 ⟨hcontent, h⟩).imp
      fun e e' he => ?_)
    obtain ⟨hclean, hname, hrel⟩ := he
    obtain ⟨name, content⟩ := e
    obtain ⟨name', content'⟩ := e'
    obtain rfl : name' = name := hname
    cases hrel with
    | none => rfl
    | some h =>
      exact congrArg (fun said : Description => (name', said.value none)) (h.said (hclean _ rfl))
  unfold DocumentOutline.signature
  rw [sorted_signatures, sorted_signatures, hdefinitions, hm.root.said hroot]

end DocumentOutline

namespace Graph

open Compile

variable {g : Graph} {cfg : DocumentConfig}

/-- What a graph that is as asked for shows can be written and read back, and says the same then. -/
structure RoundTrips.Shown (g : Graph) (cfg : DocumentConfig) (d : DocumentOutline) : Prop where
  /-- The graph shows the document. -/
  shows : g.ShowsDocument d
  /-- The document is one that a graph can show. -/
  fits : d.Fits
  /-- It can be written. -/
  writable : d.Writable
  /-- It can be read back. -/
  readable : d.Readable
  /-- The root says the same when it has been written and read back. -/
  root_clean : d.root.Clean cfg
  /-- So do the definitions. -/
  clean : ∀ e ∈ d.definitions, ∀ o, e.content = some o → o.Clean cfg

theorem RoundTrips.exists_shown (hr : g.RoundTrips cfg) (hs : Sound g) (hk : Keyed g) :
    ∃ d, RoundTrips.Shown g cfg d := by
  have hf := hs.toForest
  obtain ⟨d, hshows, hfits⟩ := exists_showsDocument hs hr.agrees
  have hcontent : ∀ e ∈ d.definitions, ∀ o, e.content = some o →
      ∃ c, g.Shows c o ∧ o.height ≤ depth g := by
    intro e he o ho
    have hname : e.name ∈ g.definitions.names := hshows.names ▸ List.mem_map_of_mem he
    obtain ⟨id, hid⟩ := Option.isSome_iff_exists.1 (Table.mem_names_iff.1 hname)
    have h := hshows.content e he id hid
    rw [ho] at h
    obtain ⟨c, _, hc, hheight⟩ := h
    exact ⟨c, hc, hheight⟩
  have hreadable : d.root.Readable g.definitions.names ∧ ∀ e ∈ d.definitions, ∀ o,
      e.content = some o → o.Readable g.definitions.names ∧ o.Bare := by
    refine ⟨hr.readable hk hf hshows.root hfits.root, fun e he o ho => ?_⟩
    obtain ⟨c, hc, _⟩ := hcontent e he o ho
    exact ⟨hr.readable hk hf hc (hfits.content e he o ho), hr.bare hc⟩
  have hdocument : d.Readable := by
    obtain ⟨f, hn⟩ := hshows.root.node?
    have hnode := (hr.node hn).of_bindTargets.labelled
    have hroot := hreadable.1
    obtain ⟨ds, n, bs⟩ := d
    have hkind : n.kind = .object := hfits.root_kind
    cases hroot with
    | mk labelled types own below =>
      refine ⟨hkind, ⟨hnode.title, hnode.description, hnode.nodup, hnode.free.mono ?_⟩, ?_, ?_, ?_⟩
      · rw [Outline.node, hkind]
        decide
      · unfold Outline.OwnReads at own
        unfold Node.kind at hkind
        cases hb : n.body with
        | object a =>
          rw [hb] at own
          exact own
        | string _ | number _ | boolean | enum _ | array _ | group _ _ | definition _
            | reference _ =>
          rw [hb] at hkind
          simp [Body.kind] at hkind
      · exact hshows.names ▸ below
      · exact hshows.names ▸ hreadable.2
  refine ⟨d, hshows, hfits, hdocument.writable hfits, hdocument,
    hr.clean hk hf hshows.root hfits.root hshows.root_height, fun e he o ho => ?_⟩
  obtain ⟨c, hc, hheight⟩ := hcontent e he o ho
  exact hr.clean hk hf hc (hfits.content e he o ho) hheight

/-- A sound graph that is as asked for is written as a document that is read back. -/
theorem RoundTrips.Shown.reread {d : DocumentOutline} (hd : RoundTrips.Shown g cfg d) (hs : Sound g)
    (hemit : cfg.emitUnreferenced = true) : ∃ keep r d' warnings,
      (∀ e ∈ d.definitions, keep e.name = true) ∧ g.compile cfg = .ok r ∧
      r.document = d.written cfg keep ∧ outlineOf r.document cfg = .ok (d', warnings) ∧
      d'.Fits ∧ d.Mirrors cfg keep d' := by
  obtain ⟨keep, r, hwanted, hcompile, hdocument⟩ :=
    hd.shows.compile hd.writable hs.definitions_le cfg
  have hkeep : ∀ e ∈ d.definitions, keep e.name = true :=
    fun e he => (hwanted e.name).2 (.all hemit he)
  obtain ⟨d', hyields, hmirrors⟩ :=
    hd.readable.outline_yields (hd.writable.closed hwanted) cfg
  obtain ⟨warnings, houtline⟩ := outlineOf_of_yields hyields
  refine ⟨keep, r, d', warnings, hkeep, hcompile, hdocument, ?_,
    hd.readable.fits hd.fits.names hyields, hmirrors⟩
  rw [hdocument]
  exact houtline

/-- A reachable graph that is as asked for a round trip is written as a document that is read back,
and what is read back has the signature of the graph. -/
theorem signature_reread {s : IdSupply} (hg : Reachable (fun _ _ => True) g s)
    (hr : g.RoundTrips cfg) (hemit : cfg.emitUnreferenced = true)
    (s' : IdSupply) :
    ∃ r signature, (g.reread cfg).run s' = .ok r ∧ g.signature false = .ok signature ∧
      r.1.graph.signature false = .ok signature := by
  have hs : Sound g := hg.sound.1
  obtain ⟨d, hd⟩ := hr.exists_shown hs hg.keyed
  obtain ⟨keep, r, d', warnings, hkeep, hcompile, _, houtline, hfits, hmirrors⟩ :=
    hd.reread hs hemit
  refine ⟨(⟨d'.toGraph s'.used, warnings⟩, ⟨s'.used + d'.size⟩), d.signature, ?_,
    hd.shows.signature hd.fits, ?_⟩
  · unfold reread
    rw [hcompile]
    exact decompile_of_outlineOf houtline s'
  · rw [← hmirrors.signature hkeep hd.root_clean hd.clean]
    exact (DocumentOutline.shows_toGraph hfits s'.used).signature hfits

/-- A form with a branch that a clause points at. -/
theorem signature_reread_of_one_branch :
    ∃ g s, Reachable (fun _ _ => True) g s ∧ g.RoundTrips {} ∧
      ∃ r signature, (g.reread {}).run {} = .ok r ∧ g.signature false = .ok signature ∧
        r.1.graph.signature false = .ok signature := by
  have hgroup : Reachable (fun _ _ => True) _ _ :=
    .change (c := .createGroup (.group .anyOf) rootName .null .null none) (.empty .null .null {})
      trivial rfl
  have hbranch : Reachable (fun _ _ => True) _ _ :=
    .change (c := .add { body := .boolean, title := .str "A" } "n1" .thenBranch none) hgroup
      trivial rfl
  have hclause : Reachable (fun _ _ => True) _ _ :=
    .change (c := .appendClause "n1"
      [("condition", .obj [("field", .str "b")]), ("then", .str "n2")]) hbranch trivial rfl
  obtain ⟨g, s, hg, root, group, field, clause, hentries, howner, ⟨hroot, hrootBody⟩,
      ⟨hgroup, hgroupBody, hcondition, hthen, helse⟩, hfield, hfieldBody⟩ :
      ∃ g s, Reachable (fun _ _ => True) g s ∧ ∃ root group field clause,
        g.nodes.entries = [(rootName, root), ("n1", group), ("n2", field)] ∧
        g.owningEdge "n2" = some ⟨"n1", "n2", .thenBranch⟩ ∧
        ((root.title = .null ∧ root.description = .null ∧ root.extras = []) ∧
          root.body = .object {}) ∧
        ((group.title = .null ∧ group.description = .null ∧ group.extras = []) ∧
          group.body = .group .anyOf [clause] ∧
          (clause.condition.field = .str "b" ∧ clause.condition.operator.isPattern = false) ∧
          clause.onTrue = some "n2" ∧ clause.onFalse = none) ∧
        (field.title = .str "A" ∧ field.description = .null ∧ field.extras = []) ∧
        field.body = .boolean :=
    ⟨_, _, hclause, _, _, _, _, rfl, rfl, ⟨⟨rfl, rfl, rfl⟩, rfl⟩,
      ⟨⟨rfl, rfl, rfl⟩, rfl, ⟨rfl, rfl⟩, rfl, rfl⟩, ⟨rfl, rfl, rfl⟩, rfl⟩
  have hnode : ∀ {id : NodeId} {n : Node NodeId}, g.node? id = some n →
      (id = rootName ∧ n = root) ∨ (id = "n1" ∧ n = group) ∨ (id = "n2" ∧ n = field) := by
    intro id n hn
    have hmem := Table.mem_entries_iff.2 hn
    rw [hentries] at hmem
    simpa using hmem
  have htarget : ∀ {k : EdgeKind} {t : NodeId}, clause.target k = some t →
      k = .thenBranch ∧ t = "n2" := by
    intro k t ht
    cases k with
    | child => cases ht
    | thenBranch => exact ⟨rfl, (Option.some.inj (hthen.symm.trans ht)).symm⟩
    | elseBranch => exact absurd (helse.symm.trans ht) (Option.some_ne_none t).symm
  have hclauses : ∀ {id : NodeId} {n : Node NodeId} {c : Clause NodeId}, g.node? id = some n →
      c ∈ n.clauses → id = "n1" ∧ c = clause := by
    intro id n c hn hc
    unfold Node.clauses at hc
    rcases hnode hn with ⟨_, rfl⟩ | ⟨hid, rfl⟩ | ⟨_, rfl⟩
    · rw [hrootBody] at hc
      exact absurd hc List.not_mem_nil
    · rw [hgroupBody] at hc
      exact ⟨hid, List.mem_singleton.1 hc⟩
    · rw [hfieldBody] at hc
      exact absurd hc List.not_mem_nil
  have hkind : ∀ {id : NodeId} {n : Node NodeId}, g.node? id = some n →
      n.body = .object {} ∨ n.body = .group .anyOf [clause] ∨ n.body = .boolean := by
    intro id n hn
    rcases hnode hn with ⟨_, rfl⟩ | ⟨_, rfl⟩ | ⟨_, rfl⟩
    · exact Or.inl hrootBody
    · exact Or.inr (Or.inl hgroupBody)
    · exact Or.inr (Or.inr hfieldBody)
  have hconditions : ∀ {id : NodeId} {n : Node NodeId}, g.node? id = some n →
      ∀ c ∈ n.clauses, c.condition.Reads := by
    intro id n hn c hc
    obtain ⟨_, rfl⟩ := hclauses hn hc
    exact ⟨⟨_, hcondition.1⟩, fun h => absurd (hcondition.2.symm.trans h) (by decide)⟩
  have htypes : ∀ {id : NodeId} {n : Node NodeId}, g.node? id = some n →
      Check.attributeTypes n.body = [] := by
    intro id n hn
    rcases hkind hn with hb | hb | hb <;>
    · rw [hb]
      rfl
  have hr : g.RoundTrips {} :=
    { node := fun hn => by
        have hc := hconditions hn
        have ht := htypes hn
        rcases hnode hn with ⟨_, rfl⟩ | ⟨_, rfl⟩ | ⟨_, rfl⟩
        · exact .of_no_extras (.inl hroot.1) (.inl hroot.2.1) hroot.2.2 ht hc
        · exact .of_no_extras (.inl hgroup.1) (.inl hgroup.2.1) hgroup.2.2 ht hc
        · exact .of_no_extras (.inr ⟨_, hfield.1⟩) (.inl hfield.2.1) hfield.2.2 ht hc
      single := fun hn hk => by
        unfold Node.kind at hk
        rcases hkind hn with hb | hb | hb <;>
        · rw [hb] at hk
          cases hk
      target := fun hn ht => by
        unfold Node.target? at ht
        rcases hkind hn with hb | hb | hb <;>
        · rw [hb] at ht
          cases ht
      agrees := agrees_iff.2 fun id t k ⟨c, hc, ht⟩ => by
        unfold clausesAt at hc
        cases hn : g.node? id with
        | none => simp [hn] at hc
        | some n =>
          rw [hn] at hc
          obtain ⟨rfl, rfl⟩ := hclauses hn hc
          obtain ⟨rfl, rfl⟩ := htarget ht
          exact howner
      block := fun hn _ c hc c' hc' => by
        rw [(hclauses hn hc).2, (hclauses hn hc').2]
      shared := fun hn _ c hc c' hc' k t t' ht ht' _ _ _ _ _ => by
        rw [(hclauses hn hc).2] at ht
        rw [(hclauses hn hc').2] at ht'
        rw [(htarget ht).2, (htarget ht').2] }
  exact ⟨g, s, hg, hr, signature_reread hg hr rfl {}⟩

end Graph

end FormGraph

import FormGraph.Document.Bundle
import FormGraph.Proofs.Inside
import FormGraph.Proofs.Ownership.Change
import FormGraph.Proofs.Reading.Fits

/-!
# Reachable graphs

A graph is reachable when a sequence of successful edits leads to it from an empty graph or from a
document or bundle that was read. `Reachable allowed` restricts the edits: `allowed g c` says that
the change `c` may be made to the graph `g`.

Every reachable graph is sound (`Reachable.sound`): reading gives a sound graph, and every change
keeps it one.
-/

namespace FormGraph

namespace Graph

/-! ## Reading a document -/

theorem outlineOf_ok {document : Value} {cfg : DocumentConfig} {r : DocumentOutline × List String}
    (h : outlineOf document cfg = .ok r) :
    ∃ members, document = .obj members ∧
      .unusable ∉ (Decompile.outline cfg.tupleItems members).notes ∧
      (Decompile.outline cfg.tupleItems members).notes.filterMap ReadingNote.issue? = [] ∧
      r = ((Decompile.outline cfg.tupleItems members).value,
        (Decompile.outline cfg.tupleItems members).notes.filterMap ReadingNote.warning?) := by
  cases document with
  | obj members =>
    refine ⟨members, rfl, ?_⟩
    simp only [outlineOf] at h
    split_ifs at h with hunusable hissues
    · simp [breakDown] at h
    · refine ⟨by simpa using hunusable, by simpa using hissues, ?_⟩
      exact (Except.ok.inj h).symm
    · simp [refuse] at h
  | null | bool _ | int _ | float _ | str _ | list _ => simp [outlineOf, refuse] at h

theorem decompile_ok {document : Value} {cfg : DocumentConfig} {s : IdSupply}
    {r : Imported × IdSupply} (h : (decompile document cfg).run s = .ok r) :
    ∃ outline, outlineOf document cfg = .ok (outline, r.1.warnings) ∧
      r.1.graph = outline.toGraph s.used ∧ r.2 = ⟨s.used + outline.size⟩ := by
  unfold decompile at h
  simp only [Edit.bind_eq_ok_iff, Edit.lift_eq_ok_iff, Edit.pure_eq_ok_iff] at h
  obtain ⟨⟨outline, warnings⟩, _, ⟨hread, rfl⟩, g, t, hlay, rfl⟩ := h
  cases hlay
  exact ⟨outline, hread, rfl, rfl⟩

/-- The outline of a document with different names at every level fits. -/
theorem fits_of_outlineOf {document : Value} (hp : document.Proper) {cfg : DocumentConfig}
    {r : DocumentOutline × List String} (h : outlineOf document cfg = .ok r) : r.1.Fits := by
  obtain ⟨members, rfl, _, _, rfl⟩ := outlineOf_ok h
  refine Decompile.fits_outline cfg.tupleItems ?_
  unfold Decompile.definitionTable
  split
  · exact List.nodup_nil
  · next table hfind => exact (hp.of_find? hfind).names
  · exact List.nodup_nil

/-! ## Putting widgets on fields -/

/-- What every change of a widget keeps is kept while widgets are put on fields. -/
theorem dress_keeps {P : Graph → Prop}
    (hP : ∀ {g g' : Graph} {id : NodeId} {widget : String} {entry : Members}, P g →
      g.update id (Bundle.widgetPatch widget entry) = .ok g' → P g')
    (registry : Registry) (depth : Nat) :
    ∀ {d d' : Bundle.Dressing} {id : NodeId} {ui : Members}, P d.graph →
      Bundle.dress registry depth d id ui = .ok d' → P d'.graph := by
  induction depth with
  | zero =>
    intro d d' id ui hd h
    cases h
    exact hd
  | succ depth ih =>
    intro d d' id ui hd h
    unfold Bundle.dress at h
    rw [bind_eq_ok_iff] at h
    obtain ⟨children, hchildren, h⟩ := h
    clear hchildren
    induction children generalizing d with
    | nil =>
      cases h
      exact hd
    | cons child children ihc =>
      rw [List.foldlM_cons, bind_eq_ok_iff] at h
      obtain ⟨d₁, h₁, h⟩ := h
      refine ihc ?_ h
      unfold Bundle.dressChild at h₁
      have hfield : ∀ {d₂ : Bundle.Dressing} {entry : Members},
          Bundle.dressField registry d child.1 child.2.key entry = .ok d₂ → P d₂.graph := by
        intro d₂ entry h₂
        unfold Bundle.dressField at h₂
        split at h₂
        · simp only [bind_eq_ok_iff, pure_eq_ok_iff] at h₂
          obtain ⟨g', hg', rfl⟩ := h₂
          exact hP hd hg'
        · cases h₂
          exact hd
      split at h₁
      · cases h₁
        exact hd
      · split at h₁
        · rw [bind_eq_ok_iff] at h₁
          obtain ⟨d₂, h₂, h₁⟩ := h₁
          split_ifs at h₁
          · exact ih (hfield h₂) h₁
          · cases h₁
            exact hfield h₂
        · cases h₁
          exact hd

/-- A bundle is read like the document in it, and then widgets are put on fields. -/
theorem importBundle_ok {payload : Value} {cfg : DocumentConfig} {registry : Registry}
    {s : IdSupply} {r : ImportedBundle × IdSupply}
    (h : (importBundle payload cfg registry).run s = .ok r) :
    ∃ imported, (decompile (Value.member (payload.obj?.getD []) "schema") cfg).run s =
        .ok (imported, r.2) ∧
      (r.1.graph = imported.graph ∨ ∃ depth ui warnings d,
        Bundle.dress registry depth ⟨imported.graph, warnings⟩ imported.graph.rootId ui = .ok d ∧
          r.1.graph = d.graph) := by
  unfold importBundle at h
  simp only [Edit.bind_eq_ok_iff, Edit.lift_eq_ok_iff] at h
  obtain ⟨_, _, ⟨_, rfl⟩, imported, t, hread, h⟩ := h
  split at h
  · simp only [Edit.bind_eq_ok_iff, Edit.lift_eq_ok_iff, Edit.pure_eq_ok_iff] at h
    obtain ⟨d, _, ⟨hd, rfl⟩, rfl⟩ := h
    exact ⟨imported, hread, Or.inr ⟨_, _, _, d, hd, rfl⟩⟩
  · simp only [Edit.bind_eq_ok_iff, Edit.pure_eq_ok_iff] at h
    obtain ⟨d, _, hd, rfl⟩ := h
    cases hd
    exact ⟨imported, hread, Or.inl rfl⟩

/-! ## Sequences of edits -/

/-- A sequence of successful edits leads to the graph and leaves the supply of names. -/
inductive Reachable (allowed : Graph → Change → Prop) : Graph → IdSupply → Prop where
  /-- The empty graph, at the start or after a reset. -/
  | empty (title description : Value) (s : IdSupply) :
    Reachable allowed (Graph.empty title description) s
  /-- A document that was read. -/
  | document {document : Value} {cfg : DocumentConfig} {s : IdSupply} {r : Imported × IdSupply}
    (proper : document.Proper) (h : (decompile document cfg).run s = .ok r) :
    Reachable allowed r.1.graph r.2
  /-- A bundle that was read. -/
  | bundle {payload : Value} {cfg : DocumentConfig} {registry : Registry} {s : IdSupply}
    {r : ImportedBundle × IdSupply} (proper : payload.Proper)
    (h : (importBundle payload cfg registry).run s = .ok r) : Reachable allowed r.1.graph r.2
  /-- An allowed change to a reachable graph. -/
  | change {g : Graph} {s : IdSupply} {c : Change} {r : Effect × IdSupply}
    (before : Reachable allowed g s) (permitted : allowed g c) (h : (g.apply c).run s = .ok r) :
    Reachable allowed r.1.graph r.2

/-- What allowed changes reach is reached when more changes are allowed. -/
theorem Reachable.mono {allowed allowed' : Graph → Change → Prop}
    (himp : ∀ {g c}, allowed g c → allowed' g c) {g : Graph} {s : IdSupply}
    (hr : Reachable allowed g s) : Reachable allowed' g s := by
  induction hr with
  | empty title description s => exact .empty title description s
  | document proper h => exact .document proper h
  | bundle proper h => exact .bundle proper h
  | change _ permitted h ih => exact .change ih (himp permitted) h

/-- The document in a bundle is one as it is read from a text, when the bundle is. -/
theorem proper_schema {payload : Value} (hp : payload.Proper) :
    (Value.member (payload.obj?.getD []) "schema").Proper := by
  cases hp with
  | obj names_nodup members_proper => exact (Value.Proper.obj names_nodup members_proper).member _
  | null | bool | int | float | str | list _ => exact .null

/-- What holds of the empty graph and of every laid out document that fits, with the names that are
taken then, and is kept by updates and by allowed changes, holds of every reachable graph with the
names that are taken. -/
theorem Reachable.keeps_supply {allowed : Graph → Change → Prop} {P : Graph → IdSupply → Prop}
    (hempty : ∀ title description s, P (Graph.empty title description) s)
    (hread : ∀ {document : Value} {cfg : DocumentConfig} {r : DocumentOutline × List String},
      document.Proper → outlineOf document cfg = .ok r →
        ∀ used, P (r.1.toGraph used) ⟨used + r.1.size⟩)
    (hupdate : ∀ {g g' : Graph} {s : IdSupply} {id : NodeId} {patch : Members}, P g s →
      g.update id patch = .ok g' → P g' s)
    (hchange : ∀ {g : Graph} {s : IdSupply} {c : Change} {r : Effect × IdSupply},
      Reachable allowed g s → P g s → allowed g c → (g.apply c).run s = .ok r → P r.1.graph r.2)
    {g : Graph} {s : IdSupply} (h : Reachable allowed g s) : P g s := by
  have hdocument : ∀ {document : Value} {cfg : DocumentConfig} {s : IdSupply}
      {r : Imported × IdSupply}, document.Proper → (decompile document cfg).run s = .ok r →
      P r.1.graph r.2 := by
    intro document cfg s r hp h
    obtain ⟨outline, hout, hg, hr⟩ := decompile_ok h
    rw [hg, hr]
    exact hread hp hout s.used
  induction h with
  | empty title description s => exact hempty title description s
  | document proper h => exact hdocument proper h
  | bundle proper h =>
    obtain ⟨imported, hdec, hg | ⟨depth, ui, warnings, d, hd, hg⟩⟩ := importBundle_ok h
    · rw [hg]
      exact hdocument (proper_schema proper) hdec
    · rw [hg]
      exact dress_keeps (P := fun g => P g _) (fun hP hu => hupdate hP hu) _ depth
        (hdocument (proper_schema proper) hdec) hd
  | change before permitted h ih => exact hchange before ih permitted h

/-- What holds of the empty graph and of every laid out document that fits, and is kept by updates
and by allowed changes of sound graphs, holds of every reachable graph. -/
theorem Reachable.keeps {allowed : Graph → Change → Prop} {P : Graph → Prop}
    (hempty : ∀ title description, P (Graph.empty title description))
    (hread : ∀ {document : Value} {cfg : DocumentConfig} {r : DocumentOutline × List String},
      document.Proper → outlineOf document cfg = .ok r → ∀ used, P (r.1.toGraph used))
    (hupdate : ∀ {g g' : Graph} {id : NodeId} {patch : Members}, P g →
      g.update id patch = .ok g' → P g')
    (hchange : ∀ {g : Graph} {s : IdSupply} {c : Change} {r : Effect × IdSupply},
      Reachable allowed g s → P g → allowed g c → (g.apply c).run s = .ok r → P r.1.graph)
    {g : Graph} {s : IdSupply} (h : Reachable allowed g s) : P g :=
  h.keeps_supply (P := fun g _ => P g) (fun title description _ => hempty title description)
    hread hupdate hchange

/-- The empty graph is laid out from the outline of an empty object. -/
theorem sound_empty (title description : Value) : Sound (Graph.empty title description) := by
  have hnode : ∀ {x : NodeId} {n : Node NodeId}, (Graph.empty title description).node? x = some n →
      x = rootName ∧ n.kind = .object ∧ n.definitionName? = none := by
    intro x n h
    unfold Graph.empty node? at h
    rw [Table.find?_put] at h
    by_cases hx : rootName = x
    · rw [if_pos hx] at h
      obtain rfl := Option.some.inj h
      exact ⟨hx.symm, rfl, rfl⟩
    · simp [hx] at h
  exact
    { source_eq := fun h => by simp [Graph.empty, edgesFrom] at h
      owned := fun h => by simp [Graph.empty, edgesFrom] at h
      listed := fun h => by simp [Graph.empty, owningEdge] at h
      nodup := fun id => List.nodup_nil
      present := fun h => by simp [Graph.empty, owningEdge] at h
      grounded := fun id => .top rfl
      root := ⟨_, Table.find?_put_self _ _ _, rfl⟩
      root_top := rfl
      definition_top := fun _ _ => rfl
      held := fun h _ => Or.inl (hnode h).1
      defined := fun {name id} => by
        constructor
        · intro h
          simp [Graph.empty] at h
        · rintro ⟨n, hn, hname⟩
          rw [(hnode hn).2.2] at hname
          simp at hname
      named := fun h hk => by
        rw [(hnode h).2.1] at hk
        simp at hk
      fits := fun h _ => by simp [Graph.empty, owningEdge] at h }

/-- Reachable graphs are sound, and the names to come are free in them. -/
theorem Reachable.sound {allowed : Graph → Change → Prop} {g : Graph} {s : IdSupply}
    (h : Reachable allowed g s) : Sound g ∧ Supplied g s := by
  refine h.keeps_supply (P := fun g s => Sound g ∧ Supplied g s) (fun title description s => ?_)
    (fun hp hout used => ?_) (fun hP hu => ?_) fun _ hP _ h => hP.1.apply hP.2 h
  · refine ⟨sound_empty title description, fun k _ => ?_⟩
    unfold Graph.empty node?
    rw [Table.find?_put, if_neg (Ne.symm (IdSupply.nameOf_ne_rootName k)), Table.find?_empty]
  · exact ⟨sound_toGraph (fits_of_outlineOf hp hout) used, supplied_toGraph _ used⟩
  · obtain ⟨hsound, hkinds⟩ := hP.1.update hu
    exact ⟨hsound, hP.2.mono fun x hx => by rwa [hkinds] at hx⟩

/-! ## Sequences of edits without an import -/

/-- A sequence of allowed changes leads from an empty graph to the graph and leaves the supply of
names. -/
inductive Edited (allowed : Graph → Change → Prop) : Graph → IdSupply → Prop where
  /-- The empty graph, at the start or after a reset. -/
  | empty (title description : Value) (s : IdSupply) :
    Edited allowed (Graph.empty title description) s
  /-- An allowed change to a graph that was made so. -/
  | change {g : Graph} {s : IdSupply} {c : Change} {r : Effect × IdSupply}
    (before : Edited allowed g s) (permitted : allowed g c) (h : (g.apply c).run s = .ok r) :
    Edited allowed r.1.graph r.2

theorem Edited.reachable {allowed : Graph → Change → Prop} {g : Graph} {s : IdSupply}
    (h : Edited allowed g s) : Reachable allowed g s := by
  induction h with
  | empty title description s => exact .empty title description s
  | change before permitted h ih => exact .change ih permitted h

end Graph

end FormGraph

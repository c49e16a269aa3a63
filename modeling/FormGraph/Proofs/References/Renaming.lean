import FormGraph.Proofs.BranchAgreement
import FormGraph.Proofs.Describing.Document
import FormGraph.Proofs.Describing.Repointed
import FormGraph.Proofs.Moving.Steps
import FormGraph.Proofs.References.Integrity

/-!
# Renaming a definition

A definition that gets another name takes its references along: every node but that of the definition
is the one from before with its references under the other name, and so is the table
(`repointed_of_renameDefinition`). The signature is therefore the one from before under these names,
and where nothing pointed at the new name, renaming back brings it back
(`renamed_of_renameDefinition`).

Two things are in the way of that. A definition with the empty name can be read but not made, so a
definition does not get this name back; and a clause that was written with a group may name the node
of a definition as a branch, which the signature then shows.
-/

namespace FormGraph

/-- The names after one definition has got another name. -/
def nameAfter (old new : String) (name : String) : String := if name = old then new else name

@[simp] theorem nameAfter_self (old new : String) : nameAfter old new old = new := if_pos rfl

theorem nameAfter_of_ne {old new name : String} (h : name ≠ old) : nameAfter old new name = name :=
  if_neg h

/-- Every name but the new one comes back. -/
theorem nameAfter_nameAfter {old new name : String} (h : name ≠ new) :
    nameAfter new old (nameAfter old new name) = name := by
  by_cases hname : name = old
  · rw [hname, nameAfter_self, nameAfter_self]
  · rw [nameAfter_of_ne hname, nameAfter_of_ne h]

theorem Value.mapName_nameAfter_eq_iff {old new : String} {v : Value} (h : v ≠ .str new) :
    v.mapName (nameAfter old new) = .str new ↔ v = .str old := by
  cases v with
  | str name =>
    rw [mapName, Value.str.injEq, Value.str.injEq]
    by_cases hname : name = old
    · rw [hname, nameAfter_self, iff_true_right rfl]
    · rw [nameAfter_of_ne hname]
      exact iff_of_false (fun heq => h (heq ▸ rfl)) hname
  | null | bool | int | float | list | obj => simp [mapName]

theorem Value.mapName_nameAfter_ne {old new : String} (hne : new ≠ old) (v : Value) :
    v.mapName (nameAfter old new) ≠ .str old := by
  cases v with
  | str name =>
    rw [mapName, Ne, Value.str.injEq]
    by_cases hname : name = old
    · rw [hname, nameAfter_self]
      exact hne
    · rw [nameAfter_of_ne hname]
      exact hname
  | null | bool | int | float | list | obj => simp [mapName]

/-- What pointed at the old name points at the new one, and the rest stays. -/
theorem Node.repointed_nameAfter {τ : Type} (old new : String) (n : Node τ) :
    n.repointed (nameAfter old new) =
      if n.target? = some (.str old) then { n with body := .reference (.str new) } else n := by
  obtain ⟨_, body, _, _, _, _, _, _, _⟩ := n
  cases body with
  | reference target =>
    cases target with
    | str name =>
      by_cases hname : name = old
      · simp [repointed, Body.repointed, Value.mapName, target?, hname]
      · simp [repointed, Body.repointed, Value.mapName, target?, hname, nameAfter]
    | null | bool | int | float | list | obj =>
      simp [repointed, Body.repointed, Value.mapName, target?]
  | string | number | boolean | enum | object | array | definition | group =>
    simp [repointed, Body.repointed, target?]

/-- An entry that is taken out and put back at the end under another name. -/
theorem Entries.erase_append_perm {α : Type} {es : List (String × α)} (hd : (names es).Nodup)
    {old : String} {v : α} (h : find? es old = some v) (new : String) :
    (erase es old ++ [(new, v)]).Perm (es.map fun e => (nameAfter old new e.1, e.2)) := by
  induction es with
  | nil => simp at h
  | cons e es ih =>
    obtain ⟨n, w⟩ := e
    simp only [names, List.map_cons, List.nodup_cons] at hd
    by_cases hn : n = old
    · subst hn
      obtain rfl : w = v := by simpa using h
      have hrest : erase es n = es := List.filter_eq_self.2 fun e he => by
        simpa using fun heq : e.1 = n => hd.1 (heq ▸ List.mem_map_of_mem he)
      have hsame : (es.map fun e => (nameAfter n new e.1, e.2)) = es := by
        refine (List.map_congr_left fun e he => ?_).trans (List.map_id es)
        have hne : e.1 ≠ n := fun heq => hd.1 (heq ▸ List.mem_map_of_mem he)
        rw [nameAfter_of_ne hne]
        rfl
      have herase : erase ((n, w) :: es) n = erase es n := by simp [erase]
      rw [herase, hrest, List.map_cons, hsame, nameAfter_self]
      exact List.perm_append_comm
    · have herase : erase ((n, w) :: es) old = (n, w) :: erase es old := by simp [erase, hn]
      rw [herase, List.map_cons, nameAfter_of_ne hn]
      exact (ih hd.2 (by simpa [hn] using h)).cons _

namespace Graph

variable {g g' : Graph} {s : IdSupply} {old new : String}

/-! ## Pointing references elsewhere -/

theorem node?_pointAt (name : String) (ref x : NodeId) : (g.pointAt name ref).node? x =
    if ref = x then (g.node? x).map fun n => { n with body := .reference (.str name) }
    else g.node? x := by
  cases hn : g.node? ref with
  | none =>
    have hsame : g.pointAt name ref = g := by rw [pointAt, hn]
    rw [hsame]
    split
    · next hx => rw [← hx, hn]; rfl
    · rfl
  | some n =>
    have hput : g.pointAt name ref = g.putNode ref { n with body := .reference (.str name) } := by
      rw [pointAt, hn]
    rw [hput, node?_putNode]
    split
    · next hx => rw [← hx, hn]; rfl
    · rfl

theorem node?_pointAll (name : String) (refs : List NodeId) (x : NodeId) :
    ∀ g : Graph, (refs.foldl (fun h ref => h.pointAt name ref) g).node? x =
      if x ∈ refs then (g.node? x).map fun n => { n with body := .reference (.str name) }
      else g.node? x := by
  induction refs with
  | nil => exact fun g => (if_neg List.not_mem_nil).symm
  | cons ref refs ih =>
    intro g
    rw [List.foldl_cons, ih, node?_pointAt]
    by_cases hx : ref = x
    · subst hx
      rw [if_pos rfl, if_pos List.mem_cons_self, Option.map_map]
      exact ite_self _
    · rw [if_neg hx]
      simp only [List.mem_cons, Ne.symm hx, false_or]

/-- Only the nodes change when references are pointed elsewhere, and no name is taken or given up. -/
theorem pointAll_eq (name : String) (refs : List NodeId) :
    ∀ g : Graph, ∃ nodes : Table (Node NodeId), nodes.names = g.nodes.names ∧
      refs.foldl (fun h ref => h.pointAt name ref) g = { g with nodes := nodes } := by
  induction refs with
  | nil => exact fun g => ⟨g.nodes, rfl, rfl⟩
  | cons ref refs ih =>
    intro g
    obtain ⟨nodes, hnames, heq⟩ := ih (g.pointAt name ref)
    rw [List.foldl_cons, heq]
    unfold pointAt at hnames ⊢
    cases hn : g.node? ref with
    | none =>
      rw [hn] at hnames
      exact ⟨nodes, hnames, rfl⟩
    | some n =>
      rw [hn] at hnames
      exact ⟨nodes, hnames.trans (names_putNode_of_present (by rw [hn]; rfl) _), rfl⟩

/-! ## Where references point after a renaming -/

/-- The references to a definition, in the order of the names of the nodes. -/
theorem referencesTo_eq_filter (g : Graph) (name : String) :
    g.referencesTo name = g.nodes.names.filter fun id => g.targetAt id = some (.str name) := by
  unfold referencesTo Table.names Entries.names
  rw [List.filter_map]
  refine congrArg _ (List.filter_congr fun e he => ?_)
  rw [Function.comp_apply, targetAt_of_node? (Table.mem_entries_iff.1 he)]

theorem Repointed.targetAt {ρ : String → String} {d : NodeId} (hr : Repointed ρ d g g') {id : NodeId}
    (hid : id ≠ d) : g'.targetAt id = (g.targetAt id).map (Value.mapName ρ) := by
  unfold Graph.targetAt
  rw [hr.node hid]
  cases g.node? id with
  | none => rfl
  | some n => exact n.target?_repointed ρ

/-- The references to the definition under its old name are those under its new name. -/
theorem Repointed.referencesTo {d : NodeId} (hr : Repointed (nameAfter old new) d g g')
    (hd : g.targetAt d = none) (hd' : g'.targetAt d = none) (hnone : g.referencesTo new = []) :
    g'.referencesTo new = g.referencesTo old := by
  rw [referencesTo_eq_filter, referencesTo_eq_filter, hr.names]
  refine List.filter_congr fun id _ => decide_eq_decide.2 ?_
  by_cases hid : id = d
  · rw [hid, hd, hd']
    simp
  · rw [hr.targetAt hid]
    cases ht : g.targetAt id with
    | none => simp
    | some v =>
      have hv : v ≠ .str new := by
        rintro rfl
        exact absurd (mem_referencesTo_iff.2 ht) (hnone ▸ List.not_mem_nil)
      simp only [Option.map_some, Option.some.injEq, Value.mapName_nameAfter_eq_iff hv]

/-- Nothing points at the old name any more. -/
theorem Repointed.referencesTo_old {d : NodeId} (hr : Repointed (nameAfter old new) d g g')
    (hd' : g'.targetAt d = none) (hne : new ≠ old) : g'.referencesTo old = [] := by
  refine List.eq_nil_iff_forall_not_mem.2 fun id hmem => ?_
  rw [mem_referencesTo_iff] at hmem
  by_cases hid : id = d
  · rw [hid, hd'] at hmem
    cases hmem
  · rw [hr.targetAt hid, Option.map_eq_some_iff] at hmem
    obtain ⟨v, -, hv⟩ := hmem
    exact Value.mapName_nameAfter_ne hne v hv

/-! ## The definition under its new name -/

/-- A definition gets any other name that is free and not empty. -/
theorem renameDefinition_eq_ok_iff (hne : new ≠ old) : g.renameDefinition old new = .ok g' ↔
    ∃ d n, g.definitions.find? old = some d ∧ new ≠ "" ∧ g.definitions.find? new = none ∧
      g.node? d = some n ∧ g' = ((g.referencesTo old).foldl (fun h ref => h.pointAt new ref)
        (((g.putNode d { n with key := new, body := .definition (.str new) }).undefine old).define
          new d)).next := by
  have hcheck : ∀ u, g.checkNewName new = .ok u ↔ new ≠ "" ∧ g.definitions.find? new = none := by
    intro u
    refine ⟨checkNewName_ok, fun ⟨hname, hfree⟩ => ?_⟩
    unfold checkNewName
    rw [if_neg hname, Table.has_eq, hfree]
    rfl
  unfold renameDefinition
  cases hd : g.definitions.find? old with
  | none => simp [refuse]
  | some d =>
    simp only [if_neg hne, bind_eq_ok_iff, hcheck, pointedAt_eq_ok_iff, pure_eq_ok_iff]
    constructor
    · rintro ⟨_, ⟨hname, hfree⟩, n, hn, rfl⟩
      exact ⟨d, n, rfl, hname, hfree, hn, rfl⟩
    · rintro ⟨_, n, heq, hname, hfree, hn, rfl⟩
      cases heq
      exact ⟨(), ⟨hname, hfree⟩, n, hn, rfl⟩

/-- What a renaming makes of a graph. -/
structure DefinitionRenamed (g g' : Graph) (old new : String) (d : NodeId) : Prop where
  /-- The node had the old name. -/
  found : g.definitions.find? old = some d
  /-- The new name was free. -/
  free : g.definitions.find? new = none
  /-- The node has the new name. -/
  found' : g'.definitions.find? new = some d
  /-- The old name is free. -/
  free' : g'.definitions.find? old = none
  /-- All other nodes are as before but for where references point. -/
  repointed : Repointed (nameAfter old new) d g g'

theorem definitionRenamed_of_renameDefinition (hne : new ≠ old)
    (h : g.renameDefinition old new = .ok g') : ∃ d, DefinitionRenamed g g' old new d := by
  obtain ⟨d, n, hfind, -, hfree, hn, rfl⟩ := (renameDefinition_eq_ok_iff hne).1 h
  have hnode := fun x => node?_pointAll new (g.referencesTo old) x
    (((g.putNode d { n with key := new, body := .definition (.str new) }).undefine old).define new d)
  obtain ⟨nodes, hnames, heq⟩ := pointAll_eq new (g.referencesTo old)
    (((g.putNode d { n with key := new, body := .definition (.str new) }).undefine old).define new d)
  rw [heq] at hnode ⊢
  have hnew : new ∉ (g.definitions.erase old).names := fun hmem => by
    rw [Table.mem_names_iff, Table.find?_erase, hfree, ite_self] at hmem
    cases hmem
  refine ⟨d, hfind, hfree, ?_, ?_, ?_⟩
  · exact Table.find?_put_self _ _ _
  · show ((g.definitions.erase old).put new d).find? old = none
    rw [Table.find?_put, if_neg hne, Table.find?_erase, if_pos rfl]
  · refine ⟨fun {id} hid => ?_, hnames.trans (names_putNode_of_present (by rw [hn]; rfl) _),
      fun _ => rfl, ?_, rfl⟩
    · refine (hnode id).trans ?_
      rw [node?_define, node?_undefine, node?_putNode, if_neg (Ne.symm hid)]
      simp only [mem_referencesTo_iff, targetAt]
      cases g.node? id with
      | none => exact ite_self _
      | some n =>
        rw [Option.map_some, Option.map_some, Node.repointed_nameAfter, Option.bind_some]
        exact (apply_ite some _ _ _).symm
    · show (Entries.put (g.definitions.erase old).entries new d).Perm _
      rw [Entries.put_of_not_mem hnew]
      exact Entries.erase_append_perm g.definitions.nodup hfind new

/-! ## The signature after a renaming -/

/-- No clause names the node of the definition as a branch. -/
def Unbranched (g : Graph) (name : String) : Prop :=
  ∀ {d}, g.definitions.find? name = some d → ∀ x k, ¬ g.Points x d k

/-- Where groups are made without clauses, a clause names nothing but branches. -/
theorem Reachable.unbranched (hr : Reachable (fun _ c => c.Plain) g s) (name : String) :
    g.Unbranched name := by
  intro d hfind x k hp
  obtain ⟨hs, -⟩ := hr.sound
  obtain ⟨n, hn, hname⟩ := hs.defined.1 hfind
  obtain ⟨_, _, _, ho⟩ := hr.attached hp
  rw [hs.definition_top hn (Node.kind_eq_of_definitionName? hname)] at ho
  cases ho

/-- A signature shows the content of a definition, not its node. -/
theorem Unbranched.hidden {d : NodeId} (hu : g.Unbranched old) (hs : Sound g)
    (hfind : g.definitions.find? old = some d) : Hidden g d := by
  obtain ⟨n, hn, hname⟩ := hs.defined.1 hfind
  have hkind : n.kind = .definition := Node.kind_eq_of_definitionName? hname
  refine ⟨?_, fun x hx => ?_, hu hfind⟩
  · rintro rfl
    obtain ⟨m, hm, hobj⟩ := hs.root
    rw [hn] at hm
    obtain rfl := Option.some.inj hm
    rw [hkind] at hobj
    cases hobj
  · rw [childIds, hs.toForest.mem_targetsOfKind_iff, hs.definition_top hn hkind] at hx
    cases hx

theorem DefinitionRenamed.targetAt {d : NodeId} (hd : DefinitionRenamed g g' old new d) (hs : Sound g)
    (hs' : Sound g') : g.targetAt d = none ∧ g'.targetAt d = none := by
  have hnone : ∀ {h : Graph} {name : String}, Sound h → h.definitions.find? name = some d →
      h.targetAt d = none := by
    intro h name hsound hfind
    obtain ⟨n, hn, hname⟩ := hsound.defined.1 hfind
    rw [targetAt_of_node? hn]
    by_contra hsome
    obtain ⟨v, hv⟩ := Option.ne_none_iff_exists'.1 hsome
    have hkind := Node.kind_of_target? hv
    rw [Node.kind_eq_of_definitionName? hname] at hkind
    cases hkind
  exact ⟨hnone hs hd.found, hnone hs' hd.found'⟩

/-- There and back again, every node but that of the definition points where it did. -/
theorem DefinitionRenamed.back {g'' : Graph} {d : NodeId} (hd : DefinitionRenamed g g' old new d)
    (hd' : DefinitionRenamed g' g'' new old d) (hnone : g.referencesTo new = []) :
    Repointed id d g g'' := by
  refine (hd.repointed.trans hd'.repointed).congr (fun {x n name} hn ht => ?_) fun e he => ?_
  · refine nameAfter_nameAfter ?_
    rintro rfl
    exact absurd (mem_referencesTo_iff.2 ((targetAt_of_node? hn).trans ht)) (hnone ▸ List.not_mem_nil)
  · refine nameAfter_nameAfter ?_
    rintro rfl
    have hfind := Table.mem_entries_iff.1 he
    rw [hd.free] at hfind
    cases hfind

/-- A definition of a reachable graph is renamed, and nothing points at its new name. Then its
references are those that it had, and the signature is the same under the new name. If its old name is
not empty, it gets it back, and then the signature is the same. The signature is meant as long as no
clause names the node of the definition; where groups are made without clauses none does, and there is
a signature. -/
theorem renamed_of_renameDefinition (hr : Reachable (fun _ _ => True) g s) (hne : new ≠ old)
    (hnone : g.referencesTo new = []) (h : g.renameDefinition old new = .ok g') :
    (g'.referencesTo new = g.referencesTo old ∧ g'.referencesTo old = []) ∧
    (g.Unbranched old → ∀ {widgets v}, g.signature widgets = .ok v →
      g'.signature widgets = .ok (Signature.renamedDocument (nameAfter old new) v)) ∧
    (old ≠ "" → ∃ g'', g'.renameDefinition new old = .ok g'' ∧
      (g.Unbranched old → ∀ {widgets v}, g.signature widgets = .ok v →
        g''.signature widgets = .ok v)) ∧
    (Reachable (fun _ c => c.Plain) g s →
      g.Unbranched old ∧ ∀ widgets, ∃ v, g.signature widgets = .ok v) := by
  obtain ⟨hs, -⟩ := hr.sound
  obtain ⟨hs', -⟩ := SoundBut.renameDefinition hs h
  obtain ⟨d, hd⟩ := definitionRenamed_of_renameDefinition hne h
  obtain ⟨htarget, htarget'⟩ := hd.targetAt hs hs'
  refine ⟨⟨hd.repointed.referencesTo htarget htarget' hnone,
    hd.repointed.referencesTo_old htarget' hne⟩,
    fun hu _ _ hv => hd.repointed.signature (hu.hidden hs hd.found) hv, fun hold => ?_,
    fun hplain => ⟨hplain.unbranched old, hplain.attached.signature_total hs⟩⟩
  obtain ⟨n, hn, -⟩ := hs'.defined.1 hd.found'
  have hback := (renameDefinition_eq_ok_iff hne.symm).2 ⟨d, n, hd.found', hold, hd.free', hn, rfl⟩
  obtain ⟨d', hd'⟩ := definitionRenamed_of_renameDefinition hne.symm hback
  obtain rfl : d = d' := Option.some.inj (hd.found'.symm.trans hd'.found)
  refine ⟨_, hback, fun hu {widgets v} hv => ?_⟩
  rw [(hd.back hd' hnone).signature (hu.hidden hs hd.found) hv, renamedDocument_id_of_signature hv]

/-- A list of lists of the same kind, to which another definition and the root refer, gets another name
and its old one again. -/
theorem renamed_of_recursive_definition :
    ∃ (g : Graph) (s : IdSupply) (g' g'' : Graph) (v : Value), Reachable (fun _ _ => True) g s ∧
      "rows" ≠ "list" ∧ g.referencesTo "rows" = [] ∧ g.renameDefinition "list" "rows" = .ok g' ∧
      g.referencesTo "list" = ["n3", "n6", "n7"] ∧ g'.referencesTo "rows" = ["n3", "n6", "n7"] ∧
      g'.referencesTo "list" = [] ∧ g.signature false = .ok v ∧
      g'.signature false = .ok (Signature.renamedDocument (nameAfter "list" "rows") v) ∧
      g'.renameDefinition "rows" "list" = .ok g'' ∧ g''.signature false = .ok v := by
  have hlist : Reachable (fun _ c => c.Plain) _ _ :=
    .change (c := .createDefinition "list" (some { body := Body.initial .array }))
      (.empty .null .null {}) rfl rfl
  have hitem : Reachable (fun _ c => c.Plain) _ _ :=
    .change (c := .add { body := .reference (.str "list") } "n2" .child none) hlist rfl rfl
  have hother : Reachable (fun _ c => c.Plain) _ _ :=
    .change (c := .createDefinition "table" (some { body := Body.initial .object })) hitem rfl rfl
  have hcolumn : Reachable (fun _ c => c.Plain) _ _ :=
    .change (c := .add { body := .reference (.str "list") } "n5" .child none) hother rfl rfl
  have hroot : Reachable (fun _ c => c.Plain) _ _ :=
    .change (c := .add { body := .reference (.str "list") } rootName .child none) hcolumn rfl rfl
  obtain ⟨g, s, hplain, g', hnone, hrefs, h⟩ : ∃ g s, Reachable (fun _ c => c.Plain) g s ∧
      ∃ g', g.referencesTo "rows" = [] ∧ g.referencesTo "list" = ["n3", "n6", "n7"] ∧
        g.renameDefinition "list" "rows" = .ok g' :=
    ⟨_, _, hroot, _, by decide, by decide, rfl⟩
  have hr : Reachable (fun _ _ => True) g s := hplain.mono fun _ => trivial
  obtain ⟨⟨htaken, hleft⟩, hsignature, hback, htotal⟩ :=
    renamed_of_renameDefinition hr (by decide) hnone h
  obtain ⟨hu, htotal⟩ := htotal hplain
  obtain ⟨g'', hg'', hsame⟩ := hback (by decide)
  obtain ⟨v, hv⟩ := htotal false
  exact ⟨g, s, g', g'', v, hr, by decide, hnone, h, hrefs, htaken.trans hrefs, hleft, hv,
    hsignature hu hv, hg'', hsame hu hv⟩

/-- A definition with the empty name that was read does not get its name back. And where a group is
made with a clause that names the node of a definition, the signature shows this node, which says its
own name. -/
theorem exists_rename_not_pure :
    (∃ (g : Graph) (s : IdSupply) (g' : Graph), Reachable (fun _ c => c.Plain) g s ∧
      g.referencesTo "a" = [] ∧ g.renameDefinition "" "a" = .ok g' ∧
      g'.renameDefinition "a" "" = refuse .emptyDefinitionName) ∧
    ∃ (g : Graph) (s : IdSupply) (g' : Graph) (v : Value), Reachable (fun _ _ => True) g s ∧
      g.referencesTo "b" = [] ∧ g.renameDefinition "a" "b" = .ok g' ∧ g.signature false = .ok v ∧
      g'.signature false ≠ .ok (Signature.renamedDocument (nameAfter "a" "b") v) := by
  constructor
  · have hproper : (Value.obj [("definitions", .obj [("", .obj [("type", .str "string")])])]).Proper :=
      Value.proper_of_everywhere (by decide)
    have hread : Reachable (fun _ c => c.Plain) _ _ :=
      .document hproper (rfl : (decompile _ {}).run {} = .ok _)
    exact ⟨_, _, _, hread, by decide, rfl, rfl⟩
  · have hdefined : Reachable (fun _ _ => True) _ _ :=
      .change (c := .createDefinition "a" none) (.empty .null .null {}) trivial rfl
    have hgroup : Reachable (fun _ _ => True) _ _ :=
      .change (c := .add { body := .group .allOf [⟨.blank, some "n1", none⟩] } rootName .child none)
        hdefined trivial rfl
    obtain ⟨g, s, g', hg, hnone, h, hv, hne⟩ : ∃ g s g', Reachable (fun _ _ => True) g s ∧
        g.referencesTo "b" = [] ∧ g.renameDefinition "a" "b" = .ok g' ∧
        (g.signature false).isOk = true ∧ g'.signature false ≠
          (g.signature false).map (Signature.renamedDocument (nameAfter "a" "b")) :=
      ⟨_, _, _, hgroup, by decide, rfl, by decide +kernel, by decide +kernel⟩
    obtain ⟨v, hv⟩ := exists_of_isOk hv
    rw [hv] at hne
    exact ⟨g, s, g', v, hg, hnone, h, hv, hne⟩

end Graph

end FormGraph

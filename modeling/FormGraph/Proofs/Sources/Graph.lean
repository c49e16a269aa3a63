import FormGraph.Proofs.RoundTrip.NormalForm
import FormGraph.Proofs.Sources.Outline

/-!
# What the nodes of a graph stand for

A graph that was read from a document is a picture of it: the root stands for the document, what
hangs below a definition for an entry of its table, and the edges below any other node for the
sources of that node, in order. Every node but a definition stands for some part of the document
(`exists_standsFor`), and shows what is read of that part (`reads_of_standsFor`).
-/

namespace FormGraph

open Noted

/-- The node stands for a value of the document: it is the root, the content of a definition, or
hangs below another one over the edge for one of its sources. -/
inductive StandsFor (document : Members) (g : Graph) : Value → NodeId → Prop where
  | root : StandsFor document g (.obj document) g.rootId
  | definition {name : String} {v : Value} {id t : NodeId}
    (listed : Entries.find? (Decompile.definitionTable document).value name = some v)
    (named : g.definitions.find? name = some id) (child : t ∈ g.childIds id) :
    StandsFor document g v t
  | hanging {schema : Members} {v : Value} {id t : NodeId} {n : Node NodeId} {i : Nat}
    {k : EdgeKind} (up : StandsFor document g (.obj schema) id) (node : g.node? id = some n)
    (source : (Decompile.sources n.kind schema)[i]? = some (k, v))
    (edge : (g.edgesFrom id)[i]? = some ⟨id, t, k⟩) : StandsFor document g v t

/-! ## Proper documents -/

namespace Decompile

variable {schema : Members} {kind : GroupKind}

theorem proper_of_branchOf? {entry : Members} (hp : (Value.obj entry).Proper) {k : EdgeKind}
    {v : Value} (hv : branchOf? kind entry k = some v) : v.Proper := by
  unfold branchOf? at hv
  cases k with
  | child => cases hv
  | thenBranch => exact hp.of_find? hv
  | elseBranch =>
    dsimp only at hv
    split_ifs at hv
    exact hp.of_find? hv

theorem proper_of_mem_entriesOf (hp : (Value.obj schema).Proper) {entry : Members}
    (he : entry ∈ entriesOf kind schema) : (Value.obj entry).Proper := by
  have hlist : ∀ name,
      entry ∈ ((Value.member schema name).list?.getD []).filterMap Value.obj? →
        (Value.obj entry).Proper := by
    intro name he
    obtain ⟨v, hv, hentry⟩ := List.mem_filterMap.1 he
    have hmember := hp.member name
    generalize Value.member schema name = list at hv hmember
    cases list with
    | list items =>
      have hitem := hmember.items v hv
      cases v with
      | obj members =>
        obtain rfl := Option.some.inj hentry
        exact hitem
      | null | bool _ | int _ | float _ | str _ | list _ => cases hentry
    | null | bool _ | int _ | float _ | str _ | obj _ => exact absurd hv List.not_mem_nil
  cases kind with
  | ifBlock =>
    obtain rfl := List.mem_singleton.1 he
    exact hp
  | allOf | anyOf | oneOf => exact hlist _ he

theorem proper_of_mem_ownBranches (hp : (Value.obj schema).Proper) {b : EdgeKind × Value}
    (hb : b ∈ ownBranches kind schema) : b.2.Proper := by
  obtain ⟨entry, hentry, hbranch⟩ :=
    List.mem_flatMap.1 (List.mem_of_find?_eq_some (find?_of_mem_addNew hb))
  have hproper := proper_of_mem_entriesOf hp hentry
  rcases List.mem_append.1 hbranch with hbranch | hbranch
  all_goals
    obtain ⟨v, hv, rfl⟩ := List.mem_map.1 hbranch
    exact proper_of_branchOf? hproper (Option.mem_toList.1 hv)

theorem proper_branchSchema {v : Value} (hp : v.Proper) : (branchSchema v).Proper := by
  cases v with
  | obj members => exact proper_branchInner hp _ _
  | null | bool _ | int _ | float _ | str _ | list _ => exact hp

theorem proper_of_mem_ownGroups (hp : (Value.obj schema).Proper) {c : GroupKind × Members}
    (hc : c ∈ ownGroups schema) : (Value.obj c.2).Proper := by
  have hlist : ∀ kind, c ∈ listGroup schema kind → (Value.obj c.2).Proper := by
    intro kind h
    unfold listGroup at h
    split at h
    · cases h
    · next entries hfind =>
      split_ifs at h
      · rw [List.mem_singleton.1 h]
        exact Value.proper_singleton (hp.of_find? hfind) _
      · cases h
  unfold ownGroups at hc
  simp only [List.mem_append] at hc
  rcases hc with ((hc | hc) | hc) | hc
  · unfold blockGroup at hc
    split_ifs at hc
    · rw [List.mem_singleton.1 hc]
      exact proper_picked hp (by decide)
    · cases hc
  · unfold entryGroups at hc
    split at hc
    · next items hitems =>
      obtain ⟨entry, hentry, hgroup⟩ := List.mem_filterMap.1 hc
      have hproper := (hitems ▸ hp.member "allOf").items entry hentry
      unfold entryGroup? at hgroup
      split at hgroup
      · obtain rfl := Option.some.inj hgroup
        exact hproper
      · cases hgroup
    · cases hc
  · exact hlist .anyOf hc
  · exact hlist .oneOf hc

/-- What the nodes below are read from is proper. -/
theorem proper_of_mem_sources (hp : (Value.obj schema).Proper) {kind : NodeKind}
    {s : EdgeKind × Value} (hs : s ∈ sources kind schema) : s.2.Proper := by
  unfold sources at hs
  split at hs
  · rcases List.mem_append.1 hs with hs | hs
    · obtain ⟨p, hmem, rfl⟩ := List.mem_map.1 hs
      have hproperties := hp.member "properties"
      unfold propertiesIn at hmem
      split at hmem
      · next properties heq => exact (heq ▸ hproperties).of_mem hmem
      · exact absurd hmem List.not_mem_nil
    · obtain ⟨c, hc, rfl⟩ := List.mem_map.1 hs
      exact proper_of_mem_ownGroups hp hc
  · obtain ⟨v, hv, rfl⟩ := List.mem_map.1 hs
    rw [Option.mem_toList] at hv
    unfold itemIn? at hv
    split at hv
    · next schemas hfind => exact (hp.of_find? hfind).items v (List.mem_of_mem_head? hv)
    · exact hp.of_find? hv
  · obtain ⟨b, hb, rfl⟩ := List.mem_map.1 hs
    exact proper_branchSchema (proper_of_mem_ownBranches hp hb)
  · exact absurd hs List.not_mem_nil

end Decompile

/-- What a node of a proper document stands for is proper. -/
theorem StandsFor.proper {document : Members} {g : Graph} {v : Value} {id : NodeId}
    (h : StandsFor document g v id) (hp : (Value.obj document).Proper) : v.Proper := by
  induction h with
  | root => exact hp
  | definition listed _ _ => exact (Decompile.proper_definitionTable hp).of_find? listed
  | hanging _ _ source _ ih => exact Decompile.proper_of_mem_sources ih (List.mem_of_getElem? source)

/-! ## Graphs that were read -/

namespace DocumentOutline

/-- The document was read as the outline, which can be written. -/
structure ReadAs (document : Members) (cfg : DocumentConfig) (d : DocumentOutline) : Prop
    extends d.WasRead where
  /-- The document was read calmly. -/
  yields : (Decompile.outline cfg.tupleItems document).Yields d

end DocumentOutline

namespace Graph

variable {document : Members} {cfg : DocumentConfig} {d : DocumentOutline} {used : Nat}
  {g : Graph} {v : Value} {id : NodeId}

theorem laidOut_of_decompile (hp : (Value.obj document).Proper) {s : IdSupply}
    {read : Imported × IdSupply} (h : (decompile (.obj document) cfg).run s = .ok read) :
    ∃ d : DocumentOutline, d.ReadAs document cfg ∧ read.1.graph = d.toGraph s.used := by
  obtain ⟨d, hout, hgraph, _⟩ := decompile_ok h
  obtain ⟨members, hmembers, hcalm, hvalue⟩ := calm_of_outlineOf hout
  obtain rfl : document = members := Value.obj.inj hmembers
  exact ⟨d, ⟨DocumentOutline.wasRead_of_outlineOf hp hout, hvalue.symm, hcalm⟩, hgraph⟩

/-- The node shows an outline that was read of the value and can be written. -/
structure Reads (document : Members) (cfg : DocumentConfig) (g : Graph) (v : Value) (id : NodeId)
    (o : Outline) : Prop where
  /-- The outline is read of the value. -/
  read : Decompile.ReadFrom cfg.tupleItems
    (Entries.names (Decompile.definitionTable document).value) v o
  /-- The node shows it. -/
  shows : g.Shows id o
  /-- It can be written. -/
  writable : o.Writable
  /-- It fits. -/
  fits : o.Fits
  /-- It is not deeper than the graph is large. -/
  height : o.height ≤ Compile.depth g

theorem Shows.height_of_edge {hs : List (NodeId × EdgeKind × Outline)}
    {h : NodeId × EdgeKind × Outline} (hh : h ∈ hs) {n : Node Nat} :
    h.2.2.height < (Outline.mk n (hs.map Prod.snd)).height := by
  rw [Outline.height]
  exact Nat.lt_succ_of_le (Outline.height_le_heightBelow (List.mem_map_of_mem hh))

/-- What hangs below a node that shows what was read shows what was read of the sources. -/
theorem Reads.below {o : Outline} (h : g.Reads document cfg v id o) {n : Node NodeId}
    (hn : g.node? id = some n) :
    ∃ members, v = .obj members ∧
      List.Forall₂ (fun s e => e.kind = s.1 ∧ ∃ o', g.Reads document cfg s.2 e.target o')
        (Decompile.sources n.kind members) (g.edgesFrom id) := by
  obtain ⟨members, rfl, hsources⟩ := Decompile.hanging_of_readFrom h.read
  refine ⟨members, rfl, ?_⟩
  obtain ⟨_, hshows, hwritable, hfits, hheight⟩ := h
  have hkind := (hshows.kind_eq hn).1
  cases hshows with
  | @mk _ m hs node edges below =>
    rw [hkind, edges, List.forall₂_map_right_iff]
    have hhanging : List.Forall₂ (Decompile.ReadEdge cfg.tupleItems _)
        (Decompile.sources m.kind members) (hs.map Prod.snd) := hsources
    rw [List.forall₂_map_right_iff] at hhanging
    refine (forall₂_with_mem hhanging).imp fun s x ⟨_, hx, hk, hread⟩ => ⟨hk, x.2.2, ?_⟩
    have hmem : x.2 ∈ (Outline.mk m (hs.map Prod.snd)).hanging := List.mem_map_of_mem hx
    refine ⟨hread, below x hx, ?_, hfits.hanging _ hmem, ?_⟩
    · cases hwritable with
      | mk _ _ _ _ _ _ hbelow => exact hbelow _ hmem
    · exact Nat.le_trans (Nat.le_of_lt (Shows.height_of_edge hx)) hheight

/-- What a group shows is read of the form of one, and the clauses point at what hangs below. -/
theorem Reads.group {o : Outline} {group : Members} (h : g.Reads document cfg (.obj group) id o)
    {n : Node NodeId} (hn : g.node? id = some n) {kind : GroupKind} (hk : n.kind = .group kind) :
    Decompile.groupKind? (.obj group) = some kind ∧ ∃ depth parts,
      Decompile.ReadGroupParts (Decompile.reader cfg.tupleItems
        (Entries.names (Decompile.definitionTable document).value) depth) kind group parts ∧
      o.node.body = .group kind parts.clauses ∧ o.hanging = parts.below :=
  Decompile.group_of_readFrom h.read ((h.shows.kind_eq hn).1.symm.trans hk)

end Graph

namespace DocumentOutline.ReadAs

variable {document : Members} {cfg : DocumentConfig} {d : DocumentOutline} {name : String} {v : Value}

/-- A definition of a document that was read has an entry in the table. -/
theorem exists_entry (hd : d.ReadAs document cfg) {e : DefinitionOutline} (he : e ∈ d.definitions) :
    ∃ v, Entries.find? (Decompile.definitionTable document).value e.name = some v := by
  have hnames := Decompile.names_outline cfg.tupleItems document
  rw [hd.yields.value_eq] at hnames
  refine Option.isSome_iff_exists.1 (Entries.mem_names_iff.1 ?_)
  rw [← hnames]
  exact List.mem_map_of_mem he

/-- The content of a definition is read from its entry. -/
theorem content_read (hd : d.ReadAs document cfg)
    (h : Entries.find? (Decompile.definitionTable document).value name = some v)
    {e : DefinitionOutline} (he : e ∈ d.definitions) (hname : e.name = name) {o : Outline}
    (ho : e.content = some o) :
    Decompile.ReadFrom cfg.tupleItems
      (Entries.names (Decompile.definitionTable document).value) v o := by
  obtain ⟨hvalue, hc⟩ := hd.yields
  rw [Decompile.outline_eq] at hvalue hc
  simp only [value_bind, value_pure, value_mapM, calm_bind_iff] at hvalue hc
  obtain ⟨_, _, hdefinitions, _⟩ := hc
  have hmem := Entries.mem_of_find? h
  have hread := calm_mapM_iff.1 hdefinitions _ hmem
  have hall := congrArg DocumentOutline.definitions hvalue
  dsimp only at hall
  -- names are distinct, so the definition is the one that is read from the entry
  have heq := List.inj_on_of_nodup_map hd.fits.names he
    (hall ▸ List.mem_map_of_mem hmem)
    (hname.trans (Decompile.name_definitionOf _ (name, v)).symm)
  rw [heq, Decompile.definitionOf_eq] at ho
  rw [Decompile.definitionOf_eq] at hread
  have hcontent := (calm_bind_iff.1 hread).1
  rw [value_bind, value_pure] at ho
  unfold Decompile.definitionContent at hcontent ho
  split_ifs at hcontent ho
  exact .schema ⟨ho, hcontent⟩

end DocumentOutline.ReadAs

namespace Graph

variable {document : Members} {cfg : DocumentConfig} {d : DocumentOutline} {used : Nat}
  {v : Value} {id : NodeId}

/-! ## Nodes that stand for something -/

/-- What hangs below a definition shows what is read of its entry. -/
theorem reads_definition (hd : d.ReadAs document cfg) {name : String}
    (hv : Entries.find? (Decompile.definitionTable document).value name = some v)
    (hid : (d.toGraph used).definitions.find? name = some id) {t : NodeId}
    (ht : t ∈ (d.toGraph used).childIds id) : ∃ o, (d.toGraph used).Reads document cfg v t o := by
  obtain ⟨e, he, hname, _⟩ := DocumentOutline.exists_definition_spot hd.fits hid
  have hshows := (DocumentOutline.shows_toGraph hd.fits used).content e he id (hname ▸ hid)
  cases hc : e.content with
  | none =>
    rw [hc] at hshows
    rw [show (d.toGraph used).childIds id = [] from hshows] at ht
    exact absurd ht List.not_mem_nil
  | some o =>
    rw [hc] at hshows
    obtain ⟨c, hhead, hshow, hheight⟩ := hshows
    have hsingle := DocumentOutline.length_childIds_definition_le hd.fits hid
    obtain rfl : t = c := by
      generalize (d.toGraph used).childIds id = ids at ht hhead hsingle
      match ids, hsingle with
      | [c'], _ =>
        rw [List.mem_singleton.1 ht]
        exact Option.some.inj hhead
    exact ⟨o, hd.content_read hv he hname hc, hshow, hd.writable.content e he o hc,
      hd.fits.content e he o hc, hheight⟩

/-- A node that stands for a value shows what is read of it. -/
theorem reads_of_standsFor (hd : d.ReadAs document cfg)
    (h : StandsFor document (d.toGraph used) v id) :
    ∃ o, (d.toGraph used).Reads document cfg v id o := by
  induction h with
  | root =>
    have hs := DocumentOutline.shows_toGraph hd.fits used
    exact ⟨d.root, .document rfl hd.yields, hs.root, hd.writable.root, hd.fits.root, hs.root_height⟩
  | definition listed named child => exact reads_definition hd listed named child
  | @hanging schema v id t n i k up node source edge ih =>
    obtain ⟨o, hread⟩ := ih
    obtain ⟨members, hmembers, hbelow⟩ := hread.below node
    obtain rfl := Value.obj.inj hmembers
    obtain ⟨e, he, _, hreads⟩ := exists_right_of_getElem? hbelow source
    obtain rfl := Option.some.inj (he.symm.trans edge)
    exact hreads

/-- Every node but a definition stands for a part of the document. -/
theorem exists_standsFor (hd : d.ReadAs document cfg) {n : Node NodeId}
    (hn : (d.toGraph used).node? id = some n) (hk : n.kind ≠ .definition) :
    ∃ v, StandsFor document (d.toGraph used) v id := by
  have hs := sound_toGraph hd.fits used
  induction hs.grounded id generalizing n with
  | @top id ho =>
    rcases hs.top_of_sound hn ho with rfl | hdef
    · exact ⟨_, .root⟩
    · exact absurd hdef hk
  | @owned id e ho _ ih =>
    obtain ⟨m, hm⟩ := Option.isSome_iff_exists.1 (hs.present ho).2
    obtain ⟨rfl, hlisted⟩ := hs.listed ho
    by_cases hdef : m.kind = .definition
    · obtain ⟨name, hname⟩ := hs.named hm hdef
      have hfind := hs.defined.2 ⟨m, hm, hname⟩
      obtain ⟨e', he', rfl, _⟩ := DocumentOutline.exists_definition_spot hd.fits hfind
      obtain ⟨v, hv⟩ := hd.exists_entry he'
      have hchild : e.kind = .child := by
        have hfits := hs.fits ho hm
        rw [hdef] at hfits
        cases hkind : e.kind with
        | child => rfl
        | thenBranch | elseBranch =>
          rw [hkind] at hfits
          cases hfits
      refine ⟨v, .definition hv hfind ?_⟩
      exact List.mem_map_of_mem (List.mem_filter.2 ⟨hlisted, decide_eq_true hchild⟩)
    · obtain ⟨v, hv⟩ := ih hm hdef
      obtain ⟨o, hread⟩ := reads_of_standsFor hd hv
      obtain ⟨members, rfl, hbelow⟩ := hread.below hm
      obtain ⟨i, hi⟩ := List.getElem?_of_mem hlisted
      obtain ⟨⟨k, w⟩, hw, rfl, _⟩ := exists_left_of_getElem? hbelow hi
      exact ⟨w, .hanging hv hm hw hi⟩

/-- What it stands for is an object. -/
theorem exists_standsFor_object (hd : d.ReadAs document cfg) {n : Node NodeId}
    (hn : (d.toGraph used).node? id = some n) (hk : n.kind ≠ .definition) :
    ∃ schema, StandsFor document (d.toGraph used) (.obj schema) id := by
  obtain ⟨v, hv⟩ := exists_standsFor hd hn hk
  obtain ⟨o, ho⟩ := reads_of_standsFor hd hv
  obtain ⟨members, rfl, _⟩ := ho.below hn
  exact ⟨members, hv⟩

end Graph

end FormGraph

import FormGraph.Proofs.References.Basic

/-!
# The targets after a definition is removed

Every target that is left after a removal was one before (`targetAt_of_removeDefinition`). What is
left of the targets that name the definition itself depends on the policy: under `allow` those of the
references outside of the definition, and when such references are inlined those that their copies
of the content have brought along (`exists_stray_iff`).

So whatever the policy but `allow`, removing a definition takes it off the table and its nodes out of
the graph, and leaves the references to other definitions alone. No reference to the definition is left
either, with one exception: where the content of a definition refers to the definition itself, each
copy of the content that takes the place of a reference brings along a reference to what is gone
(`dangling_iff_of_removeDefinition`).
-/

namespace FormGraph

namespace Graph

variable {g g' old : Graph} {s : IdSupply}

/-! ## Inlining all references -/

/-- What inlining many references does to the targets. -/
structure AllInlined (old : Graph) (refs : List NodeId) (content : Option NodeId) (g g' : Graph) :
    Prop where
  /-- The references point nowhere any more. -/
  gone : ∀ x ∈ refs, g'.targetAt x = none
  /-- The other references point where they did. -/
  kept : ∀ {x v}, x ∉ refs → g.targetAt x = some v → g'.targetAt x = some v
  /-- What points anywhere did so before, or is a copy under a new name. -/
  back : ∀ {x v}, g'.targetAt x = some v → g.targetAt x = some v ∨
    refs ≠ [] ∧ old.node? x = none ∧
      ∃ c ∈ content, ∃ y ∈ old.subtreeIds c, old.targetAt y = some v
  /-- There is a copy of what points anywhere below the content, under a name that was free. -/
  copies : refs ≠ [] → ∀ {c}, c ∈ content → ∀ {y v}, y ∈ old.subtreeIds c →
    old.targetAt y = some v → ∃ x, g.node? x = none ∧ g'.targetAt x = some v

/-- References hang below something. -/
theorem owned_of_reference (hs : Sound g) {ref : NodeId} (hk : g.kind? ref = some .reference) :
    (g.owningEdge ref).isSome := by
  obtain ⟨n, hn, hkind⟩ := g.kind?_eq_some_iff.1 hk
  by_contra hnone
  rw [Bool.not_eq_true, Option.isSome_eq_false_iff, Option.isNone_iff_eq_none] at hnone
  rcases hs.top_of_sound hn hnone with rfl | hdef
  · exact hs.ne_root_of_kind hk (by simp) rfl
  · rw [hdef] at hkind
    simp at hkind

namespace Inlining

/-- Inlining all references, one after the other. What is copied for one of them stays: the ones that
follow were there before. -/
theorem allInlined (hold : Sound old) {own : List NodeId}
    (hown : ∀ x ∈ own, (old.node? x).isSome) {content : Option NodeId}
    (hcontent : ∀ c, content = some c → (old.owningEdge c).isSome) (refs : List NodeId)
    (hn : refs.Nodup) (hout : ∀ ref ∈ refs, ref ∉ own) {r : Graph × IdSupply} :
    ∀ {g : Graph} {s : IdSupply}, Inlining old own refs g → Supplied g s → Supplied old s →
      (refs.foldlM (fun (h : Graph) ref => h.inlineReference old ref content) g : Edit Graph).run s =
        .ok r → AllInlined old refs content g r.1 := by
  induction refs with
  | nil =>
    intro g s _ _ _ h
    rw [List.foldlM_nil, Edit.pure_eq_ok_iff] at h
    subst h
    exact ⟨by simp, fun _ hv => hv, fun hv => Or.inl hv, fun hne => absurd rfl hne⟩
  | cons ref refs ih =>
    intro g s hi hsup hsupOld h
    rw [List.nodup_cons] at hn
    rw [List.foldlM_cons, Edit.bind_eq_ok_iff] at h
    obtain ⟨g₁, s₁, h₁, h⟩ := h
    obtain ⟨hi₁, hsup₁, hle⟩ := hi.inlineReference hold hsup hsupOld hown
      (hout ref List.mem_cons_self) hn.1 hcontent h₁
    obtain ⟨hk, hk'⟩ := hi.refs ref List.mem_cons_self
    have hone : Inlined old ref content g g₁ :=
      inlined_of_inlineReference hi.sound hold hsup hsupOld hk hk' h₁
    have hrest : AllInlined old refs content g₁ r.1 :=
      ih hn.2 (fun x hx => hout x (List.mem_cons_of_mem _ hx)) hi₁ hsup₁
        (hsupOld.step hle fun x hx => Or.inl hx) h
    have hthere : (old.node? ref).isSome := present_of_kind? hk'
    refine ⟨fun x hx => ?_, fun {x v} hx hv => ?_, fun {x v} hv => ?_,
      fun _ {c} hc {y v} hy hv => ?_⟩
    · rcases List.mem_cons.1 hx with rfl | hx
      · by_contra hsome
        obtain ⟨v, hv⟩ := Option.ne_none_iff_exists'.1 hsome
        rcases hrest.back hv with hv | ⟨_, habsent, _⟩
        · rw [hone.gone] at hv
          simp at hv
        · rw [habsent] at hthere
          simp at hthere
      · exact hrest.gone x hx
    · rw [List.mem_cons, not_or] at hx
      exact hrest.kept hx.2 (hone.kept hx.1 hv)
    · rcases hrest.back hv with hv | ⟨_, hcopy⟩
      · rcases hone.back hv with hv | hcopy
        · exact Or.inl hv
        · exact Or.inr ⟨by simp, hcopy⟩
      · exact Or.inr ⟨by simp, hcopy⟩
    · obtain ⟨x, hx, htarget⟩ := hone.copies hc (owned_of_reference hi.sound hk) y hy
      rw [hv] at htarget
      have hnew : x ∉ refs := by
        intro hmem
        have hkind := (hi.refs x (List.mem_cons_of_mem _ hmem)).1
        rw [kind?, hx] at hkind
        simp at hkind
      exact ⟨x, hx, hrest.kept hnew htarget⟩

end Inlining

/-! ## Removing a definition -/

/-- The references to a definition that stand outside of it. -/
def outerReferences (g : Graph) (name : String) : List NodeId :=
  (g.referencesTo name).filter fun ref =>
    !(g.definitions.find? name).any fun id => (g.subtreeIds id).contains ref

/-- The content of a definition holds a reference to the definition itself. -/
def isRecursive (g : Graph) (name : String) : Bool :=
  (g.contentId? name).any fun c => (g.subtreeIds c).any fun id => g.targetAt id = some (.str name)

/-- Removing the definition would leave references to it behind. -/
def strays (g : Graph) (name : String) : RemovalPolicy → Bool
  | .allow => !(g.outerReferences name).isEmpty
  | .inlined => !(g.outerReferences name).isEmpty && g.isRecursive name
  | .refuse | .cascade => false

theorem mem_outerReferences_iff {name : String} {defId : NodeId}
    (hfind : g.definitions.find? name = some defId) {id : NodeId} :
    id ∈ g.outerReferences name ↔ g.targetAt id = some (.str name) ∧ id ∉ g.subtreeIds defId := by
  rw [outerReferences, List.mem_filter, mem_referencesTo_iff, hfind, Option.any_some,
    Bool.not_eq_true', ← Bool.not_eq_true, List.contains_iff_mem]

theorem strays_inlined_iff {name : String} :
    g.strays name .inlined = true ↔ g.outerReferences name ≠ [] ∧
      ∃ c, g.contentId? name = some c ∧
        ∃ id ∈ g.subtreeIds c, g.targetAt id = some (.str name) := by
  unfold strays isRecursive
  rw [Bool.and_eq_true, Bool.not_eq_true', List.isEmpty_eq_false_iff, Option.any_eq_true]
  simp only [List.any_eq_true, decide_eq_true_eq]

/-- What removing a definition does to the definitions and to the targets. -/
structure Removed (g : Graph) (name : String) (policy : RemovalPolicy) (defId : NodeId)
    (g' : Graph) : Prop where
  /-- There was such a definition. -/
  found : g.definitions.find? name = some defId
  /-- It is not in the table any more, and the others are. -/
  table : ∀ other, g'.definitions.find? other =
    if name = other then none else g.definitions.find? other
  /-- Nothing of it is left. -/
  content : ∀ id ∈ g.subtreeIds defId, g'.node? id = none
  /-- References to other definitions point where they did. -/
  others : ∀ {id v}, g.targetAt id = some v → v ≠ .str name → id ∉ g.subtreeIds defId →
    g'.targetAt id = some v
  /-- Every target that is left was one before. -/
  back : ∀ {id v}, g'.targetAt id = some v → ∃ x, g.targetAt x = some v
  /-- There are references left to the definition exactly when the policy says so. -/
  strays_iff : (∃ id, g'.targetAt id = some (.str name)) ↔ g.strays name policy = true

/-- How the references to a definition are settled before it goes: what they do to the targets. -/
structure SettledTargets (g : Graph) (name : String) (policy : RemovalPolicy) (defId : NodeId)
    (settled : Graph) : Prop where
  /-- References to other definitions point where they did. -/
  others : ∀ {id v}, g.targetAt id = some v → v ≠ .str name → settled.targetAt id = some v
  /-- Every target that is left was one before. -/
  back : ∀ {id v}, settled.targetAt id = some v → ∃ x, g.targetAt x = some v
  /-- There are references left outside of the definition exactly when the policy says so. -/
  strays_iff : (∃ id, id ∉ g.subtreeIds defId ∧ settled.targetAt id = some (.str name)) ↔
    g.strays name policy = true

namespace SettledTargets

variable {name : String} {policy : RemovalPolicy} {defId : NodeId}

/-- The references stay as they are. -/
theorem of_kept (hfind : g.definitions.find? name = some defId)
    (hwhy : policy = .allow ∨ g.referencesTo name = []) : SettledTargets g name policy defId g where
  others hv _ := hv
  back hv := ⟨_, hv⟩
  strays_iff := by
    have houter : (∃ id, id ∉ g.subtreeIds defId ∧ g.targetAt id = some (.str name)) ↔
        g.outerReferences name ≠ [] := by
      rw [Ne, List.eq_nil_iff_forall_not_mem, not_forall]
      refine exists_congr fun id => ?_
      rw [not_not, mem_outerReferences_iff hfind, and_comm]
    rw [houter]
    rcases hwhy with rfl | hnone
    · simp [strays]
    · have hnil : g.outerReferences name = [] := by
        rw [outerReferences, hnone, List.filter_nil]
      cases policy <;> simp [strays, hnil]

/-- The references go too. -/
theorem of_removed (hs : Sound g) : SettledTargets g name .cascade defId
    ((g.referencesTo name).foldl (fun h ref => h.removeSubtree g ref) g) := by
  have htarget : ∀ x, ((g.referencesTo name).foldl (fun h ref => h.removeSubtree g ref) g).targetAt x =
      if x ∈ g.referencesTo name then none else g.targetAt x := fun x =>
    targetAt_removeAll hs _ (fun _ href => kind?_of_mem_referencesTo href) x g
  refine ⟨fun {id v} hv hne => ?_, fun {id v} hv => ?_, ?_⟩
  · rw [htarget, if_neg, hv]
    rw [mem_referencesTo_iff, hv]
    exact fun heq => hne (Option.some.inj heq)
  · rw [htarget] at hv
    split_ifs at hv
    exact ⟨id, hv⟩
  · have hstray : ∀ id, ((g.referencesTo name).foldl (fun h ref => h.removeSubtree g ref) g).targetAt
        id ≠ some (.str name) := by
      intro id hid
      rw [htarget] at hid
      split_ifs at hid with hmem
      exact hmem (mem_referencesTo_iff.2 hid)
    simp [strays, hstray]

/-- The references outside of the definition are inlined. -/
theorem of_inlined (hs : Sound g) (hfind : g.definitions.find? name = some defId) {settled : Graph}
    (hall : AllInlined g (g.outerReferences name) (g.contentId? name) g settled) :
    SettledTargets g name .inlined defId settled := by
  refine ⟨fun {id v} hv hne => ?_, fun {id v} hv => ?_, ?_⟩
  · refine hall.kept (fun hmem => hne ?_) hv
    rw [mem_outerReferences_iff hfind, hv] at hmem
    exact Option.some.inj hmem.1
  · rcases hall.back hv with hv | ⟨_, _, _, _, y, _, hy⟩
    · exact ⟨id, hv⟩
    · exact ⟨y, hy⟩
  · rw [strays_inlined_iff]
    constructor
    · rintro ⟨id, hout, hid⟩
      rcases hall.back hid with hid' | ⟨hne, _, c, hc, y, hy, hyv⟩
      · have hmem := (mem_outerReferences_iff hfind).2 ⟨hid', hout⟩
        rw [hall.gone id hmem] at hid
        simp at hid
      · exact ⟨hne, c, hc, y, hy, hyv⟩
    · rintro ⟨hne, c, hc, y, hy, hyv⟩
      obtain ⟨x, hx, hxv⟩ := hall.copies hne hc hy hyv
      refine ⟨x, fun hmem => ?_, hxv⟩
      have hthere := hs.own_present hfind x hmem
      rw [hx] at hthere
      simp at hthere

end SettledTargets

theorem settledTargets_of_settleReferences (hs : Sound g) (hsup : Supplied g s) {name : String}
    {policy : RemovalPolicy} {defId : NodeId} (hfind : g.definitions.find? name = some defId)
    {r : (Graph × List String) × IdSupply}
    (h : (g.settleReferences name defId policy).run s = .ok r) :
    SettledTargets g name policy defId r.1.1 := by
  rcases settleReferences_ok h with ⟨hwhy, hset, _⟩ | ⟨rfl, hset, _⟩ | ⟨rfl, hset⟩
  · rw [hset]
    exact .of_kept hfind hwhy
  · rw [hset]
    exact .of_removed hs
  · have hrefs : (g.referencesTo name).filter (fun ref => !(g.subtreeIds defId).contains ref) =
        g.outerReferences name := by
      rw [outerReferences, hfind]
      rfl
    have hcontent : g.contentId? name = (g.childIds defId).head? := by
      rw [contentId?, hfind, Option.bind_some]
    have hall := Inlining.allInlined hs (hs.own_present hfind) hs.content_owned _
      ((nodup_referencesTo g name).filter _)
      (fun ref href => by simpa using (List.mem_filter.1 href).2) (hs.inlining hfind) hsup hsup hset
    rw [hrefs, ← hcontent] at hall
    exact .of_inlined hs hfind hall

theorem removed_of_removeDefinition (hs : Sound g) (hsup : Supplied g s) {name : String}
    {policy : RemovalPolicy} {r : (Graph × List String) × IdSupply}
    (h : (g.removeDefinition name policy).run s = .ok r) :
    ∃ defId, Removed g name policy defId r.1.1 := by
  obtain ⟨defId, settled, warnings, hfind, hsettle, hr⟩ := removeDefinition_ok h
  obtain ⟨hi, _⟩ := hs.settleReferences hsup hfind hsettle
  have hset : SettledTargets g name policy defId settled :=
    settledTargets_of_settleReferences hs hsup hfind hsettle
  have hafter : ∀ x, r.1.1.targetAt x =
      if x ∈ g.subtreeIds defId then none else settled.targetAt x := by
    intro x
    rw [hr, targetAt_next, targetAt_undefine, targetAt_dropAll]
  refine ⟨defId, hfind, fun other => ?_, fun id hid => ?_, fun {id v} hv hne hout => ?_,
    fun {id v} hv => ?_, ?_⟩
  · rw [hr, definitions_next, find?_undefine, definitions_dropAll, hi.definitions]
  · rw [hr, node?_next, node?_undefine, node?_dropAll, if_pos hid]
  · rw [hafter, if_neg hout, hset.others hv hne]
  · rw [hafter] at hv
    split_ifs at hv
    exact hset.back hv
  · rw [← hset.strays_iff]
    refine exists_congr fun id => ?_
    rw [hafter]
    by_cases hid : id ∈ g.subtreeIds defId
    · simp [hid]
    · simp [hid]

/-! ## References that are left dangling -/

/-- A definition is gone from a graph `g`, and the references to other definitions are left. -/
structure DefinitionGone (g : Graph) (name : String) (g' : Graph) : Prop where
  /-- No node is the definition of that name. -/
  node : ∀ {id : NodeId} {n : Node NodeId}, g'.node? id = some n → n.body ≠ .definition (.str name)
  /-- The name stands for no definition. -/
  entry : g'.definitions.has name = false
  /-- Nothing is left of the definition and its content. -/
  content : ∀ {defId : NodeId}, g.definitions.find? name = some defId →
    ∀ id ∈ g.subtreeIds defId, g'.node? id = none
  /-- A reference to another definition that did not belong to this one is left, and points where it
  did. -/
  others : ∀ {defId id : NodeId} {n : Node NodeId} {v : Value},
    g.definitions.find? name = some defId → id ∉ g.subtreeIds defId →
    g.node? id = some n → n.target? = some v → v ≠ .str name →
    ∃ n', g'.node? id = some n' ∧ n'.target? = some v

/-- Where a removal was not to leave references dangling, the definition is gone, and references to it
are left exactly when a definition that refers to itself was inlined. -/
theorem dangling_iff_of_removeDefinition {allowed : Graph → Change → Prop}
    (h : Reachable allowed g s) {name : String} {policy : RemovalPolicy} (hp : policy ≠ .allow)
    {r : (Graph × List String) × IdSupply} (hr : (g.removeDefinition name policy).run s = .ok r) :
    DefinitionGone g name r.1.1 ∧
      ((∃ id n, r.1.1.node? id = some n ∧ n.target? = some (.str name)) ↔
        policy = .inlined ∧ g.outerReferences name ≠ [] ∧ ∃ c, g.contentId? name = some c ∧
          ∃ id ∈ g.subtreeIds c, g.targetAt id = some (.str name)) := by
  obtain ⟨hs, hsup⟩ := h.sound
  obtain ⟨defId, hremoved⟩ := removed_of_removeDefinition hs hsup hr
  have hsound : Sound r.1.1 := (hs.removeDefinition hsup hr).1
  have hentry : r.1.1.definitions.find? name = none := by
    rw [hremoved.table, if_pos rfl]
  refine ⟨⟨fun {id n} hn hbody => ?_, ?_, fun {d} hd => ?_, fun {d id n v} hd hout hn hv hne => ?_⟩,
    ?_⟩
  · have hfound := hsound.defined.2 ⟨n, hn, Node.definitionName?_eq_some_iff.2 hbody⟩
    rw [hentry] at hfound
    simp at hfound
  · rw [Table.has_eq, hentry]
    rfl
  · rw [hremoved.found] at hd
    rw [← Option.some.inj hd]
    exact hremoved.content
  · rw [hremoved.found] at hd
    rw [← Option.some.inj hd] at hout
    exact targetAt_eq_some_iff.1
      (hremoved.others (targetAt_eq_some_iff.2 ⟨n, hn, hv⟩) hne hout)
  · have hleft : (∃ id n, r.1.1.node? id = some n ∧ n.target? = some (.str name)) ↔
        ∃ id, r.1.1.targetAt id = some (.str name) :=
      exists_congr fun id => targetAt_eq_some_iff.symm
    rw [hleft, hremoved.strays_iff]
    cases policy with
    | allow => exact absurd rfl hp
    | refuse => simp [strays]
    | cascade => simp [strays]
    | inlined => rw [strays_inlined_iff, and_iff_right rfl]

/-- A list of lists of the same kind: its definition refers to itself, and inlining it leaves a
reference to what is gone. -/
theorem dangling_of_recursive_definition :
    ∃ (g : Graph) (s : IdSupply) (r : (Graph × List String) × IdSupply),
      Reachable (fun _ _ => True) g s ∧ (g.removeDefinition "list" .inlined).run s = .ok r ∧
        DefinitionGone g "list" r.1.1 ∧
        ∃ id n, r.1.1.node? id = some n ∧ n.target? = some (.str "list") := by
  have hdefined : Reachable (fun _ _ => True) _ _ :=
    .change (c := .createDefinition "list" (some { body := Body.initial .array }))
      (.empty .null .null {}) trivial rfl
  have hinner : Reachable (fun _ _ => True) _ _ :=
    .change (c := .add { body := .reference (.str "list") } "n2" .child none) hdefined trivial rfl
  have houter : Reachable (fun _ _ => True) _ _ :=
    .change (c := .add { body := .reference (.str "list") } rootName .child none) hinner trivial rfl
  obtain ⟨hgone, hleft⟩ := dangling_iff_of_removeDefinition houter
    (show RemovalPolicy.inlined ≠ .allow by decide)
    (rfl : (Graph.removeDefinition _ "list" .inlined).run _ = .ok _)
  exact ⟨_, _, _, houter, rfl, hgone,
    hleft.2 ⟨rfl, by decide, "n2", by decide, "n3", by decide, by decide⟩⟩

end Graph

end FormGraph

import FormGraph.Document.Compile
import FormGraph.Proofs.Notes
import FormGraph.Proofs.Outcome
import FormGraph.Proofs.Ownership.Import
import FormGraph.Proofs.Writing.Tree

/-!
# Writing what a graph shows

A graph shows an outline at a node when the node, the edges below it and what they lead to are those
of the outline. What the writer for graphs does at such a node is told by the outline alone: it
succeeds, the document is `Outline.written`, and the pointers point at `Outline.references`.

`x.Gives a refs` says of a document that is being written that it comes to `a` and points at `refs`
on the way. A chain of steps gives what its steps give, with the references one after the other.
-/

namespace FormGraph

namespace Compiling

variable {α β : Type}

/-- The writing succeeds with a result, and points at the given definitions. -/
def Gives (x : Compiling α) (a : α) (refs : List Value) : Prop :=
  x.run.value = .ok a ∧ x.run.notes.filterMap CompileNote.reference? = refs

namespace Gives

variable {a : α} {b : β} {refs more : List Value}

theorem congr {x : Compiling α} {a' : α} {refs' : List Value} (h : x.Gives a refs) (ha : a = a')
    (hr : refs = refs') : x.Gives a' refs' := ha ▸ hr ▸ h

theorem pure (a : α) : (Pure.pure a : Compiling α).Gives a [] := ⟨rfl, rfl⟩

theorem bind {x : Compiling α} {f : α → Compiling β} (hx : x.Gives a refs)
    (hf : (f a).Gives b more) : (x >>= f).Gives b (refs ++ more) := by
  obtain ⟨hv, hn⟩ := hx
  have hrun : (x >>= f).run = x.run >>= fun r => (ExceptT.bindCont f r : Noted CompileNote _) := rfl
  constructor
  · rw [hrun, Noted.value_bind, hv]
    exact hf.1
  · rw [hrun, Noted.notes_bind, hv, List.filterMap_append, hn]
    exact congrArg (refs ++ ·) hf.2

theorem warning (text : String) : (note (.warning text)).Gives () [] := ⟨rfl, rfl⟩

theorem reference (target : Value) : (note (.reference target)).Gives () [target] := ⟨rfl, rfl⟩

theorem ofExcept {x : Except Fault α} (h : x = .ok a) : (Compiling.ofExcept x).Gives a [] :=
  ⟨h, rfl⟩

/-- A step without references first. -/
theorem after {x : Compiling α} {f : α → Compiling β} (hx : x.Gives a []) (hf : (f a).Gives b refs) :
    (x >>= f).Gives b refs := hx.bind hf

/-- A step without references last. -/
theorem andThen {x : Compiling α} {f : α → Compiling β} (hx : x.Gives a refs)
    (hf : (f a).Gives b []) : (x >>= f).Gives b refs := by
  have h := hx.bind hf
  rwa [List.append_nil] at h

theorem mapM {f : α → Compiling β} {g : α → β} {r : α → List Value} {as : List α}
    (h : ∀ a ∈ as, (f a).Gives (g a) (r a)) : (as.mapM f).Gives (as.map g) (as.flatMap r) := by
  induction as with
  | nil =>
    rw [List.mapM_nil]
    exact pure []
  | cons a as ih =>
    rw [List.mapM_cons, List.map_cons, List.flatMap_cons]
    exact (h a List.mem_cons_self).bind
      ((ih fun x hx => h x (List.mem_cons_of_mem _ hx)).andThen (pure _))

/-- A loop whose steps give nothing gives nothing. -/
theorem forIn {f : α → PUnit → Compiling (ForInStep PUnit)} {as : List α}
    (h : ∀ a ∈ as, (f a ⟨⟩).Gives (.yield ⟨⟩) []) : (forIn as PUnit.unit f).Gives ⟨⟩ [] := by
  induction as with
  | nil =>
    rw [List.forIn_nil]
    exact pure _
  | cons a as ih =>
    rw [List.forIn_cons]
    exact (h a List.mem_cons_self).after (ih fun x hx => h x (List.mem_cons_of_mem _ hx))

theorem listen {x : Compiling α} (hx : x.Gives a refs) :
    x.listen.Gives (a, x.run.notes) refs := by
  obtain ⟨hv, hn⟩ := hx
  refine ⟨?_, hn⟩
  show x.run.value.map _ = _
  rw [hv]
  rfl

end Gives

end Compiling

/-! ## Outlines that a graph shows -/

/-- The outline can be written: the fields of conditions name properties, clauses point at what there
is, references at what can be looked up, and no property is written twice. -/
inductive Outline.Writable : Outline → Prop where
  | mk {n : Node Nat} {bs : List (EdgeKind × Outline)}
    (kind : n.kind ≠ .definition)
    (children : n.kind.isGroup = false → ∀ b ∈ bs, b.1 = .child)
    (fields : ∀ c ∈ n.clauses, c.condition.field.isScalar = true)
    (targets : ∀ c ∈ n.clauses, ∀ (k : EdgeKind) (i : Nat), c.target k = some i → i < bs.length)
    (pointer : ∀ target, n.body = .reference target → target.isLookup = true)
    (keys : n.kind = .object →
      ((bs.filter fun b => !b.2.node.kind.isGroup).map fun b => b.2.node.key).Nodup)
    (below : ∀ b ∈ bs, Outline.Writable b.2) : Outline.Writable (.mk n bs)

namespace Graph

/-- The graph shows the outline at the node. -/
inductive Shows (g : Graph) : NodeId → Outline → Prop where
  | mk {id : NodeId} {n : Node Nat} (hs : List (NodeId × EdgeKind × Outline))
    (node : g.node? id =
      some (n.mapClauses (Clause.bindTargets fun i => (hs.map Prod.fst)[i]?)))
    (edges : g.edgesFrom id = hs.map fun h => ⟨id, h.1, h.2.1⟩)
    (below : ∀ h ∈ hs, Shows g h.1 h.2.2) : Shows g id (.mk n (hs.map Prod.snd))

variable {g : Graph}

/-- The node at which an outline is shown is that of the outline, but for what its clauses point
at. -/
theorem Shows.node? {id : NodeId} {o : Outline} (h : g.Shows id o) :
    ∃ f : Nat → Option NodeId, g.node? id = some (o.node.mapClauses (Clause.bindTargets f)) := by
  cases h with
  | mk hs node _ _ => exact ⟨_, node⟩

/-- It has the kind and the key of the outline. -/
theorem Shows.kind_eq {id : NodeId} {o : Outline} (h : g.Shows id o) {n : Node NodeId}
    (hn : g.node? id = some n) : n.kind = o.node.kind ∧ n.key = o.node.key := by
  obtain ⟨f, hf⟩ := h.node?
  obtain rfl := Option.some.inj (hf.symm.trans hn)
  exact ⟨Node.kind_mapClauses _ _, rfl⟩

end Graph

namespace Compile

open Graph

variable {g : Graph} {cfg : DocumentConfig}

/-- The writer for the nodes below writes what is shown there. -/
def Writes (g : Graph) (cfg : DocumentConfig) (below : NodeId → Node NodeId → Compiling Value)
    (h : NodeId × EdgeKind × Outline) : Prop :=
  ∀ n, g.node? h.1 = some n → (below h.1 n).Gives (h.2.2.written cfg) h.2.2.references

/-! ## Groups -/

theorem gives_branch {below : NodeId → Node NodeId → Compiling Value}
    {h : NodeId × EdgeKind × Outline} (hshow : g.Shows h.1 h.2.2) (hw : Writes g cfg below h) :
    (branch g below h.1).Gives (Outline.wrapped h.2.2.node (h.2.2.written cfg))
      h.2.2.references := by
  obtain ⟨f, hn⟩ := hshow.node?
  unfold branch
  rw [hn]
  refine (hw _ hn).andThen ?_
  unfold Outline.wrapped
  have hk : (h.2.2.node.mapClauses (Clause.bindTargets f)).isAddressable =
      h.2.2.node.isAddressable := congrArg NodeKind.isAddressable (Node.kind_mapClauses _ _)
  rw [hk]
  cases h.2.2.node.isAddressable with
  | true => exact .pure _
  | false => exact .pure _

/-- The nodes that hang below a node with what they are written as. -/
def partsOf (cfg : DocumentConfig) (hs : List (NodeId × EdgeKind × Outline)) : List Outline.Part :=
  Outline.parts cfg (hs.map Prod.snd)

/-- What the pointers below a node point at. -/
def referencesOf (hs : List (NodeId × EdgeKind × Outline)) : List (List Value) :=
  Outline.referencesBelow (hs.map Prod.snd)

theorem partsOf_eq (cfg : DocumentConfig) (hs : List (NodeId × EdgeKind × Outline)) :
    partsOf cfg hs = hs.map fun h => (h.2.2.node, h.2.2.written cfg) := by
  rw [partsOf, Outline.parts_eq, List.map_map]
  rfl

theorem referencesOf_eq (hs : List (NodeId × EdgeKind × Outline)) :
    referencesOf hs = hs.map fun h => h.2.2.references := by
  rw [referencesOf, Outline.referencesBelow_eq, List.map_map]
  rfl

variable {below : NodeId → Node NodeId → Compiling Value}
  {hs : List (NodeId × EdgeKind × Outline)}

theorem gives_branchUnder (hshow : ∀ h ∈ hs, g.Shows h.1 h.2.2)
    (hw : ∀ h ∈ hs, Writes g cfg below h) (keyword : String) {target : Option Nat}
    (hvalid : ∀ i, target = some i → i < hs.length) :
    (branchUnder g below keyword (target.bind fun i => (hs.map Prod.fst)[i]?)).Gives
      (Outline.under keyword (Outline.branchAt (partsOf cfg hs) target))
      (Outline.referencesAt (referencesOf hs) target) := by
  cases target with
  | none => exact .pure _
  | some i =>
    have hi := hvalid i rfl
    have hmem : hs[i] ∈ hs := List.getElem_mem hi
    have hid : (hs.map Prod.fst)[i]? = some hs[i].1 := by
      rw [List.getElem?_map, List.getElem?_eq_getElem hi]
      rfl
    rw [Option.bind_some, hid]
    have h := (gives_branch (hshow _ hmem) (hw _ hmem)).andThen
      (f := fun v => (pure [(keyword, v)] : Compiling Members)) (.pure _)
    refine h.congr ?_ ?_
    · rw [Outline.branchAt, partsOf_eq, Option.bind_some, List.getElem?_map,
        List.getElem?_eq_getElem hi]
      rfl
    · rw [Outline.referencesAt, referencesOf_eq, Option.bind_some, List.getElem?_map,
        List.getElem?_eq_getElem hi]
      rfl

theorem fragment_written {c : Condition} (h : c.field.isScalar = true) :
    c.fragment = .ok c.written := by
  unfold Condition.fragment
  rw [if_pos h]
  rfl

theorem gives_clause (hshow : ∀ h ∈ hs, g.Shows h.1 h.2.2)
    (hw : ∀ h ∈ hs, Writes g cfg below h) (kind : GroupKind) {c : Clause Nat}
    (hfield : c.condition.field.isScalar = true)
    (hvalid : ∀ (k : EdgeKind) (i : Nat), c.target k = some i → i < hs.length) :
    (clause g cfg below kind
      (c.bindTargets fun i => (hs.map Prod.fst)[i]?)).Gives
      (.obj (Outline.clauseMembers cfg kind (partsOf cfg hs) c))
      (Outline.clauseReferences (referencesOf hs) c) := by
  have htrue := gives_branchUnder hshow hw "then" fun i hi => hvalid .thenBranch i hi
  have hfalse := gives_branchUnder hshow hw "else" fun i hi => hvalid .elseBranch i hi
  have hnone : (c.onFalse.bind fun i => (hs.map Prod.fst)[i]?).isNone = c.onFalse.isNone := by
    cases hc : c.onFalse with
    | none => rfl
    | some i =>
      have hi := hvalid .elseBranch i hc
      rw [Option.bind_some, List.getElem?_map, List.getElem?_eq_getElem hi]
      rfl
  refine (Compiling.Gives.ofExcept (fragment_written hfield)).after (htrue.bind (hfalse.andThen ?_))
  refine (Compiling.Gives.pure _).congr ?_ rfl
  unfold Outline.clauseMembers Outline.failing
  rw [← hnone]
  rfl

theorem gives_ifBlock (hshow : ∀ h ∈ hs, g.Shows h.1 h.2.2)
    (hw : ∀ h ∈ hs, Writes g cfg below h) {cs : List (Clause Nat)}
    (hfields : ∀ c ∈ cs, c.condition.field.isScalar = true)
    (hvalid : ∀ c ∈ cs, ∀ (k : EdgeKind) (i : Nat), c.target k = some i → i < hs.length) :
    (ifBlock g below
      (cs.map (Clause.bindTargets fun i => (hs.map Prod.fst)[i]?))).Gives
      (Outline.blockMembers (partsOf cfg hs) cs)
      (cs.head?.toList.flatMap (Outline.clauseReferences (referencesOf hs))) := by
  cases cs with
  | nil => exact .pure _
  | cons first rest =>
    have htests : (((first :: rest).map
        (Clause.bindTargets fun i => (hs.map Prod.fst)[i]?)).mapM fun c =>
          Value.obj <$> c.condition.fragment) =
        .ok ((first :: rest).map fun c => .obj c.condition.written) := by
      generalize first :: rest = cs at hfields
      clear hvalid
      induction cs with
      | nil => rfl
      | cons c cs ih =>
        have hc : (c.bindTargets fun i => (hs.map Prod.fst)[i]?).condition.fragment =
            .ok c.condition.written := fragment_written (hfields c List.mem_cons_self)
        rw [List.map_cons, List.mapM_cons, hc, ih fun d hd => hfields d (List.mem_cons_of_mem _ hd)]
        rfl
    have htrue := gives_branchUnder hshow hw "then" fun i hi =>
      hvalid first List.mem_cons_self .thenBranch i hi
    have hfalse := gives_branchUnder hshow hw "else" fun i hi =>
      hvalid first List.mem_cons_self .elseBranch i hi
    have hrefs : (first :: rest).head?.toList.flatMap (Outline.clauseReferences (referencesOf hs)) =
        Outline.referencesAt (referencesOf hs) first.onTrue ++
          Outline.referencesAt (referencesOf hs) first.onFalse := by
      simp [Outline.clauseReferences]
    rw [hrefs]
    exact (Compiling.Gives.ofExcept htests).after (htrue.bind (hfalse.andThen (.pure _)))

theorem gives_noteUnused {id : NodeId} {n : Node NodeId}
    (hedges : ∀ e ∈ g.edgesFrom id, (g.node? e.target).isSome) :
    (noteUnused g id n).Gives () [] := by
  unfold noteUnused
  refine (Compiling.Gives.forIn fun e he => ?_).after (.pure _)
  obtain ⟨m, hm⟩ := Option.isSome_iff_exists.1 (hedges e (List.mem_filter.1 he).1)
  exact (Compiling.Gives.ofExcept (pointedAt_eq_ok_iff.2 hm)).after
    ((Compiling.Gives.warning _).after (.pure _))

theorem withExtras_congr {ρ τ : Type} {m : Node ρ} {n : Node τ} (h : m.extras = n.extras)
    (fragment : Members) : withExtras m fragment = withExtras n fragment := by
  unfold withExtras
  rw [h]

/-- The node with its clauses pointing at what hangs below it. -/
def shownNode (n : Node Nat) (hs : List (NodeId × EdgeKind × Outline)) : Node NodeId :=
  n.mapClauses (Clause.bindTargets fun i => (hs.map Prod.fst)[i]?)

theorem present_of_edges {id : NodeId} (hshow : ∀ h ∈ hs, g.Shows h.1 h.2.2)
    (hedges : g.edgesFrom id = hs.map fun h => ⟨id, h.1, h.2.1⟩) :
    ∀ e ∈ g.edgesFrom id, (g.node? e.target).isSome := by
  intro e he
  rw [hedges] at he
  obtain ⟨h, hh, rfl⟩ := List.mem_map.1 he
  obtain ⟨f, hn⟩ := (hshow h hh).node?
  rw [hn]
  rfl

theorem gives_group {id : NodeId} {n : Node Nat} {kind : GroupKind} {cs : List (Clause Nat)}
    (hbody : n.body = .group kind cs) (hshow : ∀ h ∈ hs, g.Shows h.1 h.2.2)
    (hw : ∀ h ∈ hs, Writes g cfg below h)
    (hedges : g.edgesFrom id = hs.map fun h => ⟨id, h.1, h.2.1⟩)
    (hfields : ∀ c ∈ cs, c.condition.field.isScalar = true)
    (hvalid : ∀ c ∈ cs, ∀ (k : EdgeKind) (i : Nat), c.target k = some i → i < hs.length) :
    (group g cfg below id (shownNode n hs) kind
      (cs.map (Clause.bindTargets fun i => (hs.map Prod.fst)[i]?))).Gives
      (.obj (Outline.members cfg n (partsOf cfg hs)))
      (Outline.nodeReferences n (referencesOf hs)) := by
  have hmembers : Outline.members cfg n (partsOf cfg hs) = withExtras n
      (Entries.putAll (annotations n) (Outline.groupMembers cfg kind cs (partsOf cfg hs))) := by
    unfold Outline.members
    rw [hbody]
  rw [hmembers]
  unfold group
  refine (gives_noteUnused (present_of_edges hshow hedges)).after ?_
  have hlist : ∀ k : GroupKind,
      ((cs.map (Clause.bindTargets fun i => (hs.map Prod.fst)[i]?)).mapM
        (clause g cfg below k)).Gives
        (cs.map fun c => .obj (Outline.clauseMembers cfg k (partsOf cfg hs) c))
        (cs.flatMap (Outline.clauseReferences (referencesOf hs))) := by
    intro k
    rw [List.mapM_map]
    exact Compiling.Gives.mapM fun c hc =>
      gives_clause hshow hw k (hfields c hc) (hvalid c hc)
  cases kind with
  | ifBlock =>
    have h := gives_ifBlock hshow hw hfields hvalid
    have hrefs : Outline.nodeReferences n (referencesOf hs) =
        cs.head?.toList.flatMap (Outline.clauseReferences (referencesOf hs)) := by
      unfold Outline.nodeReferences
      rw [hbody]
    rw [hrefs]
    exact h.andThen (.pure _)
  | allOf | anyOf | oneOf =>
    have hrefs : Outline.nodeReferences n (referencesOf hs) =
        cs.flatMap (Outline.clauseReferences (referencesOf hs)) := by
      unfold Outline.nodeReferences
      rw [hbody]
    rw [hrefs]
    exact (hlist _).andThen ((Compiling.Gives.pure _).after (.pure _))

/-! ## Objects and arrays -/

theorem childIds_of_edges {id : NodeId} (hedges : g.edgesFrom id = hs.map fun h => ⟨id, h.1, h.2.1⟩)
    (hchild : ∀ h ∈ hs, h.2.1 = .child) : g.childIds id = hs.map Prod.fst := by
  unfold childIds targetsOfKind edgesOfKind
  rw [hedges, List.filter_eq_self.2, List.map_map]
  · rfl
  · intro e he
    obtain ⟨h, hh, rfl⟩ := List.mem_map.1 he
    exact decide_eq_true (hchild h hh)

/-- The nodes that hang below a node as children, with their names. -/
theorem children_of_edges {id : NodeId} (hshow : ∀ h ∈ hs, g.Shows h.1 h.2.2)
    (hedges : g.edgesFrom id = hs.map fun h => ⟨id, h.1, h.2.1⟩)
    (hchild : ∀ h ∈ hs, h.2.1 = .child) :
    ∃ cs, g.children id = .ok cs ∧
      List.Forall₂ (fun h c => c.1 = h.1 ∧ g.node? h.1 = some c.2) hs cs := by
  have hids : g.childIds id = hs.map Prod.fst := childIds_of_edges hedges hchild
  unfold children
  rw [hids]
  clear hedges hchild hids
  induction hs with
  | nil => exact ⟨[], rfl, .nil⟩
  | cons h hs ih =>
    obtain ⟨cs, hcs, hall⟩ := ih fun x hx => hshow x (List.mem_cons_of_mem _ hx)
    obtain ⟨f, hn⟩ := (hshow h List.mem_cons_self).node?
    refine ⟨(h.1, h.2.2.node.mapClauses (Clause.bindTargets f)) :: cs, ?_, .cons ⟨rfl, hn⟩ hall⟩
    rw [List.map_cons, List.mapM_cons, pointedAt_eq_ok_iff.2 hn, hcs]
    rfl

/-- A group among the children of an object is written behind the groups. -/
theorem gives_objectChild_group {h : NodeId × EdgeKind × Outline} {m : Node NodeId}
    (hm : (below h.1 m).Gives (h.2.2.written cfg) h.2.2.references) (hgroup : m.kind.isGroup = true)
    (parts : ObjectParts) : (objectChild below parts (h.1, m)).Gives
      { parts with groups := parts.groups ++ [h.2.2.written cfg] } h.2.2.references := by
  unfold objectChild
  refine hm.andThen ?_
  dsimp only
  rw [if_pos hgroup]
  exact .pure _

/-- A field is written under its key, which is new, and may be required. -/
theorem gives_objectChild_field {h : NodeId × EdgeKind × Outline} {m : Node NodeId}
    (hm : (below h.1 m).Gives (h.2.2.written cfg) h.2.2.references) (hgroup : m.kind.isGroup ≠ true)
    {parts : ObjectParts} (hnew : m.key ∉ Entries.names parts.properties) :
    (objectChild below parts (h.1, m)).Gives
      { parts with
        properties := parts.properties ++ [(m.key, h.2.2.written cfg)]
        required := if m.required then parts.required ++ [m.key] else parts.required }
      h.2.2.references := by
  unfold objectChild
  refine hm.andThen ?_
  dsimp only
  rw [if_neg hgroup, Entries.put_of_not_mem hnew]
  exact .pure _

/-- The children of an object are written one after the other behind what was written. -/
theorem gives_objectChildren {cs : List (NodeId × Node NodeId)}
    (hcs : List.Forall₂ (fun h c => c.1 = h.1 ∧ g.node? h.1 = some c.2) hs cs)
    (hshow : ∀ h ∈ hs, g.Shows h.1 h.2.2) (hw : ∀ h ∈ hs, Writes g cfg below h) :
    ∀ parts : ObjectParts,
      (Entries.names (parts.properties ++ Outline.properties (partsOf cfg hs))).Nodup →
      (cs.foldlM (objectChild below) parts).Gives
        { properties := parts.properties ++ Outline.properties (partsOf cfg hs)
          required := parts.required ++ Outline.requiredKeys (partsOf cfg hs)
          groups := parts.groups ++ Outline.groupValues (partsOf cfg hs) }
        (referencesOf hs).flatten := by
  rw [partsOf_eq, referencesOf_eq]
  induction hcs with
  | nil =>
    intro parts _
    refine (Compiling.Gives.pure parts).congr ?_ rfl
    simp [Outline.properties, Outline.requiredKeys, Outline.groupValues, Outline.fieldParts]
  | @cons h c hs cs hc hcs ih =>
    intro parts hkeys
    obtain ⟨id, m⟩ := c
    obtain ⟨rfl, hn⟩ := hc
    have hhead := hw h List.mem_cons_self _ hn
    obtain ⟨f, hf⟩ := (hshow h List.mem_cons_self).node?
    rw [hn] at hf
    obtain rfl : m = h.2.2.node.mapClauses (Clause.bindTargets f) := Option.some.inj hf
    have hkind : (h.2.2.node.mapClauses (Clause.bindTargets f)).kind = h.2.2.node.kind :=
      Node.kind_mapClauses _ _
    have hrest := ih (fun x hx => hshow x (List.mem_cons_of_mem _ hx))
      fun x hx => hw x (List.mem_cons_of_mem _ hx)
    rw [List.map_cons, Outline.properties_cons] at hkeys
    rw [List.foldlM_cons, List.map_cons, List.map_cons, List.flatten_cons, Outline.properties_cons,
      Outline.requiredKeys_cons, Outline.groupValues_cons]
    by_cases hgroup : h.2.2.node.kind.isGroup = true
    · rw [if_pos hgroup, List.nil_append] at hkeys
      refine (gives_objectChild_group hhead (by rwa [hkind]) parts).bind
        ((hrest { parts with groups := parts.groups ++ [h.2.2.written cfg] } hkeys).congr ?_ rfl)
      simp [hgroup]
    · rw [if_neg hgroup, ← List.append_assoc] at hkeys
      have hnew : h.2.2.node.key ∉ Entries.names parts.properties := by
        intro hmem
        rw [Entries.names, List.map_append, List.map_append, List.append_assoc,
          List.nodup_append] at hkeys
        exact hkeys.2.2 _ hmem _ (by simp) rfl
      refine (gives_objectChild_field hhead (by rwa [hkind]) hnew).bind ((hrest _ hkeys).congr ?_ rfl)
      by_cases hrequired : h.2.2.node.required = true <;>
        simp [hgroup, hrequired, Node.mapClauses]

theorem gives_groupList {n : Node Nat} {m : Node NodeId} (h : m.extras = n.extras)
    (groups : List Value) : (groupList m groups).Gives (Outline.groupEntries n groups) [] := by
  unfold groupList Outline.groupEntries
  rw [h]
  split
  · exact .pure _
  · cases (Entries.find? n.extras "allOf").getD (.list []) with
    | list kept => exact .pure _
    | null | bool _ | int _ | float _ | str _ | obj _ =>
      exact (Compiling.Gives.warning _).after (.pure _)

theorem gives_objectBody {id : NodeId} {n : Node Nat} {m : Node NodeId} (hm : m.extras = n.extras)
    (hshow : ∀ h ∈ hs, g.Shows h.1 h.2.2) (hw : ∀ h ∈ hs, Writes g cfg below h)
    (hedges : g.edgesFrom id = hs.map fun h => ⟨id, h.1, h.2.1⟩)
    (hchild : ∀ h ∈ hs, h.2.1 = .child)
    (hkeys : (Entries.names (Outline.properties (partsOf cfg hs))).Nodup) :
    (objectBody g below id m).Gives (Outline.objectMembers n (partsOf cfg hs))
      (referencesOf hs).flatten := by
  obtain ⟨cs, hcs, hall⟩ := children_of_edges hshow hedges hchild
  have hfold := gives_objectChildren hall hshow hw {} hkeys
  unfold objectBody
  refine (Compiling.Gives.ofExcept hcs).after (hfold.andThen ?_)
  exact ((gives_groupList hm _).andThen (.pure _))

theorem gives_arrayBody {id : NodeId} (hshow : ∀ h ∈ hs, g.Shows h.1 h.2.2)
    (hw : ∀ h ∈ hs, Writes g cfg below h)
    (hedges : g.edgesFrom id = hs.map fun h => ⟨id, h.1, h.2.1⟩)
    (hchild : ∀ h ∈ hs, h.2.1 = .child) :
    (arrayBody g below id).Gives (Outline.arrayMembers (partsOf cfg hs))
      ((referencesOf hs).head?.getD []) := by
  have hids : g.childIds id = hs.map Prod.fst := childIds_of_edges hedges hchild
  unfold arrayBody
  rw [hids, partsOf_eq, referencesOf_eq]
  cases hs with
  | nil => exact .pure _
  | cons h hs =>
    obtain ⟨f, hn⟩ := (hshow h List.mem_cons_self).node?
    exact (Compiling.Gives.ofExcept (pointedAt_eq_ok_iff.2 hn)).after
      ((hw h List.mem_cons_self _ hn).andThen (.pure _))

/-! ## Nodes -/

/-- What is written of a node besides what its children are written as. -/
theorem gives_around {n : Node Nat} {body : Body Nat} {b : Body NodeId}
    (hb : b.keywords = body.keywords) {contents : Compiling Members} {ms : Members}
    {refs : List Value} (h : contents.Gives ms refs) :
    (do
      let contents ← contents
      return Value.obj (withExtras (shownNode n hs) (Entries.putAll (Entries.putAll
        ((if (shownNode n hs).kind.isTyped then [("type", Value.str (shownNode n hs).kind.name)]
          else []) ++ annotations (shownNode n hs)) b.keywords) contents)) : Compiling Value).Gives
      (.obj (withExtras n (Entries.putAll (Entries.putAll (Outline.head n) body.keywords) ms)))
      refs := by
  refine h.andThen ((Compiling.Gives.pure _).congr ?_ rfl)
  have hkind : (shownNode n hs).kind = n.kind := Node.kind_mapClauses _ _
  rw [hb, hkind]
  rfl

/-- Where the nodes below are written as they are shown, so is the node. -/
theorem gives_fragment {id : NodeId} {n : Node Nat}
    (hwritable : (Outline.mk n (hs.map Prod.snd)).Writable)
    (hshow : ∀ h ∈ hs, g.Shows h.1 h.2.2) (hw : ∀ h ∈ hs, Writes g cfg below h)
    (hedges : g.edgesFrom id = hs.map fun h => ⟨id, h.1, h.2.1⟩) :
    (fragment g cfg below id (shownNode n hs)).Gives
      (Outline.written cfg (.mk n (hs.map Prod.snd)))
      (Outline.references (.mk n (hs.map Prod.snd))) := by
  rw [Outline.written, Outline.references]
  change (fragment g cfg below id (shownNode n hs)).Gives
    (.obj (Outline.members cfg n (partsOf cfg hs))) (Outline.nodeReferences n (referencesOf hs))
  cases hwritable with
  | mk kind children fields targets pointer keys =>
    have hchild : n.kind.isGroup = false → ∀ h ∈ hs, h.2.1 = .child := fun hn h hh =>
      children hn h.2 (List.mem_map_of_mem hh)
    have hbody : (shownNode n hs).body =
      n.body.mapClauses (Clause.bindTargets fun i => (hs.map Prod.fst)[i]?) := rfl
    cases hb : n.body with
    | group k cs =>
      have hcs : n.clauses = cs := by rw [Node.clauses, hb, Body.clauses]
      rw [hcs] at fields targets
      simp only [List.length_map] at targets
      unfold fragment
      rw [hbody, hb]
      exact gives_group hb hshow hw hedges fields targets
    | reference target =>
      unfold fragment Outline.members Outline.nodeReferences
      rw [hbody, hb]
      dsimp only [Body.mapClauses]
      rw [pointer target hb]
      exact (Compiling.Gives.reference target).andThen (.pure _)
    | object attributes =>
      have hgroup : n.kind.isGroup = false := by rw [Node.kind, hb]; rfl
      have hkeys : (Entries.names (Outline.properties (partsOf cfg hs))).Nodup := by
        have h := keys (by rw [Node.kind, hb]; rfl)
        rw [Outline.properties, Outline.fieldParts, partsOf_eq]
        simpa [Entries.names, List.filter_map, Function.comp_def] using h
      have hcontents := gives_objectBody (m := shownNode n hs) rfl hshow hw hedges (hchild hgroup)
        hkeys
      unfold fragment Outline.members Outline.nodeReferences Outline.contents
      rw [hbody, hb]
      exact gives_around rfl hcontents
    | array attributes =>
      have hgroup : n.kind.isGroup = false := by rw [Node.kind, hb]; rfl
      have hcontents := gives_arrayBody hshow hw hedges (hchild hgroup)
      unfold fragment Outline.members Outline.nodeReferences Outline.contents
      rw [hbody, hb]
      exact gives_around rfl hcontents
    | string _ | number _ | boolean | enum _ =>
      unfold fragment Outline.members Outline.nodeReferences Outline.contents
      rw [hbody, hb]
      exact gives_around rfl (.pure [])
    | definition name =>
      rw [Node.kind, hb] at kind
      exact absurd rfl kind

end Compile

namespace Graph

open Compile

variable {g : Graph} {cfg : DocumentConfig}

/-- What is shown at a node is what the node is written as, down to any depth that is not less than
the height. -/
theorem Shows.writes {id : NodeId} {o : Outline} (h : g.Shows id o) (hw : o.Writable) :
    ∀ depth, o.height ≤ depth → ∀ n, g.node? id = some n →
      (Compile.node g cfg depth id n).Gives (o.written cfg) o.references := by
  induction h with
  | @mk id n hs node edges below ih =>
    intro depth hdepth m hm
    rw [Outline.height] at hdepth
    obtain ⟨depth, rfl⟩ : ∃ d, depth = d + 1 := ⟨depth - 1, by omega⟩
    obtain rfl : shownNode n hs = m := Option.some.inj (node.symm.trans hm)
    refine gives_fragment hw below (fun h hh => ?_) edges
    have hbelow : h.2 ∈ hs.map Prod.snd := List.mem_map_of_mem hh
    refine ih h hh ?_ depth ?_
    · cases hw with
      | mk _ _ _ _ _ _ hbelow' => exact hbelow' _ hbelow
    · exact Nat.le_trans (Outline.height_le_heightBelow hbelow) (Nat.le_of_succ_le_succ hdepth)

end Graph

end FormGraph

import FormGraph.Proofs.Agreement.Change
import FormGraph.Proofs.Imported
import FormGraph.Proofs.SiblingKeys.Edit

/-!
# Changes that keep the keys of children different

Inlining references, removing definitions and the operations on clauses, and from them every change:
in a reachable graph the children of a node have different keys (`Reachable.keyed`). The copies that
inlining makes have the keys of their originals, and the topmost of them that of the reference whose
place it takes. So a key says which child of a node is meant: the children are all there, and no two
of them have one key (`nodup_keys_of_children`).
-/

namespace FormGraph

namespace Graph

variable {g g' old : Graph} {s : IdSupply}

/-- The copy in the place of a reference has its key. -/
theorem CopyInPlace.key?_wired {ref content : NodeId} {r : Graph × IdSupply}
    (i : CopyInPlace old g s ref content r) (x : NodeId) :
    i.wired.key? x = if i.copyId = x then some i.node.key else i.copied.key? x := by
  rw [CopyInPlace.wired, key?_wire, key?_putNode]
  rfl

namespace Keyed

/-! ## Removing definitions -/

/-- A copy has the key of its original. -/
theorem key?_copied {source : NodeId} {pairs : List (NodeId × NodeId)}
    (hc : Copied old g g' source pairs) {p : NodeId × NodeId} (hp : p ∈ pairs) :
    g'.key? p.2 = old.key? p.1 := by
  obtain ⟨n, hn, hcopy⟩ := hc.node p hp
  rw [key?_of_node? hn, key?_of_node? hcopy, copiedNode, key_setClauses]

/-- The children of a copy are copies of the children of its original. -/
theorem isChild_copied (hold : Forest old) {source : NodeId} {pairs : List (NodeId × NodeId)}
    (hc : Copied old g g' source pairs) {q : NodeId × NodeId} (hq : q ∈ pairs) {x : NodeId}
    (h : g'.IsChild q.2 x) : ∃ p ∈ pairs, p.2 = x ∧ old.IsChild q.1 p.1 := by
  obtain ⟨f, p, hp, hown, hsource, heq⟩ := hc.of_owningEdge hq h
  obtain ⟨rfl, -, hkind⟩ := Edge.mk.inj heq
  refine ⟨p, hp, rfl, ?_⟩
  obtain ⟨htarget, _⟩ := hold.listed hown
  rw [IsChild, hown]
  obtain ⟨source, target, kind⟩ := f
  dsimp only at htarget hsource hkind ⊢
  rw [htarget, hsource, hkind]

/-- Copying keeps the keys of children different. -/
theorem of_copied (hk : Keyed g) (hold : Keyed old) (hf : Forest g) (hfo : Forest old)
    {source : NodeId} {pairs : List (NodeId × NodeId)} (hc : Copied old g g' source pairs) :
    Keyed g' := by
  have houtside : ∀ {x p}, (∀ q ∈ pairs, q.2 ≠ x) → g'.IsChild x p →
      g.IsChild x p ∧ g'.key? x = g.key? x := by
    intro x p hx hchild
    obtain ⟨hnode, _, howner⟩ := hc.outside x hx
    rw [IsChild, howner] at hchild
    exact ⟨hchild, by rw [key?, hnode, key?]⟩
  -- a copy and a node that was there have different parents
  have hapart : ∀ {q x p}, q ∈ pairs → (∀ q ∈ pairs, q.2 ≠ x) → g'.IsChild q.2 p →
      g'.IsChild x p → False := by
    intro q x p hq hx hqp hxp
    obtain ⟨t, ht, rfl, _⟩ := isChild_copied hfo hc hq hqp
    have hpresent := ((houtside hx hxp).1.present hf).2
    rw [hc.fresh t ht] at hpresent
    simp at hpresent
  intro x y p hx hy heq
  rcases Copied.name_or_outside pairs x with ⟨q, hq, rfl⟩ | hxout
  · rcases Copied.name_or_outside pairs y with ⟨t, ht, rfl⟩ | hyout
    · obtain ⟨a, ha, rfl, hqa⟩ := isChild_copied hfo hc hq hx
      obtain ⟨b, hb, hab, htb⟩ := isChild_copied hfo hc ht hy
      rw [hc.same_original b hb a ha hab] at htb
      rw [key?_copied hc hq, key?_copied hc ht] at heq
      rw [hc.same_copy q hq t ht (hold hqa htb heq)]
    · exact (hapart hq hyout hx hy).elim
  · rcases Copied.name_or_outside pairs y with ⟨t, ht, rfl⟩ | hyout
    · exact (hapart ht hxout hy hx).elim
    · obtain ⟨hx, hkx⟩ := houtside hxout hx
      obtain ⟨hy, hky⟩ := houtside hyout hy
      rw [hkx, hky] at heq
      exact hk hx hy heq

/-- The copy in the place of a reference clashes with no sibling that the reference did not. -/
theorem inlineReference (hk : Keyed g) (hko : Keyed old) (hs : Sound g) (hold : Sound old)
    (hsup : Supplied g s) {ref : NodeId} (hkind : g.kind? ref = some .reference)
    (hkey : g.key? ref = old.key? ref) {content : Option NodeId} {r : Graph × IdSupply}
    (h : (g.inlineReference old ref content).run s = .ok r) : Keyed r.1 := by
  rcases hs.inPlace_of_inlineReference hold hsup hkind h with ⟨_, rfl⟩ | ⟨_, rfl, ⟨i⟩⟩
  · exact hk.removeSubtree old ref
  have hkeyed : Keyed i.copied := of_copied ((hk.detach ref).dropAll [ref]) hko
    (hs.takeOut hkind).toForest hold.toForest i.copies
  have hreplaced : Keyed i.wired := by
    refine hkeyed.place i.copyId (fun {x p} hx hchild => ?_) fun {x p} hx hnew hchild heq => ?_
    · rw [IsChild, i.owningEdge_wired, if_neg (Ne.symm hx)] at hchild
      exact ⟨hchild, by rw [i.key?_wired, if_neg (Ne.symm hx)]⟩
    · rw [IsChild, i.owningEdge_wired, if_pos rfl] at hnew
      obtain ⟨rfl, -, hchildKind⟩ := Edge.mk.inj (Option.some.inj hnew)
      rw [IsChild, i.owningEdge_wired, if_neg (Ne.symm hx)] at hchild
      rw [i.key?_wired, i.key?_wired, if_neg (Ne.symm hx), if_pos rfl] at heq
      rcases Copied.name_or_outside i.pairs x with ⟨q, hq, rfl⟩ | hxout
      · obtain ⟨p, hp, hsource, _⟩ := isChild_copied hold.toForest i.copies hq hchild
        exact absurd hsource (i.ne_of_present hsup (hs.present i.owner).2 p hp)
      · rw [(i.copies.outside x hxout).2.2, owningEdge_drop, owningEdge_detach] at hchild
        split_ifs at hchild with hxref
        have href : g.IsChild ref i.edge.source := by
          rw [IsChild, i.owningEdge_ref hs, hchildKind]
        refine hxref (hk href hchild ?_)
        rw [hkey, key?_of_node? i.node_eq, ← heq, key?, key?, i.node?_outside hxout, if_neg hxref]
  rw [i.eq_wired]
  split
  · exact hreplaced.shrink fun {x p} hchild => by
      unfold IsChild at hchild ⊢
      rw [owningEdge_retarget] at hchild
      exact ⟨hchild, key?_retarget _ _ _ x⟩
  · exact hreplaced

/-- Inlining a reference leaves the keys of the other nodes alone. -/
theorem key?_inlineReference (hs : Sound g) (hold : Sound old) (hsup : Supplied g s) {ref : NodeId}
    (hkind : g.kind? ref = some .reference) (hkind' : old.kind? ref = some .reference)
    {content : Option NodeId} {r : Graph × IdSupply}
    (h : (g.inlineReference old ref content).run s = .ok r) {x : NodeId} (hx : x ≠ ref)
    (hthere : (g.node? x).isSome) : r.1.key? x = g.key? x := by
  rcases hs.inPlace_of_inlineReference hold hsup hkind h with ⟨_, rfl⟩ | ⟨_, rfl, ⟨i⟩⟩
  · show (g.removeSubtree old ref).key? x = g.key? x
    rw [Graph.removeSubtree, key?_dropAll, if_neg, key?_releaseBranch, key?_detach]
    rwa [hold.mem_subtreeIds_of_reference hkind']
  have hout := i.ne_of_present hsup hthere
  have hwired : i.wired.key? x = g.key? x := by
    rw [i.key?_wired, if_neg (hout _ i.mem_pairs), key?, i.node?_outside hout, if_neg (Ne.symm hx),
      key?]
  rw [i.eq_wired]
  split
  · rw [key?_retarget, hwired]
  · exact hwired

theorem removeDefinition (hk : Keyed g) (hs : Sound g) (hsup : Supplied g s) {name : String}
    {policy : RemovalPolicy} {r : (Graph × List String) × IdSupply}
    (h : (g.removeDefinition name policy).run s = .ok r) : Keyed r.1.1 := by
  obtain ⟨defId, settled, warnings, hfind, hsettle, hr⟩ := removeDefinition_ok h
  -- the keys of the references still to be inlined are those from before
  have hkeyed : Keyed settled ∧ ∀ ref ∈ ([] : List NodeId), settled.key? ref = g.key? ref := by
    refine hs.keeps_of_settleReferences hsup hfind
      (P := fun refs h => Keyed h ∧ ∀ ref ∈ refs, h.key? ref = g.key? ref)
      (fun _ => ⟨hk, fun _ _ => rfl⟩) ⟨hk.removeAll g (g.referencesTo name), by simp⟩
      (fun hne hi hsup hkept h => ?_) hsettle
    obtain ⟨hkind, hkind'⟩ := hi.refs _ List.mem_cons_self
    refine ⟨hkept.1.inlineReference hk hi.sound hs hsup hkind (hkept.2 _ List.mem_cons_self) h,
      fun x hx => ?_⟩
    have hthere := present_of_kind? (hi.refs x (List.mem_cons_of_mem _ hx)).1
    have hsame := key?_inlineReference hi.sound hs hsup hkind hkind' h
      (fun heq => hne (heq ▸ hx)) hthere
    exact hsame.trans (hkept.2 x (List.mem_cons_of_mem _ hx))
  rw [hr]
  exact (hkeyed.1.dropAll _).shrink fun hc => ⟨hc, rfl⟩

theorem remove (hk : Keyed g) (hs : Sound g) (hsup : Supplied g s) {id : NodeId}
    {policy : RemovalPolicy} {r : Graph × IdSupply} (h : (g.remove id policy).run s = .ok r) :
    Keyed r.1 := by
  obtain ⟨n, _, _, ⟨_, hr⟩ | ⟨name, warnings, _, hdef⟩⟩ := remove_ok h
  · rw [hr]
    exact (hk.removeSubtree g id).shrink fun hc => ⟨hc, rfl⟩
  · exact hk.removeDefinition hs hsup hdef

/-! ## Clauses -/

theorem pruneBranches (hk : Keyed g) {id : NodeId} (h : g.pruneBranches id = .ok g') :
    Keyed g' := by
  obtain ⟨n, _, _, rfl | rfl⟩ := pruneBranches_ok h
  · exact hk
  · rw [← List.foldl_map (f := Edge.target) (g := fun h id => Graph.removeSubtree h g id)]
    exact (hk.removeAll g _).shrink fun hc => ⟨hc, rfl⟩

theorem removeClause (hk : Keyed g) {id : NodeId} {index : Int} {prune : Bool}
    (h : g.removeClause id index prune = .ok g') : Keyed g' := by
  obtain ⟨n, g₁, hn, _, rfl, rfl | hprune⟩ := removeClause_ok h
  · exact hk.setClauses hn _
  · exact (hk.setClauses hn _).pruneBranches hprune

theorem ensureBranch (hk : Keyed g) (hf : Forest g) {id key : NodeId} {target : Option NodeId}
    {kind : EdgeKind} {skip : Option Nat} (h : g.ensureBranch id key target kind skip = .ok g') :
    Keyed g' := by
  rcases ensureBranch_ok h with ⟨_, rfl⟩ | ⟨t, _, ⟨e, _, _, _, rfl⟩ | ⟨_, hmove⟩⟩
  · exact hk
  · exact hk
  · exact hk.move hf hmove

/-- Writing a clause after its branches were made sure of keeps the keys different. -/
theorem written (hk : Keyed g) (hs : Sound g) {id : NodeId} (h : g.ClausesWritten id g') :
    Keyed g' := by
  obtain ⟨h₁, h₂, hm, cs⟩ := h
  have hs₁ := (hs.ensureBranch h₁).1.toForest
  exact ((hk.ensureBranch hs.toForest h₁).ensureBranch hs₁ h₂).setClauses hm cs

/-! ## All changes -/

/-- A change that succeeds keeps the keys of children different. -/
theorem applied (hk : Keyed g) (hs : Sound g) (hsup : Supplied g s) {c : Change} {t : IdSupply}
    (h : Applied g s c g' t) : Keyed g' := by
  cases h with
  | add h => exact hk.addAs hs.toForest (add_ok h).1
  | update h => exact hk.update hs.toForest h
  | remove h => exact hk.remove hs hsup h
  | move h => exact hk.move hs.toForest h
  | reorder h => exact hk.reorder h
  | createGroup _ h => exact hk.addAs hs.toForest (add_ok h).1
  | appendClause _ h => exact hk.written hs (clausesWritten_of_appendClause h)
  | updateClause h => exact hk.written hs (clausesWritten_of_updateClause h)
  | removeClause h => exact hk.removeClause h
  | synchronize h =>
    rcases clausesWritten_of_synchronizeBranches h with rfl | hwritten
    · exact hk
    · exact hk.written hs hwritten
  | prune h => exact hk.pruneBranches h
  | createDefinition h => exact hk.createDefinition hs hsup h
  | promote h => exact hk.promoteAs hs.toForest (hsup _ (Nat.lt_succ_self _)) (promote_ok h).1
  | renameDefinition h => exact hk.renameDefinition hs h
  | removeDefinition h => exact hk.removeDefinition hs hsup h

theorem apply (hk : Keyed g) (hs : Sound g) (hsup : Supplied g s) {c : Change}
    {r : Effect × IdSupply} (h : (g.apply c).run s = .ok r) : Keyed r.1.graph :=
  hk.applied hs hsup (applied_of_apply h)

end Keyed

/-! ## Reachable graphs -/

theorem Tidy.keyed (ht : g.Tidy) : Keyed g := by
  have hmem : ∀ {x p}, g.IsChild x p → x ∈ g.childIds p := fun {x p} h =>
    List.mem_map.2 ⟨⟨p, x, .child⟩, List.mem_filter.2 ⟨(ht.listed h).2, by simp⟩, rfl⟩
  exact fun x y p hx hy heq => List.inj_on_of_nodup_map (ht.keys p) (hmem hx) (hmem hy) heq

/-- In a reachable graph the children of a node have different keys. -/
theorem Reachable.keyed {allowed : Graph → Change → Prop} (h : Reachable allowed g s) :
    Keyed g := by
  refine (Reachable.keeps (P := fun g => Forest g ∧ Keyed g) (fun title description => ?_)
    (fun hp hread used => ?_) (fun hP hu => ?_) (fun hbefore hP _ hc => ?_) h).2
  · refine ⟨(sound_empty title description).toForest, fun x y p hx => ?_⟩
    simp [IsChild, Graph.empty, owningEdge] at hx
  · have hf := fits_of_outlineOf hp hread
    exact ⟨(sound_toGraph hf used).toForest,
      (tidy_toGraph hf (tidy_of_outlineOf hp hread) used).keyed⟩
  · obtain ⟨n, n', hn, _, _, _, _, _, rfl⟩ := update_ok hu
    refine ⟨hP.1.congr (fun _ => rfl) (fun _ => rfl) fun x hx => ?_, hP.2.update hP.1 hu⟩
    rw [node?_next, node?_putNode]
    split
    · rfl
    · exact hx
  · obtain ⟨hsound, hsup⟩ := hbefore.sound
    exact ⟨(hsound.apply hsup hc).1.toForest, hP.2.apply hsound hsup hc⟩

/-! ## The children of a node by their keys -/

/-- The children of every node of a reachable graph are there, and their keys are different. -/
theorem nodup_keys_of_children {allowed : Graph → Change → Prop} (h : Reachable allowed g s)
    (id : NodeId) :
    ∃ children, g.children id = .ok children ∧ children.map Prod.fst = g.childIds id ∧
      (children.map fun c => c.2.key).Nodup := by
  have hf : Forest g := h.sound.1.toForest
  obtain ⟨children, hchildren, hids, hnodes⟩ := hf.children_eq id
  refine ⟨children, hchildren, hids, ?_⟩
  have hkeys : (g.childIds id).map g.key? = (children.map fun c => c.2.key).map some := by
    rw [← hids, List.map_map, List.map_map]
    refine List.map_congr_left fun c hc => ?_
    exact key?_of_node? (hnodes c hc)
  have hnodup := h.keyed.nodup hf id
  rw [hkeys] at hnodup
  exact hnodup.of_map

/-- Where a property already has the key that a condition would get, the condition gets another one,
and a field that is moved next to a field of its own key gets another one too. -/
theorem nodup_keys_of_condition :
    ∃ (g : Graph) (s : IdSupply) (children : List (NodeId × Node NodeId)),
      Reachable (fun _ _ => True) g s ∧ g.children rootName = .ok children ∧
        children.map (fun c => c.2.key) = ["condition", "condition_2", "condition_3"] ∧
        (children.map fun c => c.2.key).Nodup := by
  have hproper : (Value.obj [
      ("properties", .obj [("condition", .obj [("type", .str "boolean")])]),
      ("if", .obj [("properties", .obj [("a", .obj [("const", .int 1)])])]),
      ("then", .obj [("properties", .obj [("condition", .obj [("type", .str "boolean")])])])]).Proper :=
    Value.proper_of_everywhere (by decide)
  have hread : Reachable (fun _ _ => True) _ _ :=
    .document hproper (rfl : (decompile _ {}).run {} = .ok _)
  have hmoved : Reachable (fun _ _ => True) _ _ :=
    .change (c := .move "n3" rootName .child none) hread trivial rfl
  obtain ⟨children, hchildren, _, hnodup⟩ := nodup_keys_of_children hmoved rootName
  refine ⟨_, _, children, hmoved, hchildren, ?_, hnodup⟩
  obtain rfl := Except.ok.inj hchildren
  decide

end Graph

end FormGraph

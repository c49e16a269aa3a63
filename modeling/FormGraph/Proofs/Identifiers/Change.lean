import FormGraph.Proofs.Identifiers.Key
import FormGraph.Proofs.Reachable
import FormGraph.Proofs.SiblingKeys.Change

/-!
# Keys that are identifiers

`Identified g` says that the keys of the fields and groups of a graph are identifiers; a definition
has its name for a key, which may be any text. A key that an edit derives is an identifier, and an
edit that copies, moves or replaces a node takes over the key of a node that was there. A key that the
caller chooses is checked, but the check overlooks a line break at the end: `misspells` says when a
change lets such a key in. In a graph that was made without an import the keys are identifiers as long
as no change misspells one, and a change that succeeds keeps them so exactly when it does not
(`identified_iff_of_edited`).
-/

namespace FormGraph

namespace Graph

variable {g g' old : Graph} {s : IdSupply}

/-- The keys of fields and groups are identifiers. -/
def Identified (g : Graph) : Prop :=
  ∀ ⦃x : NodeId⦄ ⦃k : String⦄, g.key? x = some k → g.kind? x ≠ some .definition →
    Key.isIdentifier k = true

/-- The key that a caller chose ends in a line break. -/
def breaksLine : Value → Bool
  | .str key => Key.endsLine key
  | _ => false

/-- The change would give a field or group a key that ends in a line break. -/
def misspells (g : Graph) : Change → Bool
  | .add draft _ _ _ => breaksLine draft.key
  | .createDefinition _ (some draft) => breaksLine draft.key
  | .update id patch =>
    decide (g.kind? id ≠ some .definition) && (Entries.find? patch "key").any breaksLine
  | _ => false

namespace Identified

/-! ## Steps -/

theorem key_of_node? (hi : Identified g) {id : NodeId} {n : Node NodeId}
    (hn : g.node? id = some n) (hk : n.kind ≠ .definition) : Key.isIdentifier n.key = true := by
  refine hi (key?_of_node? hn) ?_
  rw [g.kind?_of_node? hn]
  simpa using hk

/-- A step that takes nodes away at most keeps the keys. -/
theorem shrink (hi : Identified g)
    (h : ∀ {x k}, g'.key? x = some k → g.key? x = some k ∧ g'.kind? x = g.kind? x) :
    Identified g' := by
  intro x k hk hdef
  obtain ⟨hkey, hkind⟩ := h hk
  exact hi hkey (hkind ▸ hdef)

theorem putNode (hi : Identified g) {id : NodeId} {n : Node NodeId}
    (hn : n.kind ≠ .definition → Key.isIdentifier n.key = true) : Identified (g.putNode id n) := by
  intro x k hk hdef
  rw [key?_putNode] at hk
  rw [kind?_putNode] at hdef
  split_ifs at hk hdef
  · rw [← Option.some.inj hk]
    exact hn fun h => hdef (congrArg some h)
  · exact hi hk hdef

/-- The only key that a step can misspell is that of the node it writes. -/
theorem putNode_iff (hi : Identified g) {id : NodeId} {n : Node NodeId}
    (hk : n.kind ≠ .definition) :
    Identified (g.putNode id n) ↔ Key.isIdentifier n.key = true := by
  refine ⟨fun hput => ?_, fun hn => hi.putNode fun _ => hn⟩
  have hnew : (g.putNode id n).node? id = some n := by rw [node?_putNode, if_pos rfl]
  exact hput.key_of_node? hnew hk

theorem dropAll (hi : Identified g) (ids : List NodeId) : Identified (g.dropAll ids) := by
  refine hi.shrink fun {x k} hk => ?_
  rw [key?_dropAll] at hk
  split_ifs at hk with hx
  exact ⟨hk, by rw [kind?_dropAll, if_neg hx]⟩

theorem detach (hi : Identified g) (id : NodeId) : Identified (g.detach id) :=
  hi.shrink fun hk => ⟨by rwa [key?_detach] at hk, by rw [kind?_detach]⟩

theorem releaseBranch (hi : Identified g) (e : Option Edge) : Identified (g.releaseBranch e) :=
  hi.shrink fun hk => ⟨by rwa [key?_releaseBranch] at hk, by rw [kind?_releaseBranch]⟩

theorem retarget (hi : Identified g) (groupId t : NodeId) (new : Option NodeId) :
    Identified (g.retarget groupId t new) :=
  hi.shrink fun hk => ⟨by rwa [key?_retarget] at hk, by rw [kind?_retarget]⟩

theorem removeSubtree (hi : Identified g) (old : Graph) (id : NodeId) :
    Identified (g.removeSubtree old id) :=
  ((hi.detach id).releaseBranch _).dropAll _

theorem removeAll (old : Graph) (ids : List NodeId) :
    ∀ {g : Graph}, Identified g →
      Identified (ids.foldl (fun h id => h.removeSubtree old id) g) := by
  induction ids with
  | nil => exact fun hi => hi
  | cons id ids ih => exact fun hi => ih (hi.removeSubtree old id)

theorem setClauses (hi : Identified g) {id : NodeId} {n : Node NodeId} (hn : g.node? id = some n)
    (cs : List (Clause NodeId)) : Identified (g.putNode id (n.setClauses cs)).next := by
  have hput : Identified (g.putNode id (n.setClauses cs)) := by
    refine hi.putNode fun hk => ?_
    rw [Node.kind_setClauses] at hk
    rw [key_setClauses]
    exact hi.key_of_node? hn hk
  exact hput.shrink fun hk => ⟨hk, rfl⟩

/-! ## Placing nodes -/

/-- A key that is found for a new node is an identifier unless the caller chose one that ends in a
line break. -/
theorem isIdentifier_keyFor_iff {draft : Draft} {parentId : NodeId} {edge : EdgeKind}
    {taken : List String} {key : String} (h : keyFor draft parentId edge taken = .ok key) :
    Key.isIdentifier key = true ↔ breaksLine draft.key = false := by
  unfold keyFor at h
  split at h
  · next hkey =>
    simp only [bind_eq_ok_iff, pure_eq_ok_iff] at h
    obtain ⟨title, _, rfl⟩ := h
    rw [hkey]
    exact iff_of_true (Key.isIdentifier_generate _ _ (Key.isIdentifier_fallbackKey _)) rfl
  · next chosen hkey =>
    simp only [ite_refuse_eq_ok_iff] at h
    obtain ⟨hvalid, _, hsame⟩ := h
    obtain rfl := Except.ok.inj hsame
    rw [hkey]
    exact Key.isIdentifier_iff_of_isValid (by simpa using hvalid)
  · split_ifs at h <;> simp [refuse, breakDown] at h

theorem addAs_iff (hi : Identified g) {id parentId : NodeId} {draft : Draft} {edge : EdgeKind}
    {index : Option Int} (h : g.addAs id draft parentId edge index = .ok g') :
    Identified g' ↔ breaksLine draft.key = false := by
  obtain ⟨_, _, key, _, _, _, hdef, _, hkey, _, rfl⟩ := addAs_ok h
  exact (hi.putNode_iff (n := draft.build key) hdef).trans (isIdentifier_keyFor_iff hkey)

/-- A node that is moved keeps its key, or a number is added to it. -/
theorem isIdentifier_rekeyed {n : Node NodeId} (hn : Key.isIdentifier n.key = true)
    (taken : List String) : Key.isIdentifier (rekeyed n taken).key = true := by
  unfold rekeyed
  split
  · exact Key.isIdentifier_unique hn taken
  · exact hn

theorem move (hi : Identified g) {id newParent : NodeId} {edge : EdgeKind} {index : Option Int}
    (h : g.move id newParent edge index = .ok g') : Identified g' := by
  obtain ⟨n, _, taken, _, _, hn, hdef, _, _, _, _, _, rfl⟩ := move_ok h
  have hfreed := (hi.detach id).releaseBranch (g.owningEdge id)
  split
  · exact hfreed.putNode fun _ => isIdentifier_rekeyed (hi.key_of_node? hn hdef) taken
  · exact hfreed

theorem reorder (hi : Identified g) {id : NodeId} {index : Int} (h : g.reorder id index = .ok g') :
    Identified g' := by
  rcases reorder_ok h with rfl | ⟨_, _, _, _, rfl⟩
  · exact hi
  · exact hi

/-! ## Changing a node -/

/-- The key that a patch leads to is an identifier like the one before, unless the patch names one
that ends in a line break. -/
theorem isIdentifier_readKey_iff {id : NodeId} {n : Node NodeId} {patch : Members} {key : String}
    (hn : Key.isIdentifier n.key = true) (h : Patch.readKey g id n patch = .ok key) :
    Key.isIdentifier key = true ↔ (Entries.find? patch "key").any breaksLine = false := by
  unfold Patch.readKey at h
  split at h
  · next hnone =>
    rw [hnone, ← Except.ok.inj h]
    exact iff_of_true hn rfl
  · next chosen hchosen =>
    rw [hchosen, Option.any_some, breaksLine]
    split_ifs at h with hsame hvalid
    · rw [← Except.ok.inj h, hsame]
      exact iff_of_true hn (Key.endsLine_of_isIdentifier hn)
    · simp [refuse] at h
    · have hkey : key = chosen := by
        split at h
        · exact (Except.ok.inj h).symm
        · split_ifs at h
          · exact (Except.ok.inj h).symm
          · rw [bind_eq_ok_iff] at h
            obtain ⟨taken, _, h⟩ := h
            split_ifs at h
            · simp [refuse] at h
            · exact (Except.ok.inj h).symm
      rw [hkey]
      exact Key.isIdentifier_iff_of_isValid (by simpa using hvalid)
  · simp [refuse] at h

theorem update_iff (hi : Identified g) {id : NodeId} {patch : Members}
    (h : g.update id patch = .ok g') :
    Identified g' ↔ g.misspells (.update id patch) = false := by
  obtain ⟨n, n', hn, hkind, _, _, hkey, _, rfl⟩ := update_ok h
  have hsame : g.kind? id = some n'.kind := by rw [g.kind?_of_node? hn, hkind]
  by_cases hdef : n'.kind = .definition
  · have hnone : g.misspells (.update id patch) = false := by simp [misspells, hsame, hdef]
    exact iff_of_true (hi.putNode fun hne => absurd hdef hne) hnone
  · have hread := isIdentifier_readKey_iff (hi.key_of_node? hn (hkind ▸ hdef)) hkey
    have hmisspells : g.misspells (.update id patch) =
        (Entries.find? patch "key").any breaksLine := by simp [misspells, hsame, hdef]
    rw [hmisspells]
    exact (hi.putNode_iff hdef).trans hread

/-! ## Definitions -/

theorem createDefinitionAs (hi : Identified g) {id : NodeId} {name : String}
    (h : g.createDefinitionAs id name = .ok g') : Identified g' := by
  obtain ⟨_, _, rfl⟩ := createDefinitionAs_ok h
  exact hi.putNode fun hne => absurd rfl hne

/-- The reference in the place of the node has its key. -/
theorem promoteAs (hi : Identified g) {defId refId id : NodeId} {name : String}
    (h : g.promoteAs defId refId id name = .ok g') : Identified g' := by
  obtain ⟨i⟩ := promoteAs_ok h
  have hkey := hi.key_of_node? i.node_eq i.not_definition
  have henclosed : Identified (g.enclosed defId id i.node name) := by
    rw [Graph.enclosed, attachLast_eq]
    have hdefined : Identified ((g.detach id).putNode defId (Node.ofDefinition name)) :=
      (hi.detach id).putNode fun hne => absurd rfl hne
    exact hdefined.putNode fun _ => hkey
  have hplaced : Identified i.wired := henclosed.putNode fun _ => hkey
  rw [i.eq_wired]
  split
  · exact hplaced.retarget _ _ _
  · exact hplaced

theorem createDefinition_iff (hi : Identified g) {name : String} {content : Option Draft}
    {r : (Graph × NodeId) × IdSupply} (h : (g.createDefinition name content).run s = .ok r) :
    Identified r.1.1 ↔ g.misspells (.createDefinition name content) = false := by
  obtain ⟨made, hmade, _, ⟨rfl, hr, _⟩ | ⟨draft, rfl, _, hadd⟩⟩ := createDefinition_ok h
  · rw [hr]
    exact iff_of_true (hi.createDefinitionAs hmade) rfl
  · exact (hi.createDefinitionAs hmade).addAs_iff hadd

/-- The key of a definition is no key of a field or group, whatever its name is. -/
theorem renameDefinition (hi : Identified g) (hs : Sound g) {oldName newName : String}
    (h : g.renameDefinition oldName newName = .ok g') : Identified g' := by
  obtain ⟨_, hkinds⟩ := hs.renameDefinition h
  rcases renameDefinition_ok h with rfl | ⟨id, n, hfind, _, _, _, _, rfl⟩
  · exact hi
  · obtain ⟨d, hd, hname⟩ := hs.defined.1 hfind
    intro x k hk hdef
    rw [hkinds] at hdef
    rw [key?_next, key?_pointAll, key?_define] at hk
    have hx : id ≠ x := by
      rintro rfl
      rw [g.kind?_of_node? hd, Node.kind_eq_of_definitionName? hname] at hdef
      exact hdef rfl
    refine hi ?_ hdef
    rw [key?, node?_undefine, ← key?, key?_putNode, if_neg hx] at hk
    exact hk

/-! ## Removing -/

/-- A copy has the key of its original, and the topmost that of the reference. -/
theorem inlineReference (hi : Identified g) (hio : Identified old) (hs : Sound g)
    (hold : Sound old) (hsup : Supplied g s) {ref : NodeId} (hkind : g.kind? ref = some .reference)
    (hkind' : old.kind? ref = some .reference) {content : Option NodeId} {r : Graph × IdSupply}
    (h : (g.inlineReference old ref content).run s = .ok r) : Identified r.1 := by
  rcases hs.inPlace_of_inlineReference hold hsup hkind h with ⟨_, rfl⟩ | ⟨_, rfl, ⟨i⟩⟩
  · exact hi.removeSubtree old ref
  have hcopied : Identified i.copied := by
    intro x k hk hdef
    rcases Copied.name_or_outside i.pairs x with ⟨p, hp, rfl⟩ | hx
    · rw [Keyed.key?_copied i.copies hp] at hk
      rw [i.copies.kind? hp] at hdef
      exact hio hk hdef
    · rw [key?, (i.copies.outside x hx).1] at hk
      rw [i.copies.kind?_outside hx] at hdef
      exact (hi.detach ref).dropAll [ref] hk hdef
  have hkey : Key.isIdentifier i.node.key = true := by
    refine hio.key_of_node? i.node_eq ?_
    rw [old.kind?_of_node? i.node_eq] at hkind'
    rw [Option.some.inj hkind']
    decide
  have hplaced : Identified i.wired := hcopied.putNode fun _ => hkey
  rw [i.eq_wired]
  split
  · exact hplaced.retarget _ _ _
  · exact hplaced

theorem removeDefinition (hi : Identified g) (hs : Sound g) (hsup : Supplied g s) {name : String}
    {policy : RemovalPolicy} {r : (Graph × List String) × IdSupply}
    (h : (g.removeDefinition name policy).run s = .ok r) : Identified r.1.1 := by
  obtain ⟨defId, settled, warnings, hfind, hsettle, hr⟩ := removeDefinition_ok h
  have hsettled : Identified settled := by
    refine hs.keeps_of_settleReferences hsup hfind (P := fun _ h => Identified h) (fun _ => hi)
      (hi.removeAll g (g.referencesTo name)) (fun _ hin hsup hkept h => ?_) hsettle
    obtain ⟨hkind, hkind'⟩ := hin.refs _ List.mem_cons_self
    exact hkept.inlineReference hi hin.sound hs hsup hkind hkind' h
  rw [hr]
  exact hsettled.dropAll _

theorem remove (hi : Identified g) (hs : Sound g) (hsup : Supplied g s) {id : NodeId}
    {policy : RemovalPolicy} {r : Graph × IdSupply} (h : (g.remove id policy).run s = .ok r) :
    Identified r.1 := by
  obtain ⟨n, _, _, ⟨_, hr⟩ | ⟨name, warnings, _, hdef⟩⟩ := remove_ok h
  · rw [hr]
    exact hi.removeSubtree g id
  · exact hi.removeDefinition hs hsup hdef

/-! ## Clauses -/

theorem pruneBranches (hi : Identified g) {id : NodeId} (h : g.pruneBranches id = .ok g') :
    Identified g' := by
  obtain ⟨n, _, _, rfl | rfl⟩ := pruneBranches_ok h
  · exact hi
  · rw [← List.foldl_map (f := Edge.target) (g := fun h id => Graph.removeSubtree h g id)]
    exact hi.removeAll g _

theorem removeClause (hi : Identified g) {id : NodeId} {index : Int} {prune : Bool}
    (h : g.removeClause id index prune = .ok g') : Identified g' := by
  obtain ⟨n, g₁, hn, _, rfl, rfl | hprune⟩ := removeClause_ok h
  · exact hi.setClauses hn _
  · exact (hi.setClauses hn _).pruneBranches hprune

theorem ensureBranch (hi : Identified g) {id key : NodeId} {target : Option NodeId}
    {kind : EdgeKind} {skip : Option Nat} (h : g.ensureBranch id key target kind skip = .ok g') :
    Identified g' := by
  rcases ensureBranch_ok h with ⟨_, rfl⟩ | ⟨t, _, ⟨e, _, _, _, rfl⟩ | ⟨_, hmove⟩⟩
  · exact hi
  · exact hi
  · exact hi.move hmove

/-- Writing a clause after its branches were made sure of keeps the keys identifiers. -/
theorem written (hi : Identified g) {id : NodeId} (h : g.ClausesWritten id g') : Identified g' := by
  obtain ⟨h₁, h₂, hm, cs⟩ := h
  exact ((hi.ensureBranch h₁).ensureBranch h₂).setClauses hm cs

/-! ## All changes -/

/-- A change keeps the keys identifiers exactly when it does not misspell one. -/
theorem applied_iff (hi : Identified g) (hs : Sound g) (hsup : Supplied g s) {c : Change}
    {t : IdSupply} (h : Applied g s c g' t) : Identified g' ↔ g.misspells c = false := by
  cases h with
  | add h => exact hi.addAs_iff (add_ok h).1
  | update h => exact hi.update_iff h
  | remove h => exact iff_of_true (hi.remove hs hsup h) rfl
  | move h => exact iff_of_true (hi.move h) rfl
  | reorder h => exact iff_of_true (hi.reorder h) rfl
  | createGroup _ h => exact hi.addAs_iff (add_ok h).1
  | appendClause _ h => exact iff_of_true (hi.written (clausesWritten_of_appendClause h)) rfl
  | updateClause h => exact iff_of_true (hi.written (clausesWritten_of_updateClause h)) rfl
  | removeClause h => exact iff_of_true (hi.removeClause h) rfl
  | synchronize h =>
    refine iff_of_true ?_ rfl
    rcases clausesWritten_of_synchronizeBranches h with rfl | hwritten
    · exact hi
    · exact hi.written hwritten
  | prune h => exact iff_of_true (hi.pruneBranches h) rfl
  | createDefinition h => exact hi.createDefinition_iff h
  | promote h => exact iff_of_true (hi.promoteAs (promote_ok h).1) rfl
  | renameDefinition h => exact iff_of_true (hi.renameDefinition hs h) rfl
  | removeDefinition h => exact iff_of_true (hi.removeDefinition hs hsup h) rfl

theorem apply_iff (hi : Identified g) (hs : Sound g) (hsup : Supplied g s) {c : Change}
    {r : Effect × IdSupply} (h : (g.apply c).run s = .ok r) :
    Identified r.1.graph ↔ g.misspells c = false :=
  hi.applied_iff hs hsup (applied_of_apply h)

end Identified

/-! ## Graphs made without an import -/

theorem identified_empty (title description : Value) :
    Identified (Graph.empty title description) := by
  intro x k hk _
  unfold Graph.empty key? node? at hk
  rw [Table.find?_put] at hk
  split_ifs at hk
  · obtain rfl : rootName = k := Option.some.inj hk
    decide
  · simp at hk

/-- As long as no change misspells a key, the keys of all fields and groups of every graph that is
made without an import are identifiers; the first change that misspells one ends that. -/
theorem identified_iff_of_edited (h : Edited (fun g c => g.misspells c = false) g s) :
    Identified g ∧ ∀ {c : Change} {r : Effect × IdSupply}, (g.apply c).run s = .ok r →
      (Identified r.1.graph ↔ g.misspells c = false) := by
  have hi : Identified g := by
    induction h with
    | empty title description s => exact identified_empty title description
    | change before permitted h ih =>
      obtain ⟨hs, hsup⟩ := before.reachable.sound
      exact (ih.apply_iff hs hsup h).2 permitted
  exact ⟨hi, fun happly => hi.apply_iff h.reachable.sound.1 h.reachable.sound.2 happly⟩

/-- A text is added with a key of a letter and a line break. -/
theorem misspelled_by_add :
    ∃ (g : Graph) (s : IdSupply) (r : Effect × IdSupply),
      Edited (fun g c => g.misspells c = false) g s ∧ Identified g ∧
        (g.apply (.add { body := .initial .string, key := .str "a\n" } "root" .child
          none)).run s = .ok r ∧ r.1.graph.key? "n1" = some "a\n" ∧
          ¬ Identified r.1.graph := by
  have hempty : Edited (fun g c => g.misspells c = false) (Graph.empty .null .null) {} :=
    .empty .null .null {}
  obtain ⟨hidentified, hiff⟩ := identified_iff_of_edited hempty
  have hadd : ((Graph.empty .null .null).apply
      (.add { body := .initial .string, key := .str "a\n" } "root" .child none)).run {} = .ok _ :=
    rfl
  refine ⟨_, _, _, hempty, hidentified, hadd, rfl, fun hi => ?_⟩
  have hmisspells := (hiff hadd).1 hi
  revert hmisspells
  decide

end Graph

end FormGraph

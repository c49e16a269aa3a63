import FormGraph.Proofs.Reachable
import FormGraph.Proofs.Tidy

/-!
# What is read passes the check

Reading a document calmly gives a tidy outline, laying it out a tidy graph, and putting widgets on
fields changes neither what hangs where nor what a node says as a node of its kind. So a check of a
graph that was read finds nothing but what is wrong with the fields of single nodes
(`check_eq_of_read`).
-/

namespace FormGraph

/-! ## Changing a widget -/

theorem AttributeSet.merge_nil {σ : Type} (s : AttributeSet σ) (a : σ) : s.merge a [] = .ok a := by
  have hunknown : s.unknownNames [] = [] := List.mergeSort_nil
  unfold merge
  rw [hunknown]
  exact congrArg Except.ok (List.foldl_fixed' (fun _ => rfl) s.fields)

/-- A change of no attribute changes none. -/
theorem Body.merge_nil {ρ : Type} (b : Body ρ) : b.merge [] = .ok b := by
  cases b <;> simp only [merge, AttributeSet.merge_nil] <;> rfl

/-- The node with the widget that an entry names, and the options if the entry has any. -/
def Node.dressed (n : Node NodeId) (widget : String) (entry : Members) : Node NodeId :=
  { n with
    widget := .str widget
    widgetOptions := match Value.member entry "ui:options" with
      | .obj options => Entries.putAll [] options
      | _ => n.widgetOptions }

theorem Pairs.members_ofMembers (members : Members) :
    Pairs.members <$> Pairs.ofValue (.obj members) = .ok (Entries.putAll [] members) := by
  show Except.ok (Entries.putAll [] ((members.map fun m => (Value.str m.1, m.2)).map
    fun p => (p.1.memberName, p.2))) = _
  rw [List.map_map]
  exact congrArg (fun ms => Except.ok (Entries.putAll [] ms)) (List.map_id' members)

namespace Graph

variable {g g' : Graph}

/-- A change of the widget of a node that is there succeeds, and changes nothing else. -/
theorem update_widgetPatch {id : NodeId} {n : Node NodeId} (hn : g.node? id = some n)
    (widget : String) (entry : Members) :
    g.update id (Bundle.widgetPatch widget entry) =
      .ok (g.putNode id (n.dressed widget entry)).next := by
  have hget : g.get id = .ok n := get_eq_ok_iff.2 hn
  have hattributes : Patch.checkAttributes g id n [] = .ok () := by
    unfold Patch.checkAttributes
    cases n.kind <;> rfl
  have hbody : Patch.mergeInto n.body [] [] = .ok n.body := n.body.merge_nil
  -- without an attribute and a key among its members, a patch only sets fields
  have hfields : ∀ patch : Members, Patch.fixedIn patch = [] → Value.member patch "attrs" = .null →
      Patch.ownAttributes patch = [] → Entries.find? patch "key" = none →
      g.update id patch =
        Patch.applyFields n patch >>= fun changed => .ok (g.putNode id changed).next := by
    intro patch hfixed hattrs hown hkey
    have hread : Patch.readKey g id n patch = .ok n.key := by
      unfold Patch.readKey
      rw [hkey]
    unfold update
    rw [hget, hfixed, hattrs, hown]
    show Patch.checkAttributes g id n [] >>= _ = _
    rw [hattributes]
    show Patch.mergeInto n.body [] [] >>= _ = _
    rw [hbody]
    show Patch.readKey g id n patch >>= _ = _
    rw [hread]
    rfl
  unfold Bundle.widgetPatch Node.dressed
  cases Value.member entry "ui:options" with
  | obj options =>
    rw [hfields _ rfl rfl rfl rfl]
    show ((Pairs.members <$> Pairs.ofValue (.obj options)) >>= _) >>= _ = _
    rw [Pairs.members_ofMembers]
    rfl
  | null | bool _ | int _ | float _ | str _ | list _ =>
    rw [hfields _ rfl rfl rfl rfl]
    rfl

theorem update_widgetPatch_ok {id : NodeId} {widget : String} {entry : Members}
    (h : g.update id (Bundle.widgetPatch widget entry) = .ok g') :
    ∃ n, g.node? id = some n ∧ g' = (g.putNode id (n.dressed widget entry)).next := by
  have hread := h
  unfold update at hread
  rw [bind_eq_ok_iff] at hread
  obtain ⟨n, hget, _⟩ := hread
  have hn := get_eq_ok_iff.1 hget
  rw [update_widgetPatch hn] at h
  exact ⟨n, hn, (Except.ok.inj h).symm⟩

/-! ## Tidy graphs stay tidy -/

/-- A graph stays tidy when a node is replaced by one of the same key and body. -/
theorem Tidy.putNode (ht : g.Tidy) {id : NodeId} {n m : Node NodeId} (hn : g.node? id = some n)
    (hkey : m.key = n.key) (hbody : m.body = n.body) : (g.putNode id m).Tidy := by
  have hnode : ∀ {x : NodeId} {m' : Node NodeId}, (g.putNode id m).node? x = some m' →
      ∃ n', g.node? x = some n' ∧ m'.key = n'.key ∧ m'.body = n'.body := by
    intro x m' h
    rw [node?_putNode] at h
    by_cases hx : id = x
    · subst hx
      rw [if_pos rfl] at h
      obtain rfl := Option.some.inj h
      exact ⟨n, hn, hkey, hbody⟩
    · rw [if_neg hx] at h
      exact ⟨m', h, rfl, rfl⟩
  have hkeys : (g.putNode id m).key? = g.key? := by
    funext x
    unfold key?
    rw [node?_putNode]
    by_cases hx : id = x
    · subst hx
      rw [if_pos rfl, hn, Option.map_some, Option.map_some, hkey]
    · rw [if_neg hx]
  have hstanding : m.standing = n.standing := by
    unfold Node.standing Node.kind Node.definitionName?
    rw [hbody]
  refine { ht.toSoundBut.putNode hn hstanding with
    keys := fun x => ?_
    single := fun h hk => ?_
    target := fun h hv => ?_
    clause := fun h hc hk => ?_
    block := fun h hk => ?_ }
  · rw [hkeys]
    exact ht.keys x
  · obtain ⟨n', hn', _, hb⟩ := hnode h
    rw [Node.kind, hb] at hk
    exact ht.single hn' hk
  · obtain ⟨n', hn', _, hb⟩ := hnode h
    rw [Node.target?, hb] at hv
    exact ht.target hn' hv
  · obtain ⟨n', hn', _, hb⟩ := hnode h
    rw [Node.clauses, hb] at hc
    exact ht.clause hn' hc hk
  · obtain ⟨n', hn', _, hb⟩ := hnode h
    rw [Node.kind, hb] at hk
    rw [Node.clauses, hb]
    exact ht.block hn' hk

theorem Tidy.next (ht : g.Tidy) : g.next.Tidy :=
  { ht.toSoundBut.next with
    keys := ht.keys
    single := ht.single
    target := ht.target
    clause := ht.clause
    block := ht.block }

/-- Putting widgets on the fields of a tidy graph leaves it tidy. -/
theorem Tidy.dress {registry : Registry} {depth : Nat} {d d' : Bundle.Dressing} {id : NodeId}
    {ui : Members} (ht : d.graph.Tidy) (h : Bundle.dress registry depth d id ui = .ok d') :
    d'.graph.Tidy := by
  refine dress_keeps (fun ht hu => ?_) registry depth ht h
  obtain ⟨n, hn, rfl⟩ := update_widgetPatch_ok hu
  exact (ht.putNode (m := n.dressed _ _) hn rfl rfl).next

/-! ## Graphs that are read -/

/-- Nothing but warnings was noted in a document that was read. -/
theorem calm_of_outlineOf {document : Value} {cfg : DocumentConfig}
    {r : DocumentOutline × List String} (h : outlineOf document cfg = .ok r) :
    ∃ members, document = .obj members ∧ (Decompile.outline cfg.tupleItems members).Calm ∧
      r.1 = (Decompile.outline cfg.tupleItems members).value := by
  obtain ⟨members, rfl, husable, hissues, rfl⟩ := outlineOf_ok h
  refine ⟨members, rfl, fun n hn => ?_, rfl⟩
  cases n with
  | warning text => exact ⟨text, rfl⟩
  | issue text =>
    have hmem := List.mem_filterMap.2 ⟨_, hn, (rfl : ReadingNote.issue? (.issue text) = some text)⟩
    rw [hissues] at hmem
    simp at hmem
  | unusable => exact absurd hn husable

/-- The outline of a document that was read is tidy. -/
theorem tidy_of_outlineOf {document : Value} (hp : document.Proper) {cfg : DocumentConfig}
    {r : DocumentOutline × List String} (h : outlineOf document cfg = .ok r) : r.1.Tidy := by
  obtain ⟨members, rfl, hcalm, hvalue⟩ := calm_of_outlineOf h
  rw [hvalue]
  exact Decompile.tidy_outline cfg.tupleItems hp hcalm

theorem tidy_of_decompile {document : Value} {cfg : DocumentConfig} {s : IdSupply}
    {r : Imported × IdSupply} (hp : document.Proper)
    (h : (decompile document cfg).run s = .ok r) : r.1.graph.Tidy := by
  obtain ⟨outline, hout, hg, _⟩ := decompile_ok h
  rw [hg]
  exact tidy_toGraph (fits_of_outlineOf hp hout) (tidy_of_outlineOf hp hout) s.used

/-- The graph is what came of reading a document, or a bundle with any UI document in it. -/
inductive Read : Graph → Prop where
  /-- A document was read. -/
  | document {document : Value} {cfg : DocumentConfig} {s : IdSupply} {r : Imported × IdSupply}
    (proper : document.Proper) (h : (decompile document cfg).run s = .ok r) : Read r.1.graph
  /-- A bundle was read. -/
  | bundle {payload : Value} {cfg : DocumentConfig} {registry : Registry} {s : IdSupply}
    {r : ImportedBundle × IdSupply} (proper : payload.Proper)
    (h : (importBundle payload cfg registry).run s = .ok r) : Read r.1.graph

theorem Read.tidy (h : g.Read) : g.Tidy := by
  cases h with
  | document proper h => exact tidy_of_decompile proper h
  | bundle proper h =>
    obtain ⟨imported, hread, hg | ⟨depth, ui, warnings, d, hd, hg⟩⟩ := importBundle_ok h
    · rw [hg]
      exact tidy_of_decompile (proper_schema proper) hread
    · rw [hg]
      exact (tidy_of_decompile (proper_schema proper) hread).dress hd

/-- A check of a graph that was read gives what is wrong with the fields of its nodes, one node after
the other, and nothing else. -/
theorem check_eq_of_read (h : g.Read) :
    Check.graph g = List.flatten <$> g.nodes.entries.mapM fun e => Check.node e.1 e.2 :=
  h.tidy.check_eq

/-- A form with a pointer at a definition is read, and all that a check finds is that the key of the
pointer is no identifier. -/
theorem check_of_one_pointer :
    ∃ r, (decompile (.obj [("definitions", .obj [("t", .obj [("type", .str "boolean")])]),
        ("properties", .obj [("1a", .obj [("$ref", .str "#/definitions/t")])])]) {}).run {} = .ok r ∧
      Check.graph r.1.graph = .ok ["1a: key '1a' is not a valid identifier"] := by
  have hproper : (Value.obj [("definitions", .obj [("t", .obj [("type", .str "boolean")])]),
      ("properties", .obj [("1a", .obj [("$ref", .str "#/definitions/t")])])]).Proper :=
    Value.proper_of_everywhere (by decide)
  have hread := Read.document hproper (rfl : (decompile _ {}).run {} = .ok _)
  exact ⟨_, rfl, (check_eq_of_read hread).trans (by decide)⟩

end Graph

end FormGraph

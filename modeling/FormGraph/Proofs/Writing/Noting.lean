import FormGraph.Proofs.Sorted
import FormGraph.Proofs.Writing.Document
import FormGraph.Proofs.Writing.Yields

/-!
# What is noted while a document is written

Besides remarks on what is left out (`IsRemark`), only the targets of references are noted, so
whatever holds of these remarks and of all targets in a graph holds of all that is noted (`all_node`,
`all_definition`, `all_definitions`). Where every reference points at a text, what was pointed at can
always be sorted, and a graph whose root and definitions can be written can be written
(`compile_of_parts`).
-/

namespace FormGraph

namespace Compiling

variable {α β : Type} {p : CompileNote → Prop}

theorem all_pure (a : α) : (pure a : Compiling α).run.All p :=
  Noted.all_pure (Except.ok a : Except Fault α)

theorem all_throw (e : Fault) : (throw e : Compiling α).run.All p :=
  Noted.all_pure (Except.error e : Except Fault α)

theorem all_ofExcept (x : Except Fault α) : (Compiling.ofExcept x).run.All p :=
  fun _ h => by simp [Compiling.ofExcept] at h

theorem all_note {n : CompileNote} (h : p n) : (note n).run.All p := by
  intro m hm
  rwa [List.mem_singleton.1 (show m ∈ [n] from hm)]

theorem all_bind {x : Compiling α} {f : α → Compiling β} (hx : x.run.All p)
    (hf : ∀ a, x.run.value = .ok a → (f a).run.All p) : (x >>= f).run.All p := by
  have hrun : (x >>= f).run = x.run >>= fun r => (ExceptT.bindCont f r : Noted CompileNote _) := rfl
  rw [hrun, Noted.all_bind_iff]
  refine ⟨hx, ?_⟩
  cases h : x.run.value with
  | error e => exact Noted.all_pure (Except.error e : Except Fault β)
  | ok a => exact hf a h

theorem all_listen {x : Compiling α} (hx : x.run.All p) : x.listen.run.All p := hx

theorem all_mapM {f : α → Compiling β} {as : List α} (h : ∀ a ∈ as, (f a).run.All p) :
    (as.mapM f).run.All p := by
  induction as with
  | nil =>
    rw [List.mapM_nil]
    exact all_pure _
  | cons a as ih =>
    rw [List.mapM_cons]
    exact all_bind (h a List.mem_cons_self) fun b _ =>
      all_bind (ih fun x hx => h x (List.mem_cons_of_mem _ hx)) fun bs _ => all_pure _

theorem all_foldlM {f : β → α → Compiling β} {as : List α} (h : ∀ b, ∀ a ∈ as, (f b a).run.All p)
    (b : β) : (as.foldlM f b).run.All p := by
  induction as generalizing b with
  | nil =>
    rw [List.foldlM_nil]
    exact all_pure _
  | cons a as ih =>
    rw [List.foldlM_cons]
    exact all_bind (h b a List.mem_cons_self) fun c _ =>
      ih (fun b x hx => h b x (List.mem_cons_of_mem _ hx)) c

theorem all_forIn {f : α → PUnit → Compiling (ForInStep PUnit)} {as : List α}
    (h : ∀ a ∈ as, (f a ⟨⟩).run.All p) : (forIn as PUnit.unit f).run.All p := by
  induction as with
  | nil =>
    rw [List.forIn_nil]
    exact all_pure _
  | cons a as ih =>
    rw [List.forIn_cons]
    refine all_bind (h a List.mem_cons_self) fun step _ => ?_
    cases step with
    | done _ => exact all_pure _
    | yield _ => exact ih fun x hx => h x (List.mem_cons_of_mem _ hx)

end Compiling

theorem Value.str?_eq_some_iff {v : Value} {s : String} : v.str? = some s ↔ v = .str s := by
  cases v <;> simp [str?]

/-- Among the values that say different things, the texts of the given ones are there once. -/
theorem Value.distinct_texts (vs : List Value) :
    ((distinct vs).filterMap str?).Nodup ∧
      ∀ s, s ∈ (distinct vs).filterMap str? ↔ .str s ∈ vs := by
  obtain ⟨hdistinct, hsub, hall⟩ := distinct_ok vs
  constructor
  · refine hdistinct.filterMap str? fun v w hne s hs t ht => ?_
    rintro rfl
    rw [str?_eq_some_iff.1 hs, str?_eq_some_iff.1 ht, str_same.2 rfl] at hne
    cases hne
  · intro s
    have hmem : s ∈ (distinct vs).filterMap str? ↔ .str s ∈ distinct vs := by
      simp only [List.mem_filterMap, str?_eq_some_iff, exists_eq_right]
    rw [hmem]
    refine ⟨hsub _, fun hs => ?_⟩
    rcases hall _ hs with hs | ⟨w, hw, hsame⟩
    · exact hs
    · exact str_same.1 hsame ▸ hw

namespace Compile

open Graph Compiling

/-- What is remarked on while nodes are written. -/
inductive IsRemark : String → Prop where
  /-- A branch of a group is left out, -/
  | unused (branch group : String) : IsRemark ("Branch '" ++ branch ++ "' of '" ++ group ++
      "' is not used by any clause and is left out of the document")
  /-- a branch of a clause is missing, -/
  | missing (id : NodeId) : IsRemark ("Clause branch points at missing node '" ++ id ++ "'")
  /-- or what was kept of an `allOf` list cannot be joined to the groups. -/
  | dropped (key : String) : IsRemark ("Object '" ++ key ++
      "': allOf extra is not a list and is dropped")

variable {g : Graph} {cfg : DocumentConfig} {p : CompileNote → Prop}
  {below : NodeId → Node NodeId → Compiling Value}

section Below

variable (hwarning : ∀ text, IsRemark text → p (.warning text))
  (hbelow : ∀ x m, g.node? x = some m → (below x m).run.All p)

include hwarning

theorem all_noteUnused (id : NodeId) (n : Node NodeId) : (noteUnused g id n).run.All p := by
  unfold noteUnused
  refine all_bind (all_forIn fun e _ => ?_) fun _ _ => all_pure _
  exact all_bind (all_ofExcept _) fun _ _ => all_bind (all_note (hwarning _ (.unused _ _)))
    fun _ _ => all_pure _

theorem all_groupList (n : Node NodeId) (groups : List Value) :
    (groupList n groups).run.All p := by
  unfold groupList
  split
  · exact all_pure _
  · split
    · exact all_pure _
    · exact all_bind (all_note (hwarning _ (.dropped _))) fun _ _ => all_pure _

include hbelow

theorem all_branch (id : NodeId) : (branch g below id).run.All p := by
  unfold branch
  cases hn : g.node? id with
  | none => exact all_bind (all_note (hwarning _ (.missing _))) fun _ _ => all_pure _
  | some n =>
    refine all_bind (hbelow id n hn) fun v _ => ?_
    split
    · exact all_pure _
    · exact all_pure _

theorem all_branchUnder (keyword : String) (target : Option NodeId) :
    (branchUnder g below keyword target).run.All p := by
  cases target with
  | none => exact all_pure _
  | some t => exact all_bind (all_branch hwarning hbelow t) fun _ _ => all_pure _

theorem all_clause (kind : GroupKind) (c : Clause NodeId) :
    (clause g cfg below kind c).run.All p :=
  all_bind (all_ofExcept _) fun _ _ => all_bind (all_branchUnder hwarning hbelow _ _) fun _ _ =>
    all_bind (all_branchUnder hwarning hbelow _ _) fun _ _ => all_pure _

theorem all_ifBlock (cs : List (Clause NodeId)) : (ifBlock g below cs).run.All p := by
  cases cs with
  | nil => exact all_pure _
  | cons c cs =>
    exact all_bind (all_ofExcept _) fun _ _ => all_bind (all_branchUnder hwarning hbelow _ _)
      fun _ _ => all_bind (all_branchUnder hwarning hbelow _ _) fun _ _ => all_pure _

theorem all_group (id : NodeId) (n : Node NodeId) (kind : GroupKind) (cs : List (Clause NodeId)) :
    (group g cfg below id n kind cs).run.All p := by
  unfold group
  refine all_bind (all_noteUnused hwarning id n) fun _ _ => ?_
  cases kind with
  | ifBlock => exact all_bind (all_ifBlock hwarning hbelow cs) fun _ _ => all_pure _
  | allOf | anyOf | oneOf =>
    exact all_bind (all_mapM fun c _ => all_clause hwarning hbelow _ c) fun _ _ =>
      all_bind (all_pure _) fun _ _ => all_pure _

theorem all_objectBody (id : NodeId) (n : Node NodeId) : (objectBody g below id n).run.All p := by
  unfold objectBody
  refine all_bind (all_ofExcept _) fun cs hcs => ?_
  refine all_bind (all_foldlM (fun parts c hc => ?_) _) fun parts _ =>
    all_bind (all_groupList hwarning n _) fun _ _ => all_pure _
  have hnode : g.node? c.1 = some c.2 := (children_ok (show g.children id = .ok cs from hcs)).2 c hc
  unfold objectChild
  refine all_bind (hbelow _ _ hnode) fun v _ => ?_
  split
  · exact all_pure _
  · exact all_pure _

omit hwarning in
theorem all_arrayBody (id : NodeId) : (arrayBody g below id).run.All p := by
  unfold arrayBody
  split
  · exact all_pure _
  · refine all_bind (all_ofExcept _) fun n hn => ?_
    exact all_bind (hbelow _ n (pointedAt_eq_ok_iff.1 hn)) fun _ _ => all_pure _

theorem all_fragment {id : NodeId} {n : Node NodeId}
    (htarget : ∀ t, n.target? = some t → t.isLookup = true → p (.reference t)) :
    (fragment g cfg below id n).run.All p := by
  unfold fragment
  cases hb : n.body with
  | group kind cs => exact all_group hwarning hbelow id n kind cs
  | reference target =>
    dsimp only
    split_ifs with hlookup
    · exact all_bind (all_throw _) fun _ h => by cases h
    · have hp : p (.reference target) :=
        htarget target (by rw [Node.target?, hb]) (by simpa using hlookup)
      exact all_bind (all_note hp) fun _ _ => all_pure _
  | object a => exact all_bind (all_objectBody hwarning hbelow id n) fun _ _ => all_pure _
  | array a => exact all_bind (all_arrayBody hbelow id) fun _ _ => all_pure _
  | string _ | number _ | boolean | enum _ | definition _ =>
    exact all_bind (all_pure _) fun _ _ => all_pure _

end Below

section Parts

variable (hwarning : ∀ text, IsRemark text → p (.warning text))
  (htarget : ∀ id n t, g.node? id = some n → n.target? = some t → t.isLookup = true →
    p (.reference t))

include hwarning htarget

/-- What is true of all remarks and of all targets in the graph that can be looked up by is true of
all that is noted while a node is written. -/
theorem all_node (d : Nat) : ∀ id n, g.node? id = some n → (node g cfg d id n).run.All p := by
  induction d with
  | zero => exact fun _ _ _ => all_throw _
  | succ d ih => exact fun id n hn => all_fragment hwarning ih fun t ht => htarget id n t hn ht

theorem all_definition (name : String) : (definition g cfg name).run.All p := by
  unfold definition
  refine all_bind (all_ofExcept _) fun content hcontent => ?_
  cases content with
  | none => exact all_pure _
  | some c =>
    obtain ⟨id, n⟩ := c
    exact all_node hwarning htarget _ id n
      (content_ok (show g.content name = .ok (some (id, n)) from hcontent)).2

end Parts

/-- What is true of all that is noted while a definition is written is true of all that is noted
while those that wait are. -/
theorem all_definitions (h : ∀ name, (definition g cfg name).run.All p) (steps : Nat) :
    ∀ (pointedAt : List Value) (written : Members) (waiting : List String),
      (definitions g cfg steps pointedAt written waiting).run.All p := by
  induction steps with
  | zero => exact fun _ _ _ => all_pure _
  | succ steps ih =>
    intro pointedAt written waiting
    cases waiting with
    | nil => exact all_pure _
    | cons name waiting =>
      unfold definitions
      split
      · exact ih _ _ _
      · exact all_bind (all_listen (h name)) fun _ _ => all_bind (all_ofExcept _) fun _ _ =>
          ih _ _ _

/-- What is true of all that is noted while the root is written and while definitions are is true of
all that is noted while the document is. -/
theorem all_document
    (hroot : ∀ n, g.root = .ok n → (node g cfg (depth g) g.rootId n).run.All p)
    (h : ∀ name, (definition g cfg name).run.All p) : (document g cfg).run.All p := by
  unfold document
  exact all_bind (all_ofExcept _) fun n hn => all_bind (all_listen (hroot n hn)) fun _ _ =>
    all_bind (all_definitions h _ _ _ _) fun _ _ => all_pure _

/-! ## Sorting what was pointed at -/

/-- The note is no pointer at anything but a text. -/
def IsTextual (n : CompileNote) : Prop := ∀ t, n.reference? = some t → ∃ text, t = .str text

/-- What was pointed at can be sorted where it is texts. -/
theorem sortedTargets_of_textual {notes : List CompileNote} (h : ∀ n ∈ notes, IsTextual n)
    (q : Value → Bool) :
    ∃ sorted, sortedTargets ((notes.filterMap CompileNote.reference?).filter q) = .ok sorted := by
  have htexts : ∀ t ∈ (notes.filterMap CompileNote.reference?).filter q, ∃ text, t = .str text := by
    intro t ht
    obtain ⟨n, hn, heq⟩ := List.mem_filterMap.1 (List.mem_filter.1 ht).1
    exact h n hn t heq
  rw [← map_filterMap_str htexts]
  obtain ⟨sorted, hsorted, _⟩ := Value.ascending?_strings
    (((notes.filterMap CompileNote.reference?).filter q).filterMap Value.str?)
  exact ⟨_, by rw [sortedTargets, hsorted]; rfl⟩

/-- What was sorted are the targets, and no text is there twice. -/
theorem sortedTargets_ok {targets sorted : List Value} (h : sortedTargets targets = .ok sorted) :
    (sorted.filterMap Value.str?).Nodup ∧
      ∀ s, s ∈ sorted.filterMap Value.str? ↔ .str s ∈ targets := by
  have hsorted := orBreakDown_eq_ok_iff.1 h
  unfold Value.ascending? at hsorted
  dsimp only at hsorted
  split_ifs at hsorted
  obtain rfl := Option.some.inj hsorted
  obtain ⟨hnodup, hmem⟩ := Value.distinct_texts targets
  have hperm := (List.mergeSort_perm (Value.distinct targets)
    fun a b => (a.le? b).getD false).filterMap Value.str?
  exact ⟨hperm.nodup_iff.2 hnodup, fun s => hperm.mem_iff.trans (hmem s)⟩

/-- The loop over the waiting definitions comes to an end where each that can come up can be written,
and they point at texts only. -/
theorem definitions_isOk {comesUp : String → Prop}
    (hwrite : ∀ name, comesUp name → ∃ v, (definition g cfg name).run.value = .ok v)
    (hfollow : ∀ name, comesUp name → ∀ r, .str r ∈ (definition g cfg name).references → comesUp r)
    (htext : ∀ name, (definition g cfg name).run.All IsTextual) (steps : Nat) :
    ∀ (pointedAt : List Value) (written : Members) (waiting : List String),
      (∀ name ∈ waiting, comesUp name) →
      ∃ result, (definitions g cfg steps pointedAt written waiting).run.value = .ok result := by
  induction steps with
  | zero => exact fun _ _ _ _ => ⟨_, rfl⟩
  | succ steps ih =>
    intro pointedAt written waiting hwaiting
    cases waiting with
    | nil => exact ⟨_, rfl⟩
    | cons name waiting =>
      obtain ⟨hname, hwaiting⟩ := List.forall_mem_cons.1 hwaiting
      unfold definitions
      split
      · exact ih _ _ _ hwaiting
      · obtain ⟨v, hv⟩ := hwrite name hname
        have hlisten : (definition g cfg name).listen.run.value =
            .ok (v, (definition g cfg name).run.notes) := value_listen_eq_ok_iff.2 ⟨hv, rfl⟩
        obtain ⟨new, hnew⟩ := sortedTargets_of_textual (htext name) fun target =>
          !pointedAt.any target.same && !target.str?.any (Entries.has (Entries.put written name v))
        have hjoined : ∀ r ∈ waiting ++ new.filterMap Value.str?, comesUp r := by
          intro r hr
          rcases List.mem_append.1 hr with hr | hr
          · exact hwaiting r hr
          · have htarget := ((sortedTargets_ok hnew).2 r).1 hr
            exact hfollow name hname r (List.mem_filter.1 htarget).1
        obtain ⟨result, hresult⟩ := ih
          (pointedAt ++ (definition g cfg name).run.notes.filterMap CompileNote.reference?)
          (Entries.put written name v) (waiting ++ new.filterMap Value.str?) hjoined
        exact ⟨result, value_bind_eq_ok_iff.2 ⟨_, hlisten, value_bind_eq_ok_iff.2
          ⟨new, hnew, hresult⟩⟩⟩

end Compile

namespace Graph

variable {g : Graph} {cfg : DocumentConfig}

/-- Every reference points at a text. -/
def PointsAtTexts (g : Graph) : Prop :=
  ∀ (id : NodeId) (n : Node NodeId) (t : Value), g.node? id = some n → n.target? = some t →
    ∃ text, t = .str text

instance (g : Graph) : Decidable g.PointsAtTexts :=
  decidable_of_iff (∀ id ∈ g.nodes.names, ∀ n ∈ g.node? id, ∀ t ∈ n.target?, t.isStr = true) <| by
    constructor
    · intro h id n t hn ht
      have hstr := h id (Table.mem_names_iff.2 (by rw [show g.nodes.find? id = some n from hn]; rfl))
        n hn t ht
      cases t with
      | str text => exact ⟨text, rfl⟩
      | null | bool | int | float | list | obj => cases hstr
    · rintro h id - n hn t ht
      obtain ⟨text, rfl⟩ := h id n t hn ht
      rfl

open Compile Compiling

/-- A graph whose references point at texts can be written when its root can and the definitions that
come up: those that the writing begins with, and those that they point at. -/
theorem compile_of_closed (comesUp : String → Prop) (ht : g.PointsAtTexts) {rootNode : Node NodeId}
    (hroot : g.node? g.rootId = some rootNode) {v : Value}
    (hv : (node g cfg (depth g) g.rootId rootNode).run.value = .ok v)
    (hstart : ∀ name ∈ g.definitions.names, cfg.emitUnreferenced = true ∨
      .str name ∈ (node g cfg (depth g) g.rootId rootNode).references → comesUp name)
    (hwrite : ∀ name, comesUp name → ∃ v, (definition g cfg name).run.value = .ok v)
    (hfollow : ∀ name, comesUp name → ∀ r, .str r ∈ (definition g cfg name).references →
      comesUp r) : ∃ r, g.compile cfg = .ok r := by
  have htextual : ∀ id n t, g.node? id = some n → n.target? = some t → t.isLookup = true →
      IsTextual (.reference t) := by
    intro id n t hn hm _ u hu
    obtain rfl : t = u := Option.some.inj hu
    exact ht id n t hn hm
  have hwarning : ∀ text, IsRemark text → IsTextual (.warning text) := fun text _ t h => by
    simp [CompileNote.reference?] at h
  have htext : ∀ name, (definition g cfg name).run.All IsTextual := all_definition hwarning htextual
  have hrootText : (node g cfg (depth g) g.rootId rootNode).run.All IsTextual :=
    all_node hwarning htextual (depth g) _ _ hroot
  have hlisten : (node g cfg (depth g) g.rootId rootNode).listen.run.value =
      .ok (v, (node g cfg (depth g) g.rootId rootNode).run.notes) :=
    value_listen_eq_ok_iff.2 ⟨hv, rfl⟩
  obtain ⟨written, hwritten⟩ := definitions_isOk hwrite hfollow htext
    (g.definitions.size + g.nodes.size + 1)
    (node g cfg (depth g) g.rootId rootNode).references []
    (g.definitions.names.filter fun n => cfg.emitUnreferenced ||
      (node g cfg (depth g) g.rootId rootNode).references.contains (.str n))
    fun name hname => by
      rw [List.mem_filter, Bool.or_eq_true, List.contains_iff_mem] at hname
      exact hstart name hname.1 hname.2
  obtain ⟨doc, hdoc⟩ : ∃ doc, (document g cfg).run.value = .ok doc := by
    unfold document
    exact ⟨_, value_bind_eq_ok_iff.2 ⟨rootNode, pointedAt_eq_ok_iff.2 hroot,
      value_bind_eq_ok_iff.2 ⟨_, hlisten, value_bind_eq_ok_iff.2 ⟨written, hwritten, rfl⟩⟩⟩⟩
  have hall : (document g cfg).run.All IsTextual := by
    refine all_document (fun n hn => ?_) htext
    rw [Option.some.inj ((pointedAt_eq_ok_iff.1 hn).symm.trans hroot)]
    exact hrootText
  obtain ⟨missing, hmissing⟩ := sortedTargets_of_textual hall fun target =>
    !target.str?.any g.definitions.has
  unfold Graph.compile
  dsimp only
  rw [hdoc, hmissing]
  exact ⟨_, rfl⟩

/-- A graph whose references point at texts can be written when its root and its definitions can. -/
theorem compile_of_parts (ht : g.PointsAtTexts) {rootNode : Node NodeId}
    (hroot : g.node? g.rootId = some rootNode) {v : Value}
    (hv : (node g cfg (depth g) g.rootId rootNode).run.value = .ok v)
    (hwrite : ∀ name, ∃ v, (definition g cfg name).run.value = .ok v) :
    ∃ r, g.compile cfg = .ok r :=
  compile_of_closed (fun _ => True) ht hroot hv (fun _ _ _ => trivial)
    (fun name _ => hwrite name) fun _ _ _ _ => trivial

end Graph

end FormGraph

import FormGraph.Proofs.Writing.Members
import FormGraph.Proofs.Writing.Replacing

/-!
# The table of definitions in a document

A definition added at the end of the table and left out again leaves the document as it was
(`withoutDefinition_withTable`), unless the root was written with a member of the table's name while
there were no definitions: then the table takes the place of that member.
-/

namespace FormGraph

namespace Value

/-- The definition of a name in a document. -/
def definition? (document : Value) (name : String) : Option Value := do
  let table ← Entries.find? (document.obj?.getD []) Compile.definitionsKeyword
  Entries.find? (table.obj?.getD []) name

/-- The document without a definition; without the table if nothing else is in it. -/
def withoutDefinition (name : String) (document : Value) : Value :=
  let members := document.obj?.getD []
  match Entries.find? members Compile.definitionsKeyword with
  | some (.obj table) =>
    .obj (match Entries.erase table name with
      | [] => Entries.erase members Compile.definitionsKeyword
      | rest => Entries.put members Compile.definitionsKeyword (.obj rest))
  | _ => document

end Value

namespace Entries

variable {α : Type}

theorem put_put (es : List (String × α)) (name : String) (v w : α) :
    put (put es name v) name w = put es name w := by
  induction es with
  | nil => simp [put]
  | cons e es ih =>
    obtain ⟨n, u⟩ := e
    by_cases h : n = name
    · simp [put, h]
    · simp only [put, if_neg h, ih]

theorem erase_of_not_mem {es : List (String × α)} {name : String} (h : name ∉ names es) :
    erase es name = es :=
  List.filter_eq_self.2 fun _ he => decide_eq_true fun heq => h (heq ▸ List.mem_map_of_mem he)

/-- Removing an entry that was added at the end. -/
theorem erase_append_self {es : List (String × α)} {name : String} (h : name ∉ names es) (v : α) :
    erase (es ++ [(name, v)]) name = es := by
  have hes := erase_of_not_mem h
  unfold erase at hes ⊢
  rw [List.filter_append, hes, List.filter_cons_of_neg (by simp), List.filter_nil, List.append_nil]

end Entries

namespace Compile

open Compiling

/-- Dropping the definition that is last in the table. -/
theorem withoutDefinition_withTable {root v : Value} {table : Members} {name : String}
    (hname : name ∉ Entries.names table)
    (hroot : table = [] → Entries.find? (root.obj?.getD []) definitionsKeyword = none) :
    (withTable root (table ++ [(name, v)])).withoutDefinition name = withTable root table := by
  have hsome : (table ++ [(name, v)]).isEmpty = false := by
    cases table <;> rfl
  unfold withTable
  rw [hsome]
  generalize root.obj?.getD [] = members at hroot
  have hfound := Entries.find?_put members definitionsKeyword (.obj (table ++ [(name, v)]))
    definitionsKeyword
  rw [if_pos rfl] at hfound
  show (match Entries.find? (Entries.put members definitionsKeyword
      (.obj (table ++ [(name, v)]))) definitionsKeyword with
    | some (.obj table) => _
    | _ => _) = _
  rw [hfound]
  dsimp only
  rw [Entries.erase_append_self hname]
  cases table with
  | nil =>
    have hfree := Entries.find?_eq_none_iff.1 (hroot rfl)
    rw [Entries.put_of_not_mem hfree]
    exact congrArg Value.obj (Entries.erase_append_self hfree _)
  | cons entry table => exact congrArg Value.obj (Entries.put_put _ _ _ _)

theorem definition?_withTable {root v : Value} {table : Members} {name : String}
    (hname : name ∉ Entries.names table) :
    (withTable root (table ++ [(name, v)])).definition? name = some v := by
  have hsome : (table ++ [(name, v)]).isEmpty = false := by
    cases table <;> rfl
  unfold withTable Value.definition?
  rw [hsome]
  simp only [Bool.false_eq_true, if_false, Value.obj?, Option.getD_some, Entries.find?_put, if_true]
  show Entries.find? (table ++ [(name, v)]) name = some v
  rw [Entries.find?_append, Entries.find?_eq_none_iff.2 hname, Entries.find?_cons, if_pos rfl]
  rfl

theorem names_groupList {n : Node NodeId} {groups : List Value} {ms : Members}
    (h : (groupList n groups).run.value = .ok ms) : Entries.names ms ⊆ ["allOf"] := by
  unfold groupList at h
  split at h
  · obtain rfl := value_pure_eq_ok_iff.1 h
    simp [Entries.names]
  · split at h
    · obtain rfl := value_pure_eq_ok_iff.1 h
      simp [Entries.names]
    · obtain ⟨_, _, h⟩ := value_bind_eq_ok_iff.1 h
      obtain rfl := value_pure_eq_ok_iff.1 h
      simp [Entries.names]

theorem names_objectBody {g : Graph} {below : NodeId → Node NodeId → Compiling Value}
    {id : NodeId} {n : Node NodeId} {ms : Members}
    (h : (objectBody g below id n).run.value = .ok ms) :
    Entries.names ms ⊆ ["properties", "required", "allOf"] := by
  unfold objectBody at h
  obtain ⟨_, _, h⟩ := value_bind_eq_ok_iff.1 h
  obtain ⟨parts, _, h⟩ := value_bind_eq_ok_iff.1 h
  obtain ⟨groups, hgroups, h⟩ := value_bind_eq_ok_iff.1 h
  obtain rfl := value_pure_eq_ok_iff.1 h
  intro k hk
  have hgroup := @names_groupList _ _ _ hgroups k
  rw [Entries.names, List.map_append, List.map_append, List.mem_append, List.mem_append] at hk
  rcases hk with (hk | hk) | hk
  · split_ifs at hk <;> simp at hk
    simp [hk]
  · split_ifs at hk <;> simp at hk
    simp [hk]
  · have := hgroup hk
    simp only [List.mem_singleton] at this
    simp [this]

/-- Under a name that is none of an object's own keywords stands what hangs below the object, or else
what was kept of what was read. -/
theorem find?_node_of_object {g : Graph} {cfg : DocumentConfig} {d : Nat} {id : NodeId}
    {n : Node NodeId} {v : Value} (hk : n.kind = .object) {name : String}
    (hname : name ∉ ["type", "title", "description", "default"])
    (hvocabulary : name ∉ Body.vocabulary .object)
    (hv : (node g cfg d id n).run.value = .ok v) :
    ∃ below contents, (objectBody g below id n).run.value = .ok contents ∧
      Entries.find? (v.obj?.getD []) name =
        (Entries.find? contents.reverse name).or (Entries.find? n.extras name) := by
  cases d with
  | zero => simp [node, throw, throwThe, MonadExceptOf.throw] at hv
  | succ d =>
    cases hb : n.body with
    | object a =>
      rw [node] at hv
      unfold fragment at hv
      rw [hb] at hv
      obtain ⟨contents, hcontents, hv⟩ := value_bind_eq_ok_iff.1 hv
      obtain rfl := value_pure_eq_ok_iff.1 hv
      refine ⟨_, contents, hcontents, ?_⟩
      show Entries.find? (withExtras n _) name = _
      simp only [List.mem_cons, List.not_mem_nil, or_false, not_or] at hname
      have htype : Entries.find? (if n.kind.isTyped then [("type", Value.str n.kind.name)] else [])
          name = none := by
        split_ifs
        · rw [Entries.find?_cons, if_neg (Ne.symm hname.1), Entries.find?_nil]
        · rfl
      have hown : Entries.find? (Entries.putAll
          ((if n.kind.isTyped then [("type", Value.str n.kind.name)] else []) ++ annotations n)
          (Body.object a : Body NodeId).keywords) name = none := by
        rw [Entries.find?_eq_none_iff]
        intro hmem
        rcases Entries.names_putAll_subset hmem with hmem | hmem
        · refine Entries.find?_eq_none_iff.1 ?_ hmem
          rw [Entries.find?_append, htype, Option.none_or, find?_annotations,
            if_neg (Ne.symm hname.2.1), if_neg (Ne.symm hname.2.2.1), if_neg (Ne.symm hname.2.2.2)]
        · exact Entries.find?_eq_none_iff.1
            (Body.find?_keywords_eq_none (.object a : Body NodeId) hvocabulary) hmem
      rw [find?_withExtras, Entries.find?_putAll, hown, Option.or_none]
    | string _ | number _ | boolean | enum _ | array _ | group _ _ | definition _ | reference _ =>
      rw [Node.kind, hb] at hk
      cases hk

/-- An object is written without a table of definitions unless one was kept of what was read. -/
theorem find?_definitions_node {g : Graph} {cfg : DocumentConfig} {d : Nat} {id : NodeId}
    {n : Node NodeId} {v : Value} (hk : n.kind = .object)
    (hextras : Entries.find? n.extras definitionsKeyword = none)
    (hv : (node g cfg d id n).run.value = .ok v) :
    Entries.find? (v.obj?.getD []) definitionsKeyword = none := by
  obtain ⟨below, contents, hcontents, hfind⟩ :=
    find?_node_of_object hk
      (show definitionsKeyword ∉ ["type", "title", "description", "default"] by decide)
      (by decide) hv
  rw [hfind, hextras, Option.or_none, Entries.find?_eq_none_iff, Entries.names, List.map_reverse,
    List.mem_reverse]
  exact fun hmem => absurd (names_objectBody hcontents hmem) (by decide)

end Compile

end FormGraph

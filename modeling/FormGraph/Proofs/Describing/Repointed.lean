import FormGraph.Proofs.Describing.Renamed

/-!
# Signatures under other names of definitions

The names of definitions occur in a signature as the names in its table and where references point.
`Signature.renamed` gives a described node, and everything that is described below it, other names for
what its references point at, and leaves the rest alone: the parts of a description below which no
node is described, such as a default or a condition, and the attributes of everything that is no
reference. `Signature.renamedDocument` does it to the table as well.

A graph in which the same nodes point elsewhere has the signature of the other under these names
(`Repointed.signature`), unless the signature shows a node that the two do not agree on.
-/

namespace FormGraph

/-! ## References under other names -/

/-- A name under another name; what is no text is none. -/
def Value.mapName (ρ : String → String) : Value → Value
  | .str name => .str (ρ name)
  | v => v

theorem Value.mapName_id (v : Value) : v.mapName id = v := by
  cases v <;> rfl

theorem Value.mapName_mapName (ρ σ : String → String) (v : Value) :
    (v.mapName ρ).mapName σ = v.mapName (σ ∘ ρ) := by
  cases v <;> rfl

/-- A reference points at the other name of its target. -/
def Body.repointed {τ : Type} (ρ : String → String) : Body τ → Body τ
  | .reference target => .reference (target.mapName ρ)
  | b => b

/-- A reference points at the other name of its target. -/
def Node.repointed {τ : Type} (ρ : String → String) (n : Node τ) : Node τ :=
  { n with body := n.body.repointed ρ }

namespace Node

variable {τ : Type} (ρ σ : String → String) (n : Node τ)

@[simp] theorem kind_repointed : (n.repointed ρ).kind = n.kind := by
  rw [kind, repointed, kind]
  cases n.body <;> rfl

@[simp] theorem clauses_repointed : (n.repointed ρ).clauses = n.clauses := by
  rw [clauses, repointed, clauses]
  cases n.body <;> rfl

theorem target?_repointed : (n.repointed ρ).target? = n.target?.map (Value.mapName ρ) := by
  rw [target?, repointed, target?]
  cases n.body <;> rfl

theorem repointed_repointed : (n.repointed ρ).repointed σ = n.repointed (σ ∘ ρ) := by
  obtain ⟨_, body, _, _, _, _, _, _, _⟩ := n
  cases body with
  | reference target => simp only [repointed, Body.repointed, Value.mapName_mapName]
  | string | number | boolean | enum | object | array | definition | group => rfl

/-- Names that agree on what a node points at make the same of it. -/
theorem repointed_congr {n : Node τ} {ρ σ : String → String}
    (h : ∀ name, n.target? = some (.str name) → ρ name = σ name) :
    n.repointed ρ = n.repointed σ := by
  obtain ⟨_, body, _, _, _, _, _, _, _⟩ := n
  cases body with
  | reference target =>
    cases target with
    | str name => simp only [repointed, Body.repointed, Value.mapName, h name rfl]
    | null | bool | int | float | list | obj => rfl
  | string | number | boolean | enum | object | array | definition | group => rfl

end Node

namespace Signature

/-! ## Described references under other names -/

/-- The parts of a description in which nodes are described. -/
def describing : List String := ["children", "conditionals", "clauses", "then", "else"]

/-- Whether a description is that of a reference. -/
def isReference (members : Members) : Bool :=
  Entries.find? members "kind" = some (.str NodeKind.reference.name)

/-- The attributes of a described reference, its target under another name. -/
def renamedTarget (ρ : String → String) : Value → Value
  | .obj rows => .obj (rows.map fun r => if r.1 = "target" then (r.1, r.2.mapName ρ) else r)
  | v => v

mutual

/-- Described nodes whose references point at other names. -/
def renamed (ρ : String → String) : Value → Value
  | .obj members => .obj (renamedMembers ρ (isReference members) members)
  | .list items => .list (renamedItems ρ items)
  | v => v

/-- The parts of a description, that of a reference or not, under other names. -/
def renamedMembers (ρ : String → String) (reference : Bool) : List (String × Value) → Members
  | [] => []
  | (name, v) :: members =>
    (name,
      if name ∈ describing then renamed ρ v
      else if name = "attrs" ∧ reference = true then renamedTarget ρ v
      else v) :: renamedMembers ρ reference members

/-- Several described nodes whose references point at other names. -/
def renamedItems (ρ : String → String) : List Value → List Value
  | [] => []
  | v :: items => renamed ρ v :: renamedItems ρ items

end

/-- A signature with other names for the definitions, in the table and where references point. -/
def renamedDocument (ρ : String → String) : Value → Value
  | .obj [(top, root), (table, .obj definitions)] =>
    .obj [(top, renamed ρ root), (table, .obj
      ((definitions.map fun d => (ρ d.1, renamed ρ d.2)).mergeSort fun a b => a.1 ≤ b.1))]
  | v => v

variable {ρ : String → String} {reference : Bool}

theorem renamedItems_eq (items : List Value) : renamedItems ρ items = items.map (renamed ρ) := by
  induction items with
  | nil => rfl
  | cons v items ih => rw [renamedItems, ih, List.map_cons]

theorem renamedMembers_append (ms ns : Members) : renamedMembers ρ reference (ms ++ ns) =
    renamedMembers ρ reference ms ++ renamedMembers ρ reference ns := by
  induction ms with
  | nil => rfl
  | cons m ms ih => rw [List.cons_append, renamedMembers, ih, renamedMembers, List.cons_append]

/-- Parts in which no node is described, and which are no attributes, stay as they are. -/
theorem renamedMembers_eq_self {ms : Members} (h : ∀ m ∈ ms, m.1 ∉ "attrs" :: describing) :
    renamedMembers ρ reference ms = ms := by
  induction ms with
  | nil => rfl
  | cons m ms ih =>
    obtain ⟨hm, hms⟩ := List.forall_mem_cons.1 h
    rw [List.mem_cons, not_or] at hm
    rw [renamedMembers, if_neg hm.2, if_neg fun ha => hm.1 ha.1, ih hms]

theorem renamedTarget_id (v : Value) : renamedTarget id v = v := by
  cases v with
  | obj rows =>
    refine congrArg Value.obj ((List.map_congr_left fun r _ => ?_).trans (List.map_id rows))
    rw [Value.mapName_id, ite_self]
    rfl
  | null | bool | int | float | str | list => rfl

mutual

theorem renamed_id : ∀ v : Value, renamed id v = v
  | .obj members => congrArg Value.obj (renamedMembers_id _ members)
  | .list items => congrArg Value.list (renamedItems_id items)
  | .null | .bool _ | .int _ | .float _ | .str _ => rfl

theorem renamedMembers_id (reference : Bool) :
    ∀ members : Members, renamedMembers id reference members = members
  | [] => rfl
  | (name, v) :: members => by
    rw [renamedMembers, renamed_id v, renamedTarget_id v, ite_self, ite_self,
      renamedMembers_id reference members]

theorem renamedItems_id : ∀ items : List Value, renamedItems id items = items
  | [] => rfl
  | v :: items => by rw [renamedItems, renamed_id v, renamedItems_id items]

end

end Signature

/-! ## Steps that may fail -/

theorem mapM_eq_map_of_mem {α β γ : Type} {f : α → Except Fault β} {f' : α → Except Fault γ}
    {h : β → γ} {as : List α} (hf : ∀ a ∈ as, f' a = (f a).map h) :
    as.mapM f' = (as.mapM f).map (List.map h) := by
  induction as with
  | nil => rfl
  | cons a as ih =>
    rw [List.mapM_cons, List.mapM_cons, hf a List.mem_cons_self,
      ih fun b hb => hf b (List.mem_cons_of_mem _ hb)]
    cases f a with
    | error e => rfl
    | ok b => cases as.mapM f <;> rfl

namespace Graph

variable {g g' g'' : Graph} {ρ σ : String → String} {d : NodeId}

/-- The nodes of `g'` are those of `g`, but that references point at other names; on one node they
need not agree. -/
structure Repointed (ρ : String → String) (d : NodeId) (g g' : Graph) : Prop where
  /-- The other nodes differ only in where they point. -/
  node : ∀ {id}, id ≠ d → g'.node? id = (g.node? id).map (Node.repointed ρ)
  /-- The same names are taken, in the same order. -/
  names : g'.nodes.names = g.nodes.names
  /-- The same children hang below a node. -/
  childIds : ∀ id, g'.childIds id = g.childIds id
  /-- The definitions have other names. -/
  definitions : g'.definitions.entries.Perm (g.definitions.entries.map fun e => (ρ e.1, e.2))
  /-- The root is the same. -/
  rootId : g'.rootId = g.rootId

theorem Repointed.trans (h : Repointed ρ d g g') (h' : Repointed σ d g' g'') :
    Repointed (σ ∘ ρ) d g g'' where
  node hid := by
    rw [h'.node hid, h.node hid, Option.map_map]
    exact congrArg₂ Option.map (funext fun n => n.repointed_repointed ρ σ) rfl
  names := h'.names.trans h.names
  childIds id := (h'.childIds id).trans (h.childIds id)
  definitions := by
    refine h'.definitions.trans ((h.definitions.map _).trans ?_)
    rw [List.map_map]
    exact .refl _
  rootId := h'.rootId.trans h.rootId

/-- Only the names that definitions have and that references point at count. -/
theorem Repointed.congr (h : Repointed ρ d g g')
    (htarget : ∀ {id n name}, g.node? id = some n → n.target? = some (.str name) → ρ name = σ name)
    (hdefinition : ∀ e ∈ g.definitions.entries, ρ e.1 = σ e.1) : Repointed σ d g g' where
  node {id} hid := by
    rw [h.node hid]
    cases hn : g.node? id with
    | none => rfl
    | some n => exact congrArg some (Node.repointed_congr fun name => htarget hn)
  names := h.names
  childIds := h.childIds
  definitions := by
    have hnames : (g.definitions.entries.map fun e => (ρ e.1, e.2)) =
        g.definitions.entries.map fun e => (σ e.1, e.2) :=
      List.map_congr_left fun e he => Prod.ext (hdefinition e he) rfl
    rw [← hnames]
    exact h.definitions
  rootId := h.rootId

theorem Repointed.size (h : Repointed ρ d g g') : g'.nodes.size = g.nodes.size := by
  have hlength := congrArg List.length h.names
  rwa [Table.names, Table.names, Entries.names, Entries.names, List.length_map,
    List.length_map] at hlength

/-- The signature does not show the node: it is not the root, nor a child of a node, nor a branch of a
clause. -/
structure Hidden (g : Graph) (d : NodeId) : Prop where
  /-- It is not the root. -/
  root : d ≠ g.rootId
  /-- It is no child. -/
  child : ∀ x, d ∉ g.childIds x
  /-- No clause names it. -/
  clause : ∀ x k, ¬ g.Points x d k

end Graph

namespace Signature

open Graph

variable {g g' : Graph} {ρ : String → String} {d : NodeId}
  {below below' : View → NodeId → Except Fault Value}

/-! ## Descriptions of references that point elsewhere -/

theorem branch_repointed (hr : Repointed ρ d g g') (widgets : Bool) {target : Option NodeId}
    (hseen : ∀ t ∈ target, t ≠ d)
    (hbelow : ∀ t ∈ target, ∀ view, below' view t = (below view t).map (renamed ρ)) :
    branch g' below' widgets target = (branch g below widgets target).map (renamed ρ) := by
  cases target with
  | none => rfl
  | some t =>
    unfold branch
    dsimp only
    rw [hr.node (hseen t rfl)]
    cases g.node? t with
    | none => rfl
    | some n =>
      dsimp only [Option.map_some]
      rw [hbelow t rfl, Node.isAddressable, Node.kind_repointed, Node.isAddressable]

theorem clause_repointed (hr : Repointed ρ d g g') (widgets : Bool) {c : Clause NodeId}
    (hseen : ∀ k, ∀ t ∈ c.target k, t ≠ d)
    (hbelow : ∀ k, ∀ t ∈ c.target k, ∀ view, below' view t = (below view t).map (renamed ρ)) :
    clause g' below' widgets c = (clause g below widgets c).map (renamed ρ) := by
  have htrue : branch g' below' widgets c.onTrue =
      (branch g below widgets c.onTrue).map (renamed ρ) :=
    branch_repointed hr widgets (hseen .thenBranch) (hbelow .thenBranch)
  have hfalse : branch g' below' widgets c.onFalse =
      (branch g below widgets c.onFalse).map (renamed ρ) :=
    branch_repointed hr widgets (hseen .elseBranch) (hbelow .elseBranch)
  unfold clause
  rw [htrue, hfalse]
  cases branch g below widgets c.onTrue with
  | error e => rfl
  | ok onTrue =>
    cases branch g below widgets c.onFalse with
    | error e => rfl
    | ok onFalse => rfl

/-- The children of a node with their names. -/
theorem children_repointed (hr : Repointed ρ d g g') (hd : Hidden g d) (id : NodeId) :
    g'.children id = (g.children id).map (List.map fun c => (c.1, c.2.repointed ρ)) := by
  unfold Graph.children
  rw [hr.childIds]
  refine mapM_eq_map_of_mem fun c hc => ?_
  unfold pointedAt
  rw [hr.node fun heq => hd.child id (heq ▸ hc)]
  cases g.node? c <;> rfl

theorem contents_repointed (hr : Repointed ρ d g g') (hd : Hidden g d) (widgets : Bool)
    {id : NodeId} {n : Node NodeId} (reference : Bool)
    (hbelow : ∀ c ∈ g.childIds id, ∀ view, below' view c = (below view c).map (renamed ρ)) :
    contents g' below' widgets id (n.repointed ρ) =
      (contents g below widgets id n).map (renamedMembers ρ reference) := by
  unfold contents Node.repointed
  cases n.body with
  | object attributes =>
    dsimp only [Body.repointed]
    rw [children_repointed hr hd]
    cases hcs : g.children id with
    | error e => rfl
    | ok cs =>
      obtain ⟨hids, -⟩ := children_ok hcs
      -- fields and groups are chosen by their kinds, which are the same
      have hchosen : ∀ (p : NodeKind → Bool) (view : View),
          ((cs.map fun c => (c.1, c.2.repointed ρ)).filter fun c => p c.2.kind).mapM
            (fun c => below' view c.1) =
          ((cs.filter fun c => p c.2.kind).mapM fun c => below view c.1).map
            (List.map (renamed ρ)) := by
        intro p view
        have hkinds : ((fun c : NodeId × Node NodeId => p c.2.kind) ∘
            fun c : NodeId × Node NodeId => (c.1, c.2.repointed ρ)) = fun c => p c.2.kind :=
          funext fun c => congrArg p (c.2.kind_repointed ρ)
        rw [List.filter_map, hkinds, List.mapM_map]
        exact mapM_eq_map_of_mem fun c hc =>
          hbelow c.1 (hids ▸ List.mem_map_of_mem (List.mem_filter.1 hc).1) view
      dsimp only [Except.map, bind, Except.bind]
      rw [hchosen (fun k => !k.isGroup), hchosen NodeKind.isGroup]
      cases (cs.filter fun c => !c.2.kind.isGroup).mapM fun c => below ⟨true, widgets⟩ c.1 with
      | error e => rfl
      | ok fields =>
        cases (cs.filter fun c => c.2.kind.isGroup).mapM fun c => below ⟨false, widgets⟩ c.1 with
        | error e => rfl
        | ok groups =>
          show Except.ok [("children", Value.list (fields.map (renamed ρ))),
            ("conditionals", .list (groups.map (renamed ρ)))] = _
          rw [← renamedItems_eq, ← renamedItems_eq]
          rfl
  | array attributes =>
    dsimp only [Body.repointed]
    rw [hr.childIds, mapM_eq_map_of_mem fun c hc => hbelow c hc _]
    cases (g.childIds id).mapM fun c => below ⟨false, widgets⟩ c with
    | error e => rfl
    | ok items =>
      show Except.ok [("children", Value.list (items.map (renamed ρ)))] = _
      rw [← renamedItems_eq]
      rfl
  | string | number | boolean | enum | definition | reference | group => rfl

/-- What a reference says itself is where it points. -/
theorem rows_repointed {n : Node NodeId} (hg : n.kind.isGroup = false) :
    renamedMembers ρ (n.kind = .reference) [("attrs", .obj (n.body.rows Clause.toValue))] =
      [("attrs", .obj ((n.repointed ρ).body.rows Clause.toValue))] := by
  unfold Node.repointed Node.kind
  cases hb : n.body with
  | reference target => cases target <;> rfl
  | group k cs => simp [Node.kind, hb, Body.kind, NodeKind.isGroup] at hg
  | string | number | boolean | enum | object | array | definition => rfl

/-- What the description of any node begins with. -/
def common (view : View) (n : Node NodeId) : Members :=
  [("kind", .str n.kind.name), ("title", n.title), ("description", n.description),
    ("extras", .obj n.extras)] ++
  n.default.toList.map (fun v => ("default", v)) ++
  (if view.addressable then [("key", .str n.key), ("required", .bool n.required)] else []) ++
  (if view.widgets then [("widget", n.widget), ("widget_options", .obj n.widgetOptions)] else [])

theorem name_of_common (view : View) (n : Node NodeId) :
    ∀ m ∈ common view n, m.1 ∉ "attrs" :: describing := by
  obtain ⟨addressable, widgets⟩ := view
  unfold common
  cases addressable <;> cases widgets <;> cases n.default <;> simp [describing]

/-- Descriptions name the kind first. -/
theorem isReference_common (view : View) (n : Node NodeId) (ms : Members) :
    isReference (common view n ++ ms) = decide (n.kind = .reference) := by
  have hfind : Entries.find? (common view n ++ ms) "kind" = some (.str n.kind.name) := rfl
  rw [isReference, hfind]
  cases hk : n.kind with
  | group k => cases k <;> rfl
  | string | number | boolean | enum | object | array | definition | reference => rfl

/-- Only the part of a description that the node's kind says and what hangs below it are different. -/
theorem renamed_described (view : View) (n : Node NodeId) (own inner : Members) :
    renamed ρ (.obj (common view n ++ own ++ inner)) =
      .obj (common view n ++ renamedMembers ρ (n.kind = .reference) own ++
        renamedMembers ρ (n.kind = .reference) inner) := by
  rw [renamed, List.append_assoc, isReference_common, renamedMembers_append,
    renamedMembers_eq_self (name_of_common view n), renamedMembers_append, List.append_assoc]

/-- A node is described as the same one with its references pointing elsewhere. -/
theorem describe_repointed (hr : Repointed ρ d g g') (hd : Hidden g d) {id : NodeId} (hid : id ≠ d)
    (hchild : ∀ c ∈ g.childIds id, ∀ view, below' view c = (below view c).map (renamed ρ))
    (hbranch : ∀ c ∈ g.clausesAt id, ∀ k, ∀ t ∈ c.target k, ∀ view,
      below' view t = (below view t).map (renamed ρ)) (view : View) :
    describe g' below' view id = (describe g below view id).map (renamed ρ) := by
  unfold describe
  rw [hr.node hid]
  cases hn : g.node? id with
  | none => rfl
  | some n =>
    rw [clausesAt_of_node? hn] at hbranch
    have hclauses : n.clauses.mapM (clause g' below' view.widgets) =
        (n.clauses.mapM (clause g below view.widgets)).map (List.map (renamed ρ)) := by
      refine mapM_eq_map_of_mem fun c hc => clause_repointed hr view.widgets (fun k t ht => ?_)
        fun k t ht => hbranch c hc k t ht
      rintro rfl
      exact hd.clause id k ⟨c, clausesAt_of_node? hn ▸ hc, ht⟩
    dsimp only [Option.map_some]
    rw [contents_repointed hr hd view.widgets (n.kind = .reference) hchild, Node.kind_repointed,
      Node.clauses_repointed, hclauses]
    cases hg : n.kind.isGroup with
    | true =>
      rw [if_pos rfl, if_pos rfl]
      cases n.clauses.mapM (clause g below view.widgets) with
      | error e => rfl
      | ok clauses =>
        cases contents g below view.widgets id n with
        | error e => rfl
        | ok inner =>
          refine congrArg Except.ok ((renamed_described view n [("clauses", .list clauses)]
            inner).trans ?_).symm
          have hclauses : renamedMembers ρ (n.kind = .reference) [("clauses", .list clauses)] =
              [("clauses", .list (clauses.map (renamed ρ)))] := by
            rw [← renamedItems_eq]
            rfl
          rw [hclauses]
          rfl
    | false =>
      rw [if_neg Bool.false_ne_true, if_neg Bool.false_ne_true]
      cases contents g below view.widgets id n with
      | error e => rfl
      | ok inner =>
        refine congrArg Except.ok ((renamed_described view n
          [("attrs", .obj (n.body.rows Clause.toValue))] inner).trans ?_).symm
        rw [rows_repointed hg]
        rfl

/-- Descriptions down to any depth differ in where references point. -/
theorem node_repointed (hr : Repointed ρ d g g') (hd : Hidden g d) (depth : Nat) :
    ∀ {id : NodeId}, id ≠ d → ∀ view, node g' depth view id = (node g depth view id).map (renamed ρ) := by
  induction depth with
  | zero => exact fun _ _ => rfl
  | succ depth ih =>
    intro id hid view
    refine describe_repointed hr hd hid (fun c hc => ih ?_) (fun c hc k t ht => ih ?_) view
    · rintro rfl
      exact hd.child id hc
    · rintro rfl
      exact hd.clause id k ⟨c, hc, ht⟩

theorem definition_repointed (hr : Repointed ρ d g g') (hd : Hidden g d) (widgets : Bool)
    (id : NodeId) : definition g' widgets id = (definition g widgets id).map (renamed ρ) := by
  unfold definition
  rw [hr.childIds, hr.size]
  cases hids : g.childIds id with
  | nil => rfl
  | cons c cs =>
    refine node_repointed hr hd _ ?_ _
    rintro rfl
    exact hd.child id (hids ▸ List.mem_cons_self)

end Signature

namespace Graph

variable {g g' : Graph} {ρ : String → String} {d : NodeId} {widgets : Bool} {v : Value}

/-- A signature is the description of the root and those of the definitions, by their names. -/
theorem signature_eq_ok_iff : g.signature widgets = .ok v ↔ ∃ (root : Value) (shown : NodeId → Value),
    Signature.node g (g.nodes.size + 1) ⟨false, widgets⟩ g.rootId = .ok root ∧
    (∀ e ∈ g.definitions.entries, Signature.definition g widgets e.2 = .ok (shown e.2)) ∧
    v = .obj [("root", root), ("definitions",
      .obj ((g.definitions.entries.map fun e => (e.1, shown e.2)).mergeSort fun a b => a.1 ≤ b.1))] := by
  have hsorted : ∀ shown : NodeId → Value,
      ((g.definitions.entries.map fun e => (e.1, shown e.2)).mergeSort fun a b => a.1 ≤ b.1) =
        (g.definitions.entries.mergeSort fun a b => a.1 ≤ b.1).map fun e => (e.1, shown e.2) :=
    fun shown => (List.map_mergeSort (f := fun e : String × NodeId => (e.1, shown e.2))
      (s := fun a b => decide (a.1 ≤ b.1)) fun _ _ _ _ => rfl).symm
  have hdescribed : ∀ {es : List (String × NodeId)} {shown : NodeId → Value},
      (∀ e ∈ es, Signature.definition g widgets e.2 = .ok (shown e.2)) →
      (es.mapM fun e => return (e.1, ← Signature.definition g widgets e.2)) =
        .ok (es.map fun e => (e.1, shown e.2)) := by
    intro es shown h
    rw [mapM_eq_ok_iff, List.forall₂_map_right_iff, List.forall₂_same]
    exact fun e he => bind_eq_ok_iff.2 ⟨_, h e he, rfl⟩
  unfold signature
  simp only [bind_eq_ok_iff, pure_eq_ok_iff, hsorted]
  constructor
  · rintro ⟨root, hroot, ds, hds, rfl⟩
    obtain ⟨shown, hshown⟩ : ∃ shown : NodeId → Value,
        ∀ e ∈ g.definitions.entries.mergeSort fun a b => a.1 ≤ b.1,
          Signature.definition g widgets e.2 = .ok (shown e.2) := by
      refine ⟨fun id => (Signature.definition g widgets id).toOption.getD .null, fun e he => ?_⟩
      obtain ⟨_, hrow⟩ := isOk_mapM_iff.1 ⟨ds, hds⟩ e he
      obtain ⟨w, hw, -⟩ := bind_eq_ok_iff.1 hrow
      simp only [hw, Except.toOption, Option.getD_some]
    refine ⟨root, shown, hroot, fun e he => hshown e (List.mem_mergeSort.2 he), ?_⟩
    rw [hdescribed hshown] at hds
    rw [Except.ok.inj hds]
  · rintro ⟨root, shown, hroot, hshown, rfl⟩
    exact ⟨root, hroot, _, hdescribed fun e he => hshown e (List.mem_mergeSort.1 he), rfl⟩

/-- A graph whose references point elsewhere has the signature under the other names. -/
theorem Repointed.signature (hr : Repointed ρ d g g') (hd : Hidden g d)
    (h : g.signature widgets = .ok v) :
    g'.signature widgets = .ok (Signature.renamedDocument ρ v) := by
  obtain ⟨root, shown, hroot, hshown, rfl⟩ := signature_eq_ok_iff.1 h
  refine signature_eq_ok_iff.2 ⟨Signature.renamed ρ root, fun id => Signature.renamed ρ (shown id), ?_,
    fun e he => ?_, ?_⟩
  · rw [hr.rootId, hr.size, Signature.node_repointed hr hd _ hd.root.symm, hroot]
    rfl
  · obtain ⟨e₀, he₀, rfl⟩ := List.mem_map.1 (hr.definitions.mem_iff.1 he)
    rw [Signature.definition_repointed hr hd, hshown e₀ he₀]
    rfl
  · rw [Signature.renamedDocument]
    refine congrArg (fun ds => Value.obj [("root", Signature.renamed ρ root), ("definitions", .obj ds)])
      (Entries.mergeSort_names_eq_of_perm ?_ ?_)
    · rw [Entries.names, List.map_map]
      exact g'.definitions.nodup
    · refine ((List.mergeSort_perm _ _).map _).trans ?_
      refine List.Perm.trans (.of_eq ?_) (hr.definitions.map _).symm
      rw [List.map_map, List.map_map]
      rfl

/-- Names under which nothing changes its name leave a signature as it is. -/
theorem renamedDocument_id_of_signature (h : g.signature widgets = .ok v) :
    Signature.renamedDocument id v = v := by
  obtain ⟨root, shown, -, -, rfl⟩ := signature_eq_ok_iff.1 h
  have hsame : ∀ ds : Members, (ds.map fun d => (id d.1, Signature.renamed id d.2)) = ds := by
    intro ds
    refine (List.map_congr_left fun d _ => ?_).trans (List.map_id ds)
    rw [Signature.renamed_id]
    rfl
  rw [Signature.renamedDocument, Signature.renamed_id, hsame,
    Entries.mergeSort_names_of_pairwise (Entries.pairwise_mergeSort_names _)]

end Graph

end FormGraph

import FormGraph.Proofs.Imported

/-!
# Documents do not show widgets

A graph is written as the same document, with the same warnings, when all widgets are taken off it
(`compile_undressed`), whatever else is right or wrong about it. Putting widgets on fields changes
nothing else (`undressed_dress`), so a graph that gets its widgets from a UI document is written as
before.
-/

namespace FormGraph

/-- The node without a widget. -/
def Node.undressed (n : Node NodeId) : Node NodeId := { n with widget := .null, widgetOptions := [] }

namespace Graph

/-- The graph without widgets, as if it had never been changed. -/
def undressed (g : Graph) : Graph := { g with nodes := g.nodes.map Node.undressed, version := 0 }

variable (g : Graph)

theorem node?_undressed (id : NodeId) : g.undressed.node? id = (g.node? id).map Node.undressed :=
  Table.find?_map _ _ id

theorem pointedAt_undressed (id : NodeId) :
    g.undressed.pointedAt id = Node.undressed <$> g.pointedAt id := by
  unfold pointedAt
  rw [node?_undressed]
  cases g.node? id <;> rfl

theorem children_undressed (id : NodeId) :
    g.undressed.children id = List.map (fun c => (c.1, c.2.undressed)) <$> g.children id := by
  have hids : ∀ ids : List NodeId,
      (ids.mapM fun c => return (c, ← g.undressed.pointedAt c) :
        Except Fault (List (NodeId × Node NodeId))) =
        List.map (fun c => (c.1, c.2.undressed)) <$>
          ids.mapM fun c => return (c, ← g.pointedAt c) := by
    intro ids
    induction ids with
    | nil => rfl
    | cons c ids ih =>
      rw [List.mapM_cons, List.mapM_cons, ih, pointedAt_undressed]
      cases g.pointedAt c with
      | error e => rfl
      | ok n => cases ids.mapM fun c => return (c, ← g.pointedAt c) <;> rfl
  exact hids (g.childIds id)

theorem content_undressed (name : String) :
    g.undressed.content name = Option.map (fun c => (c.1, c.2.undressed)) <$> g.content name := by
  unfold content
  show (g.contentId? name).mapM _ = _
  cases g.contentId? name with
  | none => rfl
  | some id =>
    show (do let c ← (do return (id, ← g.undressed.pointedAt id)); return some c) =
      _ <$> (do let c ← (do return (id, ← g.pointedAt id)); return some c)
    rw [pointedAt_undressed]
    cases g.pointedAt id <;> rfl

end Graph

/-- What was found may be changed before the chain goes on. -/
theorem Compiling.ofExcept_map_bind {α β γ : Type} (f : α → β) (x : Except Fault α)
    (k : β → Compiling γ) : (ofExcept (f <$> x) >>= k) = ofExcept x >>= fun a => k (f a) := by
  cases x <;> rfl

namespace Compile

open Graph Compiling

variable {g : Graph} {cfg : DocumentConfig} {below below' : NodeId → Node NodeId → Compiling Value}

theorem noteUnused_undressed (id : NodeId) (n : Node NodeId) :
    noteUnused g.undressed id n.undressed = noteUnused g id n := by
  unfold noteUnused
  simp only [pointedAt_undressed, ofExcept_map_bind]
  rfl

section

variable (h : ∀ id n, below' id (Node.undressed n) = below id n)

include h

theorem branch_undressed (id : NodeId) : branch g.undressed below' id = branch g below id := by
  unfold branch
  rw [node?_undressed]
  cases g.node? id with
  | none => rfl
  | some n =>
    dsimp only [Option.map_some]
    rw [h]
    rfl

theorem branchUnder_undressed (keyword : String) (target : Option NodeId) :
    branchUnder g.undressed below' keyword target = branchUnder g below keyword target := by
  cases target with
  | none => rfl
  | some id => exact congrArg (· >>= _) (branch_undressed h id)

theorem clause_undressed (kind : GroupKind) :
    clause g.undressed cfg below' kind = clause g cfg below kind := by
  funext c
  unfold clause
  simp only [branchUnder_undressed h]

theorem ifBlock_undressed (clauses : List (Clause NodeId)) :
    ifBlock g.undressed below' clauses = ifBlock g below clauses := by
  unfold ifBlock
  simp only [branchUnder_undressed h]

theorem group_undressed (id : NodeId) (n : Node NodeId) (kind : GroupKind)
    (clauses : List (Clause NodeId)) :
    group g.undressed cfg below' id n.undressed kind clauses =
      group g cfg below id n kind clauses := by
  unfold group
  rw [noteUnused_undressed]
  simp only [clause_undressed h, ifBlock_undressed h]
  rfl

theorem objectBody_undressed (id : NodeId) (n : Node NodeId) :
    objectBody g.undressed below' id n.undressed = objectBody g below id n := by
  have hchild : ∀ parts (c : NodeId × Node NodeId),
      objectChild below' parts (c.1, c.2.undressed) = objectChild below parts c := by
    intro parts c
    unfold objectChild
    dsimp only
    rw [h]
    rfl
  unfold objectBody
  rw [children_undressed, ofExcept_map_bind]
  simp only [List.foldlM_map, hchild]
  rfl

theorem arrayBody_undressed (id : NodeId) :
    arrayBody g.undressed below' id = arrayBody g below id := by
  have hids : g.undressed.childIds id = g.childIds id := rfl
  unfold arrayBody
  rw [hids]
  cases g.childIds id with
  | nil => rfl
  | cons item rest =>
    dsimp only
    rw [pointedAt_undressed, ofExcept_map_bind]
    simp only [h]

theorem fragment_undressed (id : NodeId) (n : Node NodeId) :
    fragment g.undressed cfg below' id n.undressed = fragment g cfg below id n := by
  have hbody : n.undressed.body = n.body := rfl
  unfold fragment
  rw [hbody]
  cases n.body with
  | group kind clauses => exact group_undressed h id n kind clauses
  | object a =>
    dsimp only
    rw [objectBody_undressed h]
    rfl
  | array a =>
    dsimp only
    rw [arrayBody_undressed h]
    rfl
  | reference | string | number | boolean | enum | definition => rfl

end

theorem node_undressed (depth : Nat) : ∀ (id : NodeId) (n : Node NodeId),
    node g.undressed cfg depth id n.undressed = node g cfg depth id n := by
  induction depth with
  | zero => exact fun _ _ => rfl
  | succ depth ih => exact fragment_undressed ih

theorem depth_undressed : depth g.undressed = depth g := congrArg (· + 1) (Table.size_map _ _)

theorem definition_undressed (name : String) :
    definition g.undressed cfg name = definition g cfg name := by
  unfold definition
  rw [content_undressed, ofExcept_map_bind, depth_undressed]
  congr 1
  funext content
  cases content with
  | none => rfl
  | some c => exact node_undressed _ _ _

theorem definitions_undressed (steps : Nat) : ∀ pointedAt written names,
    definitions g.undressed cfg steps pointedAt written names =
      definitions g cfg steps pointedAt written names := by
  induction steps with
  | zero => exact fun _ _ _ => rfl
  | succ steps ih =>
    intro pointedAt written names
    cases names with
    | nil => rfl
    | cons name waiting =>
      unfold definitions
      simp only [ih, definition_undressed]

theorem document_undressed : document g.undressed cfg = document g cfg := by
  have hroot : g.undressed.root = Node.undressed <$> g.root := pointedAt_undressed g g.rootId
  have hsize : g.undressed.nodes.size = g.nodes.size := Table.size_map _ _
  unfold document
  rw [hroot, hsize, ofExcept_map_bind, depth_undressed]
  simp only [definitions_undressed]
  congr 1
  funext n
  rw [← @node_undressed g cfg (depth g) g.rootId n]
  rfl

end Compile

namespace Graph

/-- A graph is written as it is without its widgets. -/
theorem compile_undressed (g : Graph) (cfg : DocumentConfig) :
    g.undressed.compile cfg = g.compile cfg := by
  unfold compile
  rw [Compile.document_undressed]
  rfl

/-- Putting a widget on a node changes nothing else. -/
theorem undressed_putNode {g : Graph} {id : NodeId} {n : Node NodeId} (hn : g.node? id = some n)
    (widget : String) (entry : Members) :
    (g.putNode id (n.dressed widget entry)).next.undressed = g.undressed :=
  congrArg (fun nodes => ({ g with nodes := nodes, version := 0 } : Graph))
    (Table.map_put_of_eq hn rfl)

/-- Graphs that are the same without their widgets have the same nodes but for these. -/
theorem exists_node_of_undressed {g d : Graph} (h : d.undressed = g.undressed) {x : NodeId}
    {n : Node NodeId} (hn : g.node? x = some n) :
    ∃ m, d.node? x = some m ∧ m.undressed = n.undressed := by
  have hx : (d.node? x).map Node.undressed = some n.undressed := by
    rw [← node?_undressed, h, node?_undressed, hn]
    rfl
  exact Option.map_eq_some_iff.1 hx

end Graph

end FormGraph

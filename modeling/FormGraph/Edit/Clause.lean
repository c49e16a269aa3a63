import FormGraph.Edit.Removal

/-!
# Groups and their clauses

A group holds clauses in order; the branches that they point at hang below the group over an edge of
the matching kind. The operations here keep it so: a branch that a clause is to point at is first
hung below the group, wherever it was, and one that already serves a clause as the other branch is
refused. The clauses of an `if` block all have the same branches.
-/

namespace FormGraph

/-- A change to one clause: what is `none` stays. -/
structure ClausePatch where
  /-- Members to write over those of the condition. -/
  condition : Option Members := none
  /-- The branch when the condition holds. -/
  onTrue : Option (Option NodeId) := none
  /-- The branch when it does not. -/
  onFalse : Option (Option NodeId) := none

namespace ClausePatch

/-- The fields that a patch of a clause may name. -/
def fields : List String := ["condition", "then", "else", "else_"]

/-- The names in a patch that are no fields of a clause, sorted. -/
def unknownFields (patch : Members) : List String :=
  ((Entries.names patch).filter fun n => !fields.contains n).mergeSort fun a b => a ≤ b

/-- Read a patch from an object with known members only. -/
def ofMembers (patch : Members) : Except Fault ClausePatch := do
  let condition ← match Entries.find? patch "condition" with
    | none => pure none
    | some (.obj fields) => pure (some fields)
    | some _ => breakDown .unusableValue
  let target (name : String) : Except Fault (Option (Option NodeId)) :=
    match Entries.find? patch name with
    | none => .ok none
    | some v => return some (← Clause.readTarget v)
  let onTrue ← target "then"
  let onFalse ← target "else"
  let onFalse := (← target "else_").or onFalse
  return { condition := condition, onTrue := onTrue, onFalse := onFalse }

/-- The clause after the change. -/
def apply (p : ClausePatch) (c : Clause NodeId) : Except Fault (Clause NodeId) := do
  let condition ← match p.condition with
    | none => pure c.condition
    | some fields => Condition.ofMembers (Entries.putAll c.condition.toMembers fields)
  return ⟨condition, p.onTrue.getD c.onTrue, p.onFalse.getD c.onFalse⟩

end ClausePatch

namespace Graph

/-- Add a group without clauses. -/
def createGroup (g : Graph) (kind : NodeKind) (parentId : NodeId)
    (title description : Value) (index : Option Int) : Edit (Graph × NodeId) := do
  if !kind.isGroup then throw (.refused (.notAGroupKind kind))
  g.add { body := Body.initial kind, title := title, description := description } parentId .child
    index

/-- The group of that name, or a refusal. -/
def getGroup (g : Graph) (id : NodeId) : Except Fault (Node NodeId) := do
  let n ← g.get id
  if n.kind.isGroup then return n else refuse (.notAGroup id n.kind)

/-- The clauses of a group. -/
def getClauses (g : Graph) (id : NodeId) : Except Fault (List (Clause NodeId)) :=
  return (← g.getGroup id).clauses

/-- Whether a clause other than the one at `skip` points at a node over an edge of the kind. -/
def servesElsewhere (clauses : List (Clause NodeId)) (skip : Option Nat) (id : NodeId)
    (kind : EdgeKind) : Bool :=
  clauses.zipIdx.any fun p => p.1.target kind = some id && skip ≠ some p.2

/-- The branch kind that is not the given one. -/
def otherBranch : EdgeKind → EdgeKind
  | .thenBranch => .elseBranch
  | _ => .thenBranch

/-- Hang a node below a group as a branch of the given kind, unless it already does. A node that
serves another clause of the group as the other branch is refused. -/
def ensureBranch (g : Graph) (groupId groupKey : String) (target : Option NodeId) (kind : EdgeKind)
    (skip : Option Nat) : Except Fault Graph := do
  match target with
  | none => return g
  | some id =>
    let _ ← g.get id
    match g.owningEdge id with
    | none => g.move id groupId kind none
    | some e =>
      if e.source = groupId then
        if e.kind = kind then return g
        let clauses ← g.getClauses groupId
        if servesElsewhere clauses skip id (otherBranch kind) then
          refuse (.otherBranch id e.kind groupId groupKey)
      g.move id groupId kind none

/-- Write the clauses of a group. -/
def writeClauses (g : Graph) (id : NodeId) (clauses : List (Clause NodeId)) :
    Except Fault Graph := do
  let n ← g.get id
  return (g.putNode id (n.setClauses clauses)).next

/-- The clause that is appended to the clauses of a node: in an `if` block that has some, the
branches it does not name are theirs, and it may name no others. -/
def clauseFor (id : NodeId) (n : Node NodeId) (clause : Clause NodeId) :
    Except Fault (Clause NodeId) :=
  match n.body with
  | .group .ifBlock (first :: _) =>
    let inherited : Clause NodeId :=
      { clause with
        onTrue := clause.onTrue.or first.onTrue
        onFalse := clause.onFalse.or first.onFalse }
    if inherited.branches = first.branches then .ok inherited
    else refuse (.divergingBranches id n.key)
  | _ => .ok clause

/-- Append a clause to a group. -/
def appendClause (g : Graph) (id : NodeId) (clause : Clause NodeId) : Except Fault Graph := do
  let n ← g.getGroup id
  let clause ← clauseFor id n clause
  let g ← g.ensureBranch id n.key clause.onTrue .thenBranch none
  let g ← g.ensureBranch id n.key clause.onFalse .elseBranch none
  g.writeClauses id ((← g.getClauses id) ++ [clause])

/-- The clause at a position. -/
def clauseAt (id : NodeId) (clauses : List (Clause NodeId)) (index : Int) :
    Except Fault (Clause NodeId) :=
  match if 0 ≤ index then clauses[index.toNat]? else none with
  | some c => .ok c
  | none => refuse (.clauseOutOfRange index clauses.length id)

/-- Change the clause at a position. In an `if` block new branches are those of every clause. -/
def updateClause (g : Graph) (id : NodeId) (index : Int) (patch : Members) :
    Except Fault Graph := do
  let n ← g.getGroup id
  let clause ← clauseAt id n.clauses index
  match ClausePatch.unknownFields patch with
  | [] => pure ()
  | unknown => refuse (.unknownClauseFields unknown)
  let patch ← ClausePatch.ofMembers patch
  let updated ← patch.apply clause
  let position := index.toNat
  let g ← g.ensureBranch id n.key updated.onTrue .thenBranch (some position)
  let g ← g.ensureBranch id n.key updated.onFalse .elseBranch (some position)
  let clauses := (← g.getClauses id).set position updated
  g.writeClauses id
    (if n.kind = .group .ifBlock then
      clauses.map fun c => { c with onTrue := updated.onTrue, onFalse := updated.onFalse }
    else clauses)

/-- The branches of a group that no clause points at, in order. -/
def unusedBranches (g : Graph) (id : NodeId) (clauses : List (Clause NodeId)) : List Edge :=
  let used := clauses.flatMap Clause.targets
  (g.edgesFrom id).filter fun e => e.kind.isBranch && !used.contains e.target

/-- Remove the branches of a group that no clause points at. Without any the graph stays the
same. -/
def pruneBranches (g : Graph) (id : NodeId) : Except Fault Graph := do
  let n ← g.getGroup id
  match g.unusedBranches id n.clauses with
  | [] => return g
  | stale => return (stale.foldl (fun h e => h.removeSubtree g e.target) g).next

/-- Remove the clause at a position; its branches stay below the group, or, when `prune` is set, go
if no other clause points at them. -/
def removeClause (g : Graph) (id : NodeId) (index : Int) (prune : Bool) : Except Fault Graph := do
  let n ← g.getGroup id
  let _ ← clauseAt id n.clauses index
  let g ← g.writeClauses id (n.clauses.eraseIdx index.toNat)
  if prune then g.pruneBranches id else return g

/-- Give every clause of a group the same branches: those named, and otherwise those of the first
clause. When they have them already, the graph stays the same. -/
def synchronizeBranches (g : Graph) (id : NodeId) (onTrue onFalse : Option (Option NodeId)) :
    Except Fault Graph := do
  let n ← g.getGroup id
  match n.clauses with
  | [] => return g
  | first :: _ =>
    let onTrue := onTrue.getD first.onTrue
    let onFalse := onFalse.getD first.onFalse
    if n.clauses.all fun c => c.branches = (onTrue, onFalse) then return g
    let g ← g.ensureBranch id n.key onTrue .thenBranch none
    let g ← g.ensureBranch id n.key onFalse .elseBranch none
    g.writeClauses id ((← g.getClauses id).map fun c =>
      { c with onTrue := onTrue, onFalse := onFalse })

end Graph

end FormGraph

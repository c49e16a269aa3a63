import FormGraph.Edit.Clause
import FormGraph.Edit.Patch

/-!
# Changes

Every edit as a value: what is to be done, before it is known whether the graph takes it.
`Graph.apply` does it. A change that is refused, or that breaks down, leaves nothing behind: there
is no new graph, and no name was taken.
-/

namespace FormGraph

/-- One change to a graph. -/
inductive Change where
  /-- Add a node. -/
  | add (draft : Draft) (parentId : NodeId) (edge : EdgeKind) (index : Option Int)
  /-- Change what a node says. -/
  | update (id : NodeId) (patch : Members)
  /-- Remove a node and everything below it. -/
  | remove (id : NodeId) (policy : RemovalPolicy)
  /-- Move a node and everything below it to another place. -/
  | move (id newParent : NodeId) (edge : EdgeKind) (index : Option Int)
  /-- Put a child in order among its siblings. -/
  | reorder (id : NodeId) (index : Int)
  /-- Add a group without clauses. -/
  | createGroup (kind : NodeKind) (parentId : NodeId) (title description : Value)
    (index : Option Int)
  /-- Append a clause to a group. -/
  | appendClause (id : NodeId) (clause : Members)
  /-- Change the clause at a position. -/
  | updateClause (id : NodeId) (index : Int) (patch : Members)
  /-- Remove the clause at a position, and, if asked for, the branches it leaves unused. -/
  | removeClause (id : NodeId) (index : Int) (prune : Bool)
  /-- Give every clause of a group the same branches. -/
  | synchronize (id : NodeId) (onTrue onFalse : Option (Option NodeId))
  /-- Remove the unused branches of a group. -/
  | prune (id : NodeId)
  /-- Create a definition, with content if there is a draft. -/
  | createDefinition (name : String) (content : Option Draft)
  /-- Turn a node into a definition. -/
  | promote (id : NodeId) (name : String)
  /-- Rename a definition. -/
  | renameDefinition (old new : String)
  /-- Remove a definition. -/
  | removeDefinition (name : String) (policy : RemovalPolicy)

/-- What a change brought about. -/
structure Effect where
  /-- The graph after the change. -/
  graph : Graph
  /-- The node that was made and that the caller can go on with, if there is one. -/
  made : Option NodeId := none
  /-- What the caller should know. -/
  warnings : List String := []

namespace Effect

/-- The effect of an edit that makes a node. -/
def making (made : Graph × NodeId) : Effect := { graph := made.1, made := some made.2 }

/-- The effect of an edit that warns. -/
def warning (warned : Graph × List String) : Effect :=
  { graph := warned.1, warnings := warned.2 }

end Effect

namespace Graph

/-- Append a clause given as an object. Whether there is such a group is settled before the object
is read. -/
def appendClauseFrom (g : Graph) (id : NodeId) (clause : Members) : Except Fault Graph := do
  let _ ← g.getGroup id
  g.appendClause id (← Clause.ofMembers clause)

/-- Do a change. -/
def apply (g : Graph) : Change → Edit Effect
  | .add draft parentId edge index => return .making (← g.add draft parentId edge index)
  | .update id patch => return { graph := ← g.update id patch }
  | .remove id policy => return { graph := ← g.remove id policy }
  | .move id newParent edge index => return { graph := ← g.move id newParent edge index }
  | .reorder id index => return { graph := ← g.reorder id index }
  | .createGroup kind parentId title description index =>
    return .making (← g.createGroup kind parentId title description index)
  | .appendClause id clause => return { graph := ← g.appendClauseFrom id clause }
  | .updateClause id index patch => return { graph := ← g.updateClause id index patch }
  | .removeClause id index prune => return { graph := ← g.removeClause id index prune }
  | .synchronize id onTrue onFalse =>
    return { graph := ← g.synchronizeBranches id onTrue onFalse }
  | .prune id => return { graph := ← g.pruneBranches id }
  | .createDefinition name content => return .making (← g.createDefinition name content)
  | .promote id name => return .making (← g.promote id name)
  | .renameDefinition old new => return { graph := ← g.renameDefinition old new }
  | .removeDefinition name policy => return .warning (← g.removeDefinition name policy)

end Graph

end FormGraph

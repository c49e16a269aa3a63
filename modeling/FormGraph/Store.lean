import FormGraph.Document.Bundle
import FormGraph.Edit.Change

/-!
# The store

A store holds the one graph that is being edited, the policy for definitions that are removed, the
warnings that were given so far, and the supply of names for new nodes. A change that fails leaves
the store as it was: it is a value, and the caller still has the one from before.
-/

namespace FormGraph

/-- The graph being edited and what goes with it. -/
structure Store where
  /-- The current graph. -/
  graph : Graph := Graph.empty .null .null
  /-- What happens to references when their definition goes. -/
  removal : RemovalPolicy := .allow
  /-- The warnings about the current graph. -/
  warnings : List String := []
  /-- The names given to new nodes. -/
  ids : IdSupply := {}

namespace Store

/-- How many changes led to the current graph. -/
def version (s : Store) : Nat := s.graph.version

/-- Run an edit with the store's supply of names. -/
def run {α : Type} (s : Store) (edit : Edit α) : Except Fault (α × Store) := do
  let (a, ids) ← edit.run s.ids
  return (a, { s with ids := ids })

/-- Do a change to the current graph. -/
def change (s : Store) (c : Change) : Except Fault (Effect × Store) := do
  let (effect, s) ← s.run (s.graph.apply c)
  return (effect, { s with graph := effect.graph })

/-- Remove a definition under the store's own policy; the warnings stay with the store. -/
def removeDefinition (s : Store) (name : String) : Except Fault (List String × Store) := do
  let (effect, s) ← s.change (.removeDefinition name s.removal)
  return (effect.warnings, { s with warnings := s.warnings ++ effect.warnings })

/-- Put an unrelated graph in the place of the current one, and forget the warnings. -/
def replace (s : Store) (g : Graph) : Store := { s with graph := g, warnings := [] }

/-- Start over with an empty graph. -/
def reset (s : Store) (title : Value) : Store := s.replace (Graph.empty title .null)

/-- Put what a bundle holds in the place of the current graph, and keep the warnings about it. -/
def importBundle (s : Store) (payload : Value) (cfg : DocumentConfig) (registry : Registry) :
    Except Fault (ImportedBundle × Store) := do
  let (imported, s) ← s.run (Graph.importBundle payload cfg registry)
  return (imported, { s.replace imported.graph with warnings := imported.warnings })

end Store

end FormGraph

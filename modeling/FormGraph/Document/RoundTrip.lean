import FormGraph.Document.Decompile
import FormGraph.Graph.Signature

/-!
# Round trips

A graph is written as a document and read back. What comes back has nodes of other names; whether it
says the same is a matter of the two signatures.
-/

namespace FormGraph

/-- What became of a graph that was written and read back. -/
structure RoundTrip where
  /-- Whether the two signatures say the same. -/
  same : Bool
  /-- The warnings about reading it back. -/
  warnings : List String
  /-- The fingerprint before. -/
  before : String
  /-- The fingerprint after. -/
  after : String
  deriving DecidableEq, Repr

namespace Graph

/-- Write a graph and read it back. -/
def reread (g : Graph) (cfg : DocumentConfig) : Edit Imported := do
  let written ← g.compile cfg
  decompile written.document cfg

/-- Write a graph, read it back, and compare. -/
def roundTrip (g : Graph) (cfg : DocumentConfig) : Edit RoundTrip := do
  let back ← g.reread cfg
  return {
    same := (← g.signature false).same (← back.graph.signature false)
    warnings := back.warnings
    before := ← g.fingerprint
    after := ← back.graph.fingerprint }

end Graph

end FormGraph

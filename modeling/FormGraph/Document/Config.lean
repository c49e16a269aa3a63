import FormGraph.Kind

/-!
# Choices of writing and reading
-/

namespace FormGraph

/-- How documents are written and read. -/
structure DocumentConfig where
  /-- Whether a clause of `anyOf` or `oneOf` without a second branch fails when its condition does
  not hold. -/
  strictMatchElse : Bool := true
  /-- Whether definitions that no reference points at are written. -/
  emitUnreferenced : Bool := true
  /-- How a list of item schemas is read. -/
  tupleItems : TupleItems := .reject
  deriving DecidableEq, Repr, Inhabited

end FormGraph

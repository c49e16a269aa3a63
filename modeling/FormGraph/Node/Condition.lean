import FormGraph.Fault

/-!
# Conditions and clauses

A condition tests one field of the object that a conditional group stands in. A clause pairs a
condition with the branch that applies when it holds and the one that applies when it does not. What
a branch is, is left open: the clauses of a graph name the nodes of their branches, those of an
outline the positions.
-/

namespace FormGraph

/-- A test of one field. -/
structure Condition where
  /-- The key of the field: a text, unless the request gave something else. -/
  field : Value
  /-- The comparison. -/
  operator : Operator
  /-- What the field is compared with. -/
  operand : Value
  /-- The tests for emptiness compare with nothing. -/
  operand_eq_null : operator.takesOperand = false → operand = .null
  deriving DecidableEq

namespace Condition

theorem ext {a b : Condition} (hf : a.field = b.field) (ho : a.operator = b.operator)
    (hv : a.operand = b.operand) : a = b := by
  cases a; cases b; cases hf; cases ho; cases hv; rfl

/-- The condition of a field, an operator and an operand; the operand of a test for emptiness is
dropped. -/
def of (field : Value) (operator : Operator) (operand : Value) : Condition where
  field := field
  operator := operator
  operand := if operator.takesOperand then operand else .null
  operand_eq_null h := by simp [h]

/-- The condition of a clause that says nothing about it. -/
def blank : Condition := of (.str "") .equals .null

instance : Inhabited Condition := ⟨blank⟩

/-- The condition as an object. -/
def toMembers (c : Condition) : Members :=
  [("field", c.field), ("operator", .str c.operator.name), ("value", c.operand)]

/-- Read a condition from an object; what is missing is taken from the blank condition. -/
def ofMembers (members : Members) : Except Fault Condition := do
  let operator ← match Entries.find? members "operator" with
    | none => pure Operator.equals
    | some v => Operator.vocabulary.read v.plain
  let field := (Entries.find? members "field").getD (.str "")
  pure (of field operator (Value.member members "value"))

end Condition

/-- A condition with its branches. -/
structure Clause (ρ : Type) where
  /-- When the first branch applies. -/
  condition : Condition
  /-- The branch that applies when the condition holds. -/
  onTrue : Option ρ
  /-- The branch that applies when it does not. -/
  onFalse : Option ρ
  deriving DecidableEq, Inhabited

namespace Clause

variable {ρ τ : Type}

/-- The branches of a clause, as a pair. -/
def branches (c : Clause ρ) : Option ρ × Option ρ := (c.onTrue, c.onFalse)

/-- The branches of a clause, as a list. -/
def targets (c : Clause ρ) : List ρ := c.onTrue.toList ++ c.onFalse.toList

/-- The branch over an edge of the given kind. -/
def target (c : Clause ρ) : EdgeKind → Option ρ
  | .thenBranch => c.onTrue
  | .elseBranch => c.onFalse
  | .child => none

/-- Give each branch another name, or none. -/
def bindTargets (f : ρ → Option τ) (c : Clause ρ) : Clause τ :=
  ⟨c.condition, c.onTrue.bind f, c.onFalse.bind f⟩

/-- The clause as a document value. -/
def toValue (c : Clause String) : Value :=
  .obj [("condition", .obj c.condition.toMembers), ("then", Value.ofString? c.onTrue),
    ("else", Value.ofString? c.onFalse)]

/-- Read the name of a branch: a text, or nothing. -/
def readTarget : Value → Except Fault (Option String)
  | .null => .ok none
  | .str s => .ok (some s)
  | _ => breakDown .unusableValue

/-- Read a clause from an object. -/
def ofMembers (members : Members) : Except Fault (Clause String) := do
  let condition := Value.member members "condition"
  let condition ← match condition with
    | .obj fields => Condition.ofMembers fields
    | v => if v.holds then breakDown .otherSort else pure Condition.blank
  let onTrue ← readTarget (Value.member members "then")
  let onFalse ← readTarget ((Entries.find? members "else").getD (Value.member members "else_"))
  pure ⟨condition, onTrue, onFalse⟩

end Clause

end FormGraph

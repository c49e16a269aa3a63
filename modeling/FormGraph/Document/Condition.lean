import FormGraph.Json.Writer
import FormGraph.Node.Condition
import FormGraph.Value.Order

/-!
# Conditions in documents

A condition is written as a fragment that tests one property: the property has to be there, and a
comparison holds of it. The comparison depends on the operator; the three that look into a text
write a regular expression with the operand in it, as it is.

`parse` reads a fragment back. A comparison that is none of those written counts as equality with
the empty text, and only the first of several properties is kept; both are said in warnings.
-/

namespace FormGraph

namespace Condition

/-- The comparison that holds of what is empty. -/
def emptyComparison : Members :=
  [("oneOf", .list [.obj [("type", .str "string"), ("maxLength", .int 0)],
    .obj [("type", .str "null")]])]

/-- The comparison that holds of what is not empty. -/
def notEmptyComparison : Members :=
  [("allOf", .list [.obj [("type", .str "string")], .obj [("minLength", .int 1)]])]

/-- The operators that compare with a bound, with the keyword each is written with, in the order
they are looked for. -/
def bounds : List (Operator × String) :=
  [(.greaterThan, "exclusiveMinimum"), (.lessThan, "exclusiveMaximum"),
    (.greaterEqual, "minimum"), (.lessEqual, "maximum")]

/-- The comparison of an operator with an operand. -/
def comparisonOf (operator : Operator) (operand : Value) : Members :=
  match operator with
  | .equals => [("const", operand)]
  | .notEquals => [("not", .obj [("const", operand)])]
  | .greaterThan => [("exclusiveMinimum", operand)]
  | .lessThan => [("exclusiveMaximum", operand)]
  | .greaterEqual => [("minimum", operand)]
  | .lessEqual => [("maximum", operand)]
  | .contains => [("pattern", .str (".*" ++ operand.plain ++ ".*"))]
  | .startsWith => [("pattern", .str ("^" ++ operand.plain ++ ".*"))]
  | .endsWith => [("pattern", .str (".*" ++ operand.plain ++ "$"))]
  | .empty => emptyComparison
  | .notEmpty => notEmptyComparison

/-- The comparison that a condition makes. -/
def comparison (c : Condition) : Members := comparisonOf c.operator c.operand

/-- The fragment that a condition is written as. A field that is a list or an object cannot name a
property. -/
def fragment (c : Condition) : Except Fault Members :=
  if c.field.isScalar then
    .ok [("properties", .obj [(c.field.memberName, .obj c.comparison)]),
      ("required", .list [c.field])]
  else breakDown .unusableValue

/-- The properties that a fragment tests, when there is at least one. -/
def testedProperties? (fragment : Value) : Option Members :=
  match fragment with
  | .obj members =>
    match Value.member members "properties" with
    | .obj (p :: ps) => some (p :: ps)
    | _ => none
  | _ => none

/-- Whether a fragment tests a property. -/
def isFragment (fragment : Value) : Bool := (testedProperties? fragment).isSome

/-- The text between a text at the front and one at the end that do not overlap. -/
def between? (front back : String) (s : List Char) : Option String :=
  if front.toList.isPrefixOf s && back.toList.isSuffixOf s &&
      front.length + back.length ≤ s.length then
    some (String.ofList ((s.drop front.length).take (s.length - front.length - back.length)))
  else none

/-- The operator and the operand that a regular expression is read as. -/
def readPattern (pattern : String) : Operator × Value :=
  let cs := pattern.toList
  match between? "^" ".*" cs with
  | some s => (.startsWith, .str s)
  | none =>
    match between? ".*" "$" cs with
    | some s => (.endsWith, .str s)
    | none =>
      match between? ".*" ".*" cs with
      | some s => (.contains, .str s)
      | none => (.equals, .str pattern)

/-- The operand of a negated equality. -/
def negatedConst? (comparison : Members) : Option Value :=
  match Value.member comparison "not" with
  | .obj negated => Entries.find? negated "const"
  | _ => none

/-- The operator and the operand of a bound. -/
def readBound? (comparison : Members) : Option (Operator × Value) :=
  bounds.findSome? fun b => (Entries.find? comparison b.2).map fun v => (b.1, v)

/-- The operator and the operand of a comparison, if it is one of those that are written. -/
def readComparison? (comparison : Value) : Option (Operator × Value) :=
  match comparison with
  | .obj members =>
    match Entries.find? members "const" with
    | some v => some (.equals, v)
    | none =>
      match negatedConst? members with
      | some v => some (.notEquals, v)
      | none =>
        match readBound? members with
        | some r => some r
        | none =>
          if comparison.same (.obj emptyComparison) then some (.empty, .null)
          else if comparison.same (.obj notEmptyComparison) then some (.notEmpty, .null)
          else
            match Value.member members "pattern" with
            | .str pattern => some (readPattern pattern)
            | _ => none
  | _ => none

/-- Read a condition back from the comparison of a field, with a warning where it is none. -/
def read (field comparison : Value) (path : String) : Condition × List String :=
  match readComparison? comparison with
  | some (operator, operand) => (of field operator operand, [])
  | none =>
    (of field .equals (.str ""),
      [path ++ ": unrecognized comparison for '" ++ field.plain ++ "', treated as equals ''"])

/-- What a condition is read back as once it has been written. -/
def reread (c : Condition) (path : String) : Condition × List String :=
  read c.field (.obj c.comparison) path

/-- The warnings about the properties that a fragment tests beyond the first. -/
def ignoredWarnings (path field : String) (others : List String) : List String :=
  if others.isEmpty then []
  else [path ++ ": condition tests several properties; only '" ++ field ++
    "' is kept, ignoring " ++ quotedTexts others]

/-- Read a condition back from a fragment, with warnings about what is not kept. -/
def parse (fragment : Value) (path : String) : Option Condition × List String :=
  match testedProperties? fragment with
  | none => (none, [])
  | some [] => (none, [])
  | some ((field, comparison) :: others) =>
    let (c, warnings) := read (.str field) comparison path
    (some c, ignoredWarnings path field (Entries.names others) ++ warnings)

end Condition

end FormGraph

import FormGraph.Node.Basic

/-!
# Types of attributes

Attributes are kept as they were given. The check here says which of them have a type that the rest
of the library can work with: bounds are numbers, counts whole numbers from zero on, patterns and
formats texts, the values of an enumeration a list.
-/

namespace FormGraph

namespace Check

/-- A count: a whole number from zero on. -/
def isCount : Value → Bool
  | .int n => 0 ≤ n
  | _ => false

/-- A list of texts. -/
def isTexts : Value → Bool
  | .list items => items.all Value.isStr
  | _ => false

/-- A list. -/
def isList (v : Value) : Bool := v.list?.isSome

/-- A truth value. -/
def isTruth : Value → Bool
  | .bool _ => true
  | _ => false

/-- The complaint about an attribute that is of the wrong type. -/
def mistyped (name wanted : String) (v : Value) : String :=
  name ++ " must be " ++ wanted ++ ", got " ++ v.quotedSequence

/-- Complain about an attribute that is set and fails a test. -/
def ifSet (name wanted : String) (ok : Value → Bool) (v : Value) : List String :=
  if v.isNull || ok v then [] else [mistyped name wanted v]

/-- Complain about a bound that is no number. -/
def bound (name : String) (v : Value) : List String := ifSet name "a number" Value.isNumber v

/-- Complain about a count that is none. -/
def count (name : String) (v : Value) : List String :=
  ifSet name "a non-negative integer" isCount v

/-- What is wrong with the types of a node's attributes. -/
def attributeTypes {ρ : Type} : Body ρ → List String
  | .string a =>
    count "min_length" a.minLength ++ count "max_length" a.maxLength ++
      ifSet "pattern" "a string" Value.isStr a.pattern ++
      ifSet "format" "a string" Value.isStr a.format
  | .number a =>
    bound "minimum" a.minimum ++ bound "maximum" a.maximum ++ bound "multiple_of" a.multipleOf ++
      bound "exclusive_minimum" a.exclusiveMinimum ++ bound "exclusive_maximum" a.exclusiveMaximum
  | .enum a =>
    (if isList a.values then [] else [mistyped "values" "a list" a.values]) ++
      ifSet "names" "a list of strings" isTexts a.names ++
      ifSet "value_type" "a type name" (fun v => v.isStr || isTexts v) a.valueType
  | .object a =>
    count "min_properties" a.minProperties ++ count "max_properties" a.maxProperties
  | .array a =>
    count "min_items" a.minItems ++ count "max_items" a.maxItems ++
      ifSet "unique_items" "a boolean" isTruth a.uniqueItems
  | _ => []

end Check

end FormGraph

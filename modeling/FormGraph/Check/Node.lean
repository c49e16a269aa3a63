import FormGraph.Check.Attributes
import FormGraph.Node.Key
import FormGraph.Text.Pattern

/-!
# Checking a node

What is wrong with the fields of one node, whatever graph it stands in: titles and descriptions are
texts, the key is an identifier, attributes are well typed, and, once they are, fit together.
-/

namespace FormGraph

namespace Check

/-- Complain when a lower limit is above an upper one. -/
def range (lowName highName : String) (low high : Value) : List String :=
  match low.worth?, high.worth? with
  | some l, some h =>
    if h < l then
      [lowName ++ " (" ++ low.quoted ++ ") is greater than " ++ highName ++ " (" ++
        high.quoted ++ ")"]
    else []
  | _, _ => []

/-- Complain about a regular expression that is not well formed. -/
def pattern : Value → Except Fault (List String)
  | .str p =>
    match Pattern.problem? p with
    | none => .ok []
    | some (.complaint c) => .ok ["invalid pattern '" ++ p ++ "': " ++ c.text p]
    | some .uncountable => breakDown .uncountable
    | some (.tooManyDigits count) => .error (.tooManyDigits count)
    | some .clashingFlags => .error .clashingFlags
  | _ => .ok []

/-- Complain about a divisor that is not positive. -/
def divisor (v : Value) : List String :=
  match v.worth? with
  | some w => if w ≤ 0 then ["multiple_of must be positive"] else []
  | none => []

/-- Whether every item of a list is shown in another way. -/
def allDistinct (items : List Value) : Bool :=
  (distinct (items.map Value.quoted)).length = items.length

/-- Complain about the values and names of an enumeration. -/
def choices (a : EnumAttributes) : List String :=
  let values := a.values.list?.getD []
  (if values.isEmpty then ["enum needs at least one value"]
    else if allDistinct values then [] else ["enum values must be unique"]) ++
  match a.names with
  | .list names =>
    if names.length = values.length then [] else ["enum names must match the number of values"]
  | _ => []

/-- Complain about the clauses without a field. -/
def clauseFields {ρ : Type} (clauses : List (Clause ρ)) : List String :=
  (clauses.zipIdx.filter fun p => !p.1.condition.field.holds).map fun p =>
    "clause " ++ toString p.2 ++ " has no condition field"

/-- What is wrong with well-typed attributes taken together. -/
def attributeValues {ρ : Type} : Body ρ → Except Fault (List String)
  | .string a => do
    let ofPattern ← pattern a.pattern
    return range "min_length" "max_length" a.minLength a.maxLength ++ ofPattern
  | .number a => .ok (range "minimum" "maximum" a.minimum a.maximum ++ divisor a.multipleOf)
  | .enum a => .ok (choices a)
  | .array a => .ok (range "min_items" "max_items" a.minItems a.maxItems)
  | .object a => .ok (range "min_properties" "max_properties" a.minProperties a.maxProperties)
  | .reference target =>
    .ok (if target.holds then [] else ["reference needs a target definition"])
  | .group _ clauses => .ok (clauseFields clauses)
  | _ => .ok []

/-- How complaints call a node: by its title, or by its key. -/
def label {ρ : Type} (n : Node ρ) : String :=
  match n.title with
  | .str "" => n.key
  | .str title => title
  | _ => n.key

/-- Complain about a title that is no text, or a blank one; a definition may have a blank one. -/
def title {ρ : Type} (n : Node ρ) : List String :=
  match n.title with
  | .null => []
  | .str t =>
    if n.kind ≠ .definition && trimBlanks t = "" then ["title must not be blank"] else []
  | v => ["title must be a string, got " ++ v.quoted]

/-- Complain about a description that is no text. -/
def description {ρ : Type} (n : Node ρ) : List String :=
  if n.description.isNull || n.description.isStr then []
  else ["description must be a string, got " ++ n.description.quoted]

/-- Complain about a key that is no identifier. -/
def key {ρ : Type} (id : NodeId) (n : Node ρ) : List String :=
  if n.key = "" then ["Node '" ++ id ++ "': key is required"]
  else if Key.isValid n.key then []
  else [label n ++ ": key '" ++ n.key ++ "' is not a valid identifier"]

/-- What is wrong with a node. Attributes are only compared with each other once all of them are
well typed. -/
def node {ρ : Type} (id : NodeId) (n : Node ρ) : Except Fault (List String) := do
  let labelled (complaints : List String) : List String :=
    complaints.map fun c => label n ++ ": " ++ c
  let types := attributeTypes n.body
  let ofAttributes ← if types.isEmpty then attributeValues n.body else pure types
  return labelled (title n ++ description n) ++ key id n ++ labelled ofAttributes

end Check

end FormGraph

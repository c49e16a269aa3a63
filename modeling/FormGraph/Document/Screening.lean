import FormGraph.Value.Basic

/-!
# Screening a document before it is read

A look at the top level of a document, or of a bundle of documents, that says what would make
reading it pointless (errors) and what is worth showing (warnings). Nothing is too odd to be
screened, and what lies deeper is left to the reading itself. `DocumentSummary` counts what a
document would bring.
-/

namespace FormGraph

/-- What a look at a document found. -/
structure Screening where
  /-- What stands in the way of reading it. -/
  errors : List String := []
  /-- What is worth showing. -/
  warnings : List String := []
  deriving DecidableEq, Repr, Inhabited

namespace Screening

/-- Both findings, the first ones first. -/
def append (a b : Screening) : Screening := ⟨a.errors ++ b.errors, a.warnings ++ b.warnings⟩

instance : Append Screening := ⟨append⟩

@[simp] theorem errors_append (a b : Screening) : (a ++ b).errors = a.errors ++ b.errors := rfl

@[simp] theorem warnings_append (a b : Screening) :
    (a ++ b).warnings = a.warnings ++ b.warnings := rfl

/-- Nothing found. -/
def none : Screening := {}

/-- One error. -/
def error (text : String) : Screening := { errors := [text] }

/-- One warning. -/
def warning (text : String) : Screening := { warnings := [text] }

/-- Whether nothing stands in the way of reading the document. -/
def isValid (s : Screening) : Bool := s.errors.isEmpty

/-- The findings as a document value. -/
def toMembers (s : Screening) : Members :=
  [("valid", .bool s.isValid), ("errors", Value.ofStrings s.errors),
    ("warnings", Value.ofStrings s.warnings)]

/-- Screen a member if it is there. -/
def ofMember (members : Members) (name : String) (screen : Value → Screening) : Screening :=
  match Entries.find? members name with
  | some v => screen v
  | Option.none => none

/-- The types that a document can declare. -/
def knownTypes : List String :=
  ["string", "number", "integer", "boolean", "object", "array", "null"]

/-- The keywords of which a document has at least one. -/
def contentKeywords : List String :=
  ["type", "properties", "definitions", "allOf", "anyOf", "oneOf", "if"]

/-- Warn of declared types that are not known. -/
def declaredType (declared : Value) : Screening :=
  match declared with
  | .str t => if t ∈ knownTypes then none else warning ("Unknown type: " ++ t)
  | .list items =>
    match (items.filterMap Value.str?).filter fun t => t ∉ knownTypes with
    | [] => none
    | unknown => warning ("Unknown types: " ++ ", ".intercalate unknown)
  | _ => none

/-- What must be an object. -/
def objectMember (keyword : String) (v : Value) : Screening :=
  if v.isObj then none else error (keyword ++ " must be an object")

/-- What must be a list of objects; an empty list is worth a warning. -/
def schemaList (keyword : String) (v : Value) : Screening :=
  match v with
  | .list [] => warning (keyword ++ " is empty")
  | .list items =>
    { errors := (items.zipIdx.filter fun p => !p.1.isObj).map fun p =>
        keyword ++ "[" ++ toString p.2 ++ "] must be an object" }
  | _ => error (keyword ++ " must be an array")

/-- Screen several members in turn. -/
def members (ms : Members) (keywords : List String) (screen : String → Value → Screening) :
    Screening :=
  keywords.foldl (fun s k => s ++ ofMember ms k (screen k)) none

/-- Screen the members of a document. -/
def ofMembers (ms : Members) : Screening :=
  (if contentKeywords.any (Entries.has ms) then none
    else error ("Schema must have at least one of: " ++ ", ".intercalate contentKeywords)) ++
  ofMember ms "type" declaredType ++
  members ms ["properties", "definitions"] objectMember ++
  members ms ["allOf", "anyOf", "oneOf"] schemaList ++
  (if Entries.has ms "if" then members ms ["if", "then", "else"] objectMember else none)

/-- Screen a document. -/
def document (v : Value) : Screening :=
  match v with
  | .obj ms => ofMembers ms
  | _ => error "Schema must be an object"

/-- What should be an object, and is dropped when it is none. -/
def companion (keyword : String) (v : Value) : Screening :=
  if v.isObj then none else warning (keyword ++ " must be an object")

/-- Screen a bundle of a document with its companions. -/
def bundle (v : Value) : Screening :=
  match v with
  | .obj ms =>
    (match Entries.find? ms "schema" with
      | some schema => document schema
      | Option.none => error "Missing required field: schema") ++
    members ms ["uiSchema", "formData"] companion
  | _ => error "Import data must be an object"

end Screening

/-- How much there is in a document. -/
structure DocumentSummary where
  /-- How many properties the root has. -/
  fieldCount : Nat := 0
  /-- How many definitions there are. -/
  definitionCount : Nat := 0
  /-- How many conditional clauses the root has; an `if` block counts as one. -/
  conditionalCount : Nat := 0
  deriving DecidableEq, Repr, Inhabited

namespace DocumentSummary

/-- The summary as members of a document object. -/
def toMembers (s : DocumentSummary) : Members :=
  [("field_count", .int s.fieldCount), ("definition_count", .int s.definitionCount),
    ("conditional_count", .int s.conditionalCount)]

/-- How many members a value has, if it is an object. -/
def memberCount (v : Value) : Nat := (v.obj?.getD []).length

/-- How many items a value has, if it is a list. -/
def itemCount (v : Value) : Nat := (v.list?.getD []).length

/-- Sum up a document; what is no object has nothing in it. -/
def ofDocument (v : Value) : DocumentSummary :=
  match v with
  | .obj ms =>
    { fieldCount := memberCount (Value.member ms "properties")
      definitionCount := memberCount (Value.member ms "definitions")
      conditionalCount :=
        itemCount (Value.member ms "allOf") + itemCount (Value.member ms "anyOf") +
          itemCount (Value.member ms "oneOf") + if (Value.member ms "if").holds then 1 else 0 }
  | _ => {}

end DocumentSummary

end FormGraph

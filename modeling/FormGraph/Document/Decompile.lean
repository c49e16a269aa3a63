import FormGraph.Check.Attributes
import FormGraph.Document.Compile
import FormGraph.Document.Outline
import FormGraph.Json.Writer

/-!
# Reading a document as a graph

A document is read into an outline. An enumeration is one whatever its type; `integer` is a number;
a pointer at a definition is a reference; and an object's `if`, `allOf`, `anyOf` and `oneOf` become
groups where they have the form that groups are written in. What is not interpreted is kept as it
is.

Nothing stops the reading: what a graph cannot hold is noted as an issue, what is kept or changed
only as a warning, and any issue refuses the document as a whole, with everything that was noted.
The reader for one schema is given the reader for the schemas within it (`below`), and the recursion
is closed over the depth of the document.
-/

namespace FormGraph

/-- What is noted while a document is read. -/
inductive ReadingNote where
  /-- The document cannot be read as a graph. -/
  | issue (text : String)
  /-- Something is kept or changed. -/
  | warning (text : String)
  /-- A condition list is neither a list nor a text nor an object, so nothing to go through. -/
  | unusable
  deriving DecidableEq

namespace ReadingNote

/-- The text of an issue. -/
def issue? : ReadingNote → Option String
  | .issue text => some text
  | _ => none

/-- The text of a warning. -/
def warning? : ReadingNote → Option String
  | .warning text => some text
  | _ => none

end ReadingNote

/-- A document that is being read. -/
abbrev Reading := Noted ReadingNote

namespace Reading

/-- Note an issue. -/
def issue (text : String) : Reading Unit := Noted.tell [.issue text]

/-- Note a warning. -/
def warn (text : String) : Reading Unit := Noted.tell [.warning text]

/-- Note a warning when there is reason to. -/
def warnIf (reason : Bool) (text : String) : Reading Unit := if reason then warn text else pure ()

end Reading

namespace Decompile

open Reading

/-- Keywords that every node reads. -/
def annotationKeywords : List String := ["title", "description", "default"]

/-- Keywords that are kept without a warning. -/
def silentKeywords : List String :=
  ["$schema", "$id", "$comment", "examples", "readOnly", "writeOnly", "deprecated"]

/-- The groups that are lists of clauses. -/
def listGroups : List GroupKind := [.allOf, .anyOf, .oneOf]

/-- The kind of node of a document type. -/
def kindOfType? (type : String) : Option NodeKind :=
  match type with
  | "string" => some .string
  | "number" => some .number
  | "integer" => some .number
  | "boolean" => some .boolean
  | "object" => some .object
  | "array" => some .array
  | _ => none

/-- The title of a schema, when it is a text. -/
def titleOf (schema : Members) : Option String := (Value.member schema "title").str?

/-- Whether any of the keywords stands in a schema. -/
def hasAny (schema : Members) (keywords : List String) : Bool := keywords.any (Entries.has schema)

/-! ## The form of groups -/

/-- Whether the test of an `if` block can be read: it is empty, or a condition, or a list of
conditions and nothing else. -/
def isTest (test : Value) : Bool :=
  match test with
  | .obj members =>
    members.isEmpty || Condition.isFragment test ||
      (match members with
        | [("allOf", .list (c :: cs))] => (c :: cs).all Condition.isFragment
        | _ => false)
  | _ => false

/-- Whether an entry of a group can be read as a clause. -/
def isClause (entry : Value) : Bool :=
  match entry with
  | .obj members =>
    match Entries.find? members "if" with
    | some test => Condition.isFragment test
    | none => false
  | _ => false

/-- The kind of group that a schema can be read as, if it can. -/
def groupKind? (schema : Value) : Option GroupKind :=
  match schema with
  | .obj members =>
    match Entries.find? members "if" with
    | some test => if isTest test then some .ifBlock else none
    | none =>
      match listGroups.filter fun k => Entries.has members k.name with
      | [kind] =>
        if hasAny members ["properties", "type", "$ref"] then none
        else
          match Value.member members kind.name with
          | .list entries => if entries.all isClause then some kind else none
          | _ => none
      | _ => none
  | _ => none

/-- The kind of group that a schema is read as when it is nothing else. -/
def bareGroupKind? (schema : Value) : Option GroupKind :=
  match schema with
  | .obj members =>
    if hasAny members ["type", "$ref", "enum", "properties", "items"] then none
    else groupKind? schema
  | _ => none

/-- Whether a branch that lists one property is read as that property: it is a field or an array. -/
def isWrappable (schema : Value) : Bool :=
  match schema with
  | .obj members =>
    if Entries.has members "$ref" then false
    else if Entries.has members "enum" then true
    else
      let declared := match Value.member members "type" with
        | .list types => (types.find? fun t => t ≠ Value.str "null").getD (.str "string")
        | v => v
      match Value.member members "type", declared with
      | .null, _ => Entries.has members "items"
      | _, .str type => ((kindOfType? type).getD .string).isAddressable
      | _, _ => false
  | _ => false

/-! ## Parts of a node -/

/-- A text of a schema; anything else is an issue. -/
def textOf (schema : Members) (keyword path : String) : Reading Value :=
  match Value.member schema keyword with
  | .null => return .null
  | .str s => return .str s
  | v => do
    issue (path ++ "/" ++ keyword ++ ": must be a string, got " ++ v.quoted)
    return .null

/-- What is left of a schema once the given keywords are read. -/
def leftovers (kind : NodeKind) (schema : Members) (consumed : List String) (path : String) :
    Reading Members := do
  let left := schema.filter fun e =>
    !consumed.contains e.1 && !annotationKeywords.contains e.1
  left.forM fun e =>
    warnIf (!silentKeywords.contains e.1)
      (path ++ ": keyword '" ++ e.1 ++ "' is not modelled for " ++ kind.name ++
        " and is passed through")
  return left

/-- A node with its title, description, default and what is left of its schema. `kept` is written
over what is left. -/
def nodeOf (key : String) (body : Body Nat) (schema : Members) (consumed : List String)
    (kept : Members) (required : Bool) (path : String) : Reading (Node Nat) := do
  let left ← leftovers body.kind schema consumed path
  let title ← textOf schema "title" path
  let description ← textOf schema "description" path
  return {
    key := key
    body := body
    title := title
    description := description
    required := required
    default := Entries.find? schema "default"
    extras := Entries.putAll left kept }

/-- The kind of node that a schema is read as. -/
def inferKind (schema : Members) (path : String) : Reading NodeKind := do
  if Entries.has schema "enum" then return .enum
  let declared ← match Value.member schema "type" with
    | .list types => do
      let narrowed := (types.find? fun t => t ≠ Value.str "null").getD (.str "string")
      warn (path ++ ": type list " ++ (Value.list types).quoted ++ " narrowed to '" ++
        narrowed.plain ++ "'")
      pure narrowed
    | v => pure v
  match declared with
  | .null => return if Entries.has schema "items" then .array else .object
  | .str type =>
    match kindOfType? type with
    | some kind => return kind
    | none => do
      warn (path ++ ": unsupported type " ++ quotedText type ++ " imported as string")
      return .string
  | v => do
    issue (path ++ "/type: must be a string or a list of strings, got " ++ v.quoted)
    return .string

/-- The definition that a pointer points at, among those there are. -/
def targetOf (names : List String) (pointer : Value) (path : String) : Reading String :=
  match pointer with
  | .str p =>
    if Compile.pointerFront.toList.isPrefixOf p.toList then do
      let name := String.ofList (p.toList.drop Compile.pointerFront.length)
      if names.contains name then return name
      else do
        issue (path ++ ": $ref points at unknown definition '" ++ name ++ "'")
        return name
    else do
      issue (path ++ ": unsupported $ref " ++ quotedText p)
      return p
  | v => do
    issue (path ++ ": unsupported $ref " ++ v.quoted)
    return v.plain

/-! ## Schemas within schemas -/

/-- What a schema within another one may be read as. -/
inductive Role where
  /-- A field, whatever its form. -/
  | field
  /-- A field, or a group when the schema is nothing else. -/
  | content
  deriving DecidableEq

/-- A schema within another one, with where it stands and what it becomes. -/
structure Inner where
  /-- What it may be read as. -/
  role : Role
  /-- The schema. -/
  schema : Value
  /-- The key of its node. -/
  key : String
  /-- Whether its node is required. -/
  required : Bool := false
  /-- Where it stands. -/
  path : String

/-- A reader of inner schemas; there is no outline of what is not a schema. -/
abbrev Reader := Inner → Reading (Option Outline)

/-! ## Groups -/

/-- What a branch becomes: the one property that it lists, when that is a field, and otherwise what
its schema says. -/
def branchInner (schema : Members) (kind : EdgeKind) (path : String) : Inner :=
  let asContent : Inner :=
    { role := .content
      schema := .obj schema
      key := Key.derive (titleOf schema) kind.name
      path := path }
  if (Entries.names schema).all fun n => n = "properties" || n = "required" then
    match Value.member schema "properties" with
    | .obj [(key, sub)] =>
      if isWrappable sub then
        let required := match Value.member schema "required" with
          | .list items => items.contains (.str key)
          | _ => false
        { role := .field, schema := sub, key := key, required := required
          path := path ++ "/properties/" ++ key }
      else asContent
    | _ => asContent
  else asContent

/-- Read a branch. -/
def branch (below : Reader) (schema : Value) (kind : EdgeKind) (path : String) :
    Reading (Option Outline) :=
  match schema with
  | .obj members => below (branchInner members kind path)
  | _ => do
    issue (path ++ ": branch must be a schema object")
    return none

/-- What has been read of a group: its clauses, what hangs below it, and the branches that were read
already, under what they say. -/
structure GroupParts where
  /-- The clauses, pointing at positions in `below`. -/
  clauses : List (Clause Nat) := []
  /-- The branches. -/
  below : List (EdgeKind × Outline) := []
  /-- For each kind of edge and canonical text, the position of the branch; none when the branch
  was no schema. -/
  seen : List ((EdgeKind × String) × Option Nat) := []

/-- Hang a branch below a group; its position is returned. -/
def GroupParts.hang (parts : GroupParts) (kind : EdgeKind) (o : Option Outline) :
    GroupParts × Option Nat :=
  match o with
  | none => (parts, none)
  | some o => ({ parts with below := parts.below ++ [(kind, o)] }, some parts.below.length)

/-- Read a branch of a clause, unless one that says the same was read before. -/
def sharedBranch (below : Reader) (kind : EdgeKind) (path : String) (schema : Option Value)
    (parts : GroupParts) : Reading (GroupParts × Option Nat) :=
  match schema with
  | none => return (parts, none)
  | some schema => do
    let marker := (kind, schema.canonicalJson)
    match parts.seen.find? fun s => s.1 = marker with
    | some (_, position) => return (parts, position)
    | none =>
      let o ← branch below schema kind path
      let (parts, position) := parts.hang kind o
      return ({ parts with seen := parts.seen ++ [(marker, position)] }, position)

/-- Read the condition at the front of a schema, noting its warnings. -/
def conditionOf (test : Value) (path : String) : Reading (Option Condition) := do
  let (condition, warnings) := Condition.parse test path
  warnings.forM warn
  return condition

/-- Keywords of a clause. -/
def clauseKeywords : List String := ["if", "then", "else"]

/-- Read one clause of a list group. A second branch that always fails says nothing, except where
all clauses have to hold. -/
def clauseOf (below : Reader) (kind : GroupKind) (path : String) (parts : GroupParts)
    (entry : Members) : Reading GroupParts := do
  let condition ← conditionOf (Value.member entry "if") (path ++ "/if")
  let ignored := ((Entries.names entry).filter fun n =>
    !clauseKeywords.contains n).mergeSort fun a b => a ≤ b
  warnIf (!ignored.isEmpty)
    (path ++ ": clause keywords " ++ quotedTexts ignored ++ " are dropped")
  let (parts, onTrue) ← sharedBranch below .thenBranch (path ++ "/then")
    (Entries.find? entry "then") parts
  let failing := (Value.member entry "else").same Compile.failingBranch && kind ≠ .allOf
  let (parts, onFalse) ← sharedBranch below .elseBranch (path ++ "/else")
    (if failing then none else Entries.find? entry "else") parts
  match condition with
  | none => return parts
  | some c => return { parts with clauses := parts.clauses ++ [⟨c, onTrue, onFalse⟩] }

/-- Read the clauses of a list group. -/
def clausesOf (below : Reader) (kind : GroupKind) (entries : List Value) (path : String) :
    Reading GroupParts :=
  entries.zipIdx.foldlM
    (fun parts p => match p.1 with
      | .obj entry => clauseOf below kind (path ++ "/" ++ toString p.2) parts entry
      | _ => return parts)
    {}

/-- The conditions of an `if` block. Of a text or an object in the place of the list there is no
condition to read. -/
def testsOf (test : Members) (path : String) : Reading (List Condition) := do
  let tests ← match Entries.find? test "allOf" with
    | none => pure (if test.isEmpty then [] else [Value.obj test])
    | some (.list tests) => pure tests
    | some (.str _) => pure []
    | some (.obj _) => pure []
    | some _ => do
      Noted.tell [.unusable]
      pure []
  let conditions ← tests.mapM fun t => conditionOf t (path ++ "/if")
  return conditions.filterMap id

/-- Read an `if` block. -/
def blockOf (below : Reader) (block : Members) (path : String) : Reading GroupParts := do
  let conditions ← testsOf ((Value.member block "if").obj?.getD []) path
  let read (keyword : String) (kind : EdgeKind) : Reading (Option Outline) :=
    match Entries.find? block keyword with
    | none => return none
    | some schema => branch below schema kind (path ++ "/" ++ keyword)
  let (parts, onTrue) := ({} : GroupParts).hang .thenBranch (← read "then" .thenBranch)
  let (parts, onFalse) := parts.hang .elseBranch (← read "else" .elseBranch)
  return { parts with clauses := conditions.map fun c => ⟨c, onTrue, onFalse⟩ }

/-- Read a group; its key is derived from its title and differs from the keys that are taken. -/
def group (below : Reader) (kind : GroupKind) (schema : Members) (taken : List String)
    (path : String) : Reading Outline := do
  let parts ← match kind with
    | .ifBlock => blockOf below schema path
    | kind =>
      let entries := (Value.member schema kind.name).list?.getD []
      clausesOf below kind entries (path ++ "/" ++ kind.name)
  let consumed := match kind with
    | .ifBlock => clauseKeywords
    | kind => [kind.name]
  let key := Key.unique (Key.derive (titleOf schema) (NodeKind.group kind).fallbackKey) taken
  let n ← nodeOf key (.group kind parts.clauses) schema consumed [] false path
  return .mk n parts.below

/-! ## Objects and arrays -/

/-- What has been read of an object. -/
structure ObjectParts where
  /-- The children. -/
  children : List Outline := []
  /-- The keywords that were read. -/
  consumed : List String := []
  /-- What is kept of a keyword that was read in part. -/
  kept : Members := []

/-- The keys that the children have. -/
def ObjectParts.keys (parts : ObjectParts) : List String := parts.children.map fun o => o.node.key

/-- Read a group among the children of an object. -/
def childGroup (below : Reader) (kind : GroupKind) (schema : Members) (path : String)
    (consumed : List String) (parts : ObjectParts) : Reading ObjectParts := do
  let o ← group below kind schema parts.keys path
  return { parts with
    children := parts.children ++ [o]
    consumed := parts.consumed ++ consumed }

/-- The property names that an object requires. -/
def requiredOf (schema : Members) (path : String) : Reading (List String × List String) :=
  match Entries.find? schema "required" with
  | none => return ([], [])
  | some (.list items) =>
    if items.all Value.isStr then return (items.filterMap Value.str?, ["required"])
    else do
      issue (path ++ "/required: must be a list of property names")
      return ([], [])
  | some _ => do
    issue (path ++ "/required: must be a list of property names")
    return ([], [])

/-- The properties of an object. -/
def propertiesOf (schema : Members) (path : String) : Reading (Members × List String) :=
  match Value.member schema "properties" with
  | .null => return ([], [])
  | .obj properties => return (properties, ["properties"])
  | _ => do
    issue (path ++ "/properties: must be an object")
    return ([], [])

/-- Read a property. -/
def property (below : Reader) (required : List String) (path : String) (p : String × Value) :
    Reading (Option Outline) := do
  warnIf (!Key.isValid p.1)
    (path ++ "/properties: property name '" ++ p.1 ++ "' is not an identifier; kept verbatim")
  below { role := .field, schema := p.2, key := p.1, required := required.contains p.1,
          path := path ++ "/properties/" ++ p.1 }

/-- Read the `if` block of an object. -/
def ownBlock (below : Reader) (schema : Members) (path : String) (parts : ObjectParts) :
    Reading ObjectParts :=
  if Entries.has schema "if" then do
    let block := clauseKeywords.filterMap fun k =>
      (Entries.find? schema k).map fun v => (k, v)
    if groupKind? (.obj block) = some .ifBlock then
      childGroup below .ifBlock block path (Entries.names block) parts
    else do
      warn (path ++ ": unsupported 'if' condition is passed through")
      return parts
  else return parts

/-- Read the `allOf` list of an object: its groups become children, its other entries are kept. -/
def ownAllOf (below : Reader) (schema : Members) (path : String) (parts : ObjectParts) :
    Reading ObjectParts :=
  match Value.member schema "allOf" with
  | .list items => do
    let (parts, others) ← items.zipIdx.foldlM
      (fun acc p => match p.1, groupKind? p.1 with
        | .obj members, some kind => do
          let parts ← childGroup below kind members (path ++ "/allOf/" ++ toString p.2) [] acc.1
          return (parts, acc.2)
        | v, _ => return (acc.1, acc.2 ++ [v]))
      ({ parts with consumed := parts.consumed ++ ["allOf"] }, [])
    if others.isEmpty then return parts
    else do
      warn (path ++ "/allOf: " ++ toString others.length ++
        " entries without a supported condition; passed through after the conditionals")
      return { parts with kept := [("allOf", .list others)] }
  | .null => return parts
  | _ => do
    warn (path ++ "/allOf: not a list; passed through")
    return parts

/-- Read the `anyOf` or `oneOf` list of an object. -/
def ownListGroup (below : Reader) (schema : Members) (path : String) (parts : ObjectParts)
    (kind : GroupKind) : Reading ObjectParts :=
  match Entries.find? schema kind.name with
  | none => return parts
  | some entries => do
    let lone : Members := [(kind.name, entries)]
    if (groupKind? (.obj lone)).isSome then
      childGroup below kind lone path [kind.name] parts
    else do
      warn (path ++ "/" ++ kind.name ++
        ": entries without a supported condition; passed through")
      return parts

/-- Read what hangs below an object: its properties in order, then its groups. -/
def objectParts (below : Reader) (schema : Members) (path : String) : Reading ObjectParts := do
  let (required, readRequired) ← requiredOf schema path
  let (properties, readProperties) ← propertiesOf schema path
  let fields ← properties.mapM (property below required path)
  let unknown := required.filter fun r => !Entries.has properties r
  warnIf (!unknown.isEmpty)
    (path ++ "/required: names unknown properties " ++ quotedTexts unknown ++ "; dropped")
  let parts : ObjectParts :=
    { children := fields.filterMap id, consumed := readRequired ++ readProperties }
  let parts ← ownBlock below schema path parts
  let parts ← ownAllOf below schema path parts
  let parts ← ownListGroup below schema path parts .anyOf
  ownListGroup below schema path parts .oneOf

/-- The schema of the items of an array, if there is one to read. -/
def itemSchema (tupleItems : TupleItems) (items : Value) (path : String) :
    Reading (Option Value) :=
  match items with
  | .list schemas =>
    match tupleItems with
    | .reject => do
      issue (path ++ ": tuple-form items are not supported")
      return none
    | .first => do
      warn (path ++ ": tuple-form items reduced to the first schema (" ++
        toString schemas.length ++ " given)")
      return schemas.head?
  | v => return some v

/-- Read the item of an array. -/
def arrayItem (below : Reader) (tupleItems : TupleItems) (schema : Members) (path : String) :
    Reading (Option Outline) :=
  match Entries.find? schema "items" with
  | none => return none
  | some items => do
    let path := path ++ "/items"
    match ← itemSchema tupleItems items path with
    | none => return none
    | some (.obj item) =>
      below { role := .content, schema := .obj item, key := Key.derive (titleOf item) "item",
              path := path }
    | some _ => do
      issue (path ++ ": must be a schema object")
      return none

/-! ## Whole schemas -/

/-- Read a schema that is no reference as a node of the kind it declares. -/
def typed (below : Reader) (tupleItems : TupleItems) (inner : Inner) (schema : Members) :
    Reading Outline := do
  let path := inner.path
  let kind ← inferKind schema path
  let body : Body Nat := Body.ofFragment kind schema
  (Check.attributeTypes body).forM fun problem => issue (path ++ ": " ++ problem)
  let attributes := "type" :: Body.vocabulary kind
  let parts ← match kind with
    | .object => objectParts below schema path
    | .array => do
      let item ← arrayItem below tupleItems schema path
      pure { children := item.toList, consumed := ["items"] }
    | _ => pure {}
  let n ← nodeOf inner.key body schema (attributes ++ parts.consumed) parts.kept inner.required path
  return .mk n (parts.children.map fun o => (.child, o))

/-- Read a schema that is a pointer. -/
def pointing (names : List String) (inner : Inner) (schema : Members) : Reading Outline := do
  let target ← targetOf names (Value.member schema "$ref") inner.path
  let n ← nodeOf inner.key (.reference (.str target)) schema ["$ref"] [] inner.required inner.path
  return .mk n []

/-- Read a schema, given how the schemas within it are read. -/
def schema (below : Reader) (tupleItems : TupleItems) (names : List String) : Reader := fun inner =>
  match inner.schema with
  | .obj members =>
    match if inner.role = .content then bareGroupKind? inner.schema else none with
    | some kind => return some (← group below kind members [] inner.path)
    | none =>
      if Entries.has members "$ref" then return some (← pointing names inner members)
      else return some (← typed below tupleItems inner members)
  | v => do
    issue (inner.path ++ ": schema must be an object, got " ++ v.kindName)
    return none

/-- Read a schema and the schemas within it, down to a depth. -/
def reader (tupleItems : TupleItems) (names : List String) : Nat → Reader
  | 0 => fun _ => ⟨none, [.unusable]⟩
  | depth + 1 => schema (reader tupleItems names depth) tupleItems names

/-- Read the content of a definition; an empty object stands for none. -/
def definitionOf (below : Reader) (entry : String × Value) : Reading DefinitionOutline := do
  let content ← match entry.2 with
    | .obj [] => pure none
    | v => below {
        role := .content
        schema := v
        key := if Key.isValid entry.1 then entry.1 else Key.derive (some entry.1) "field"
        path := "#/definitions/" ++ entry.1 }
  return ⟨entry.1, content⟩

/-- Read a whole document. Its root is an object, whatever attributes it has. -/
def outline (tupleItems : TupleItems) (document : Members) : Reading DocumentOutline := do
  let declared := Value.member document "type"
  if !declared.isNull && declared ≠ .str "object" then
    issue ("#: root type must be 'object', got " ++ declared.quoted)
  let table ← match Entries.find? document Compile.definitionsKeyword with
    | none => pure []
    | some (.obj table) => pure table
    | some _ => do
      issue "#/definitions: must be an object"
      pure []
  let below := reader tupleItems (Entries.names table) (Value.obj document).depth
  let definitions ← table.mapM (definitionOf below)
  let parts ← objectParts below document "#"
  let attributes := ["type", Compile.definitionsKeyword] ++ Body.vocabulary .object
  let n ← nodeOf rootName (Body.ofFragment .object document) document (attributes ++ parts.consumed)
    parts.kept false "#"
  return ⟨definitions, .mk n (parts.children.map fun o => (.child, o))⟩

end Decompile

/-- A graph with the warnings about where it came from. -/
structure Imported where
  /-- The graph. -/
  graph : Graph
  /-- The warnings. -/
  warnings : List String

namespace Graph

/-- The outline of a document and the warnings about it, or why there is none. -/
def outlineOf (document : Value) (cfg : DocumentConfig) :
    Except Fault (DocumentOutline × List String) :=
  match document with
  | .obj members =>
    let read := Decompile.outline cfg.tupleItems members
    let issues := read.notes.filterMap ReadingNote.issue?
    let warnings := read.notes.filterMap ReadingNote.warning?
    if read.notes.contains .unusable then breakDown .unusableValue
    else if issues.isEmpty then .ok (read.value, warnings)
    else refuse (.malformed issues warnings)
  | v => refuse (.malformed ["#: document must be an object, got " ++ v.kindName] [])

/-- Read a document as a graph, taking names for its nodes. -/
def decompile (document : Value) (cfg : DocumentConfig) : Edit Imported := do
  let (outline, warnings) ← outlineOf document cfg
  let g ← ofOutline outline
  return ⟨g, warnings⟩

end Graph

end FormGraph

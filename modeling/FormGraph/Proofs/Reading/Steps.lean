import FormGraph.Document.Decompile
import FormGraph.Proofs.Notes

/-!
# The reader step by step

Names for the parts that the reader for one schema goes through, and for each function the equation
that puts it together from them. Statements about what is read follow these equations, and so do
statements about what is noted.
-/

namespace FormGraph

namespace Decompile

open Reading

variable (below : Reader)

/-- Read the branch of an `if` block under a keyword, when there is one. -/
def blockBranch (block : Members) (keyword : String) (kind : EdgeKind) (path : String) :
    Reading (Option Outline) :=
  match Entries.find? block keyword with
  | none => return none
  | some schema => branch below schema kind (path ++ "/" ++ keyword)

theorem blockOf_eq (block : Members) (path : String) :
    blockOf below block path = (do
      let conditions ← testsOf ((Value.member block "if").obj?.getD []) path
      let onTrue ← blockBranch below block "then" .thenBranch path
      let hung := ({} : GroupParts).hang .thenBranch onTrue
      let onFalse ← blockBranch below block "else" .elseBranch path
      let hungBoth := hung.1.hang .elseBranch onFalse
      return { hungBoth.1 with clauses := conditions.map fun c => ⟨c, hung.2, hungBoth.2⟩ }) :=
  rfl

/-- Read what hangs below a group. -/
def groupParts (kind : GroupKind) (schema : Members) (path : String) : Reading GroupParts :=
  match kind with
  | .ifBlock => blockOf below schema path
  | kind =>
    clausesOf below kind ((Value.member schema kind.name).list?.getD []) (path ++ "/" ++ kind.name)

/-- The keywords that a group reads. -/
def groupKeywords : GroupKind → List String
  | .ifBlock => clauseKeywords
  | kind => [kind.name]

/-- The key of a group among keys that are taken. -/
def groupKey (kind : GroupKind) (schema : Members) (taken : List String) : String :=
  Key.unique (Key.derive (titleOf schema) (NodeKind.group kind).fallbackKey) taken

theorem group_eq (kind : GroupKind) (schema : Members) (taken : List String) (path : String) :
    group below kind schema taken path = (do
      let parts ← groupParts below kind schema path
      let n ← nodeOf (groupKey kind schema taken) (.group kind parts.clauses) schema
        (groupKeywords kind) [] false path
      return .mk n parts.below) := by
  cases kind <;> rfl

/-- Read an entry of a list group; what is no object is passed over. -/
def clauseEntry (kind : GroupKind) (path : String) (parts : GroupParts) (p : Value × Nat) :
    Reading GroupParts :=
  match p.1 with
  | .obj entry => clauseOf below kind (path ++ "/" ++ toString p.2) parts entry
  | _ => return parts

theorem clausesOf_eq (kind : GroupKind) (entries : List Value) (path : String) :
    clausesOf below kind entries path =
      entries.zipIdx.foldlM (clauseEntry below kind path) {} := by
  unfold clausesOf
  congr 1

/-- The declared type of a schema; of a list of types the first one but `null` counts. -/
def declaredType (schema : Members) (path : String) : Reading Value :=
  match Value.member schema "type" with
  | .list types => do
    let narrowed := (types.find? fun t => t ≠ Value.str "null").getD (.str "string")
    warn (path ++ ": type list " ++ (Value.list types).quoted ++ " narrowed to '" ++
      narrowed.plain ++ "'")
    return narrowed
  | v => return v

/-- The kind of node of a declared type. -/
def kindOfDeclared (schema : Members) (path : String) (declared : Value) : Reading NodeKind :=
  match declared with
  | .null => return if Entries.has schema "items" then .array else .object
  | .str type =>
    match kindOfType? type with
    | some kind => return kind
    | none => do
      warn (path ++ ": unsupported type " ++ quotedText type ++ " imported as string")
      return .string
  | v => do
    issue (path ++ "/type: must be a string or a list of strings, got " ++ v.quoted)
    return .string

theorem inferKind_eq (schema : Members) (path : String) :
    inferKind schema path =
      if Entries.has schema "enum" then return .enum
      else declaredType schema path >>= kindOfDeclared schema path := by
  unfold inferKind declaredType
  split
  · rfl
  · cases Value.member schema "type" <;> rfl

/-- Read an entry of the `allOf` list of an object: a group becomes a child, anything else is put
aside. -/
def allOfEntry (path : String) (acc : ObjectParts × List Value) (p : Value × Nat) :
    Reading (ObjectParts × List Value) :=
  match p.1, groupKind? p.1 with
  | .obj members, some kind => do
    let parts ← childGroup below kind members (path ++ "/allOf/" ++ toString p.2) [] acc.1
    return (parts, acc.2)
  | v, _ => return (acc.1, acc.2 ++ [v])

/-- Keep the entries of an `allOf` list that are no groups. -/
def keepOthers (path : String) (acc : ObjectParts × List Value) : Reading ObjectParts :=
  if acc.2.isEmpty then return acc.1
  else do
    warn (path ++ "/allOf: " ++ toString acc.2.length ++
      " entries without a supported condition; passed through after the conditionals")
    return { acc.1 with kept := [("allOf", .list acc.2)] }

theorem ownAllOf_eq (schema : Members) (path : String) (parts : ObjectParts) :
    ownAllOf below schema path parts =
      match Value.member schema "allOf" with
      | .list items =>
        items.zipIdx.foldlM (allOfEntry below path)
          ({ parts with consumed := parts.consumed ++ ["allOf"] }, []) >>= keepOthers path
      | .null => return parts
      | _ => do
        warn (path ++ "/allOf: not a list; passed through")
        return parts := by
  unfold ownAllOf
  cases Value.member schema "allOf" <;> rfl

/-- Read what hangs below a node of the given kind. -/
def partsOf (tupleItems : TupleItems) (kind : NodeKind) (schema : Members) (path : String) :
    Reading ObjectParts :=
  match kind with
  | .object => objectParts below schema path
  | .array => do
    let item ← arrayItem below tupleItems schema path
    return { children := item.toList, consumed := ["items"] }
  | _ => return {}

/-- Note the attributes of a wrong type. -/
def attributeIssues (body : Body Nat) (path : String) : Reading Unit :=
  (Check.attributeTypes body).forM fun problem => issue (path ++ ": " ++ problem)

theorem typed_eq (tupleItems : TupleItems) (inner : Inner) (schema : Members) :
    typed below tupleItems inner schema = (do
      let kind ← inferKind schema inner.path
      attributeIssues (Body.ofFragment kind schema) inner.path
      let parts ← partsOf below tupleItems kind schema inner.path
      let n ← nodeOf inner.key (Body.ofFragment kind schema) schema
        (("type" :: Body.vocabulary kind) ++ parts.consumed) parts.kept inner.required inner.path
      return .mk n (parts.children.map fun o => (.child, o))) := by
  unfold typed
  refine bind_congr fun kind => ?_
  refine bind_congr fun _ => ?_
  cases kind with
  | array => simp only [partsOf, bind_assoc, pure_bind]
  | object | string | number | boolean | enum | group _ | definition | reference => rfl

/-- The content of a definition as a schema within the document. -/
def definitionInner (entry : String × Value) : Inner :=
  { role := .content
    schema := entry.2
    key := if Key.isValid entry.1 then entry.1 else Key.derive (some entry.1) "field"
    path := "#/definitions/" ++ entry.1 }

/-- Read what a definition contains; an empty object stands for nothing. -/
def definitionContent (entry : String × Value) : Reading (Option Outline) :=
  if entry.2 = .obj [] then return none else below (definitionInner entry)

theorem definitionOf_eq (entry : String × Value) :
    definitionOf below entry = (do
      let content ← definitionContent below entry
      return ⟨entry.1, content⟩) := by
  obtain ⟨name, v⟩ := entry
  unfold definitionOf definitionContent
  by_cases h : v = .obj []
  · subst h
    rfl
  · rw [if_neg h]
    dsimp only
    split
    · exact absurd rfl h
    · rfl

/-- The table of definitions of a document. -/
def definitionTable (document : Members) : Reading Members :=
  match Entries.find? document Compile.definitionsKeyword with
  | none => return []
  | some (.obj table) => return table
  | some _ => do
    issue "#/definitions: must be an object"
    return []

/-- Note a type of the root that is not that of an object. -/
def rootTypeIssue (document : Members) : Reading Unit :=
  let declared := Value.member document "type"
  if !declared.isNull && declared ≠ .str "object" then
    issue ("#: root type must be 'object', got " ++ declared.quoted)
  else return ()

/-- The keywords that the root reads besides those of its properties and groups. -/
def rootKeywords : List String :=
  ["type", Compile.definitionsKeyword] ++ Body.vocabulary .object

theorem outline_eq (tupleItems : TupleItems) (document : Members) :
    outline tupleItems document = (do
      rootTypeIssue document
      let table ← definitionTable document
      let below := reader tupleItems (Entries.names table) (Value.obj document).depth
      let definitions ← table.mapM (definitionOf below)
      let parts ← objectParts below document "#"
      let n ← nodeOf rootName (Body.ofFragment .object document) document
        (rootKeywords ++ parts.consumed) parts.kept false "#"
      return ⟨definitions, .mk n (parts.children.map fun o => (.child, o))⟩) := by
  unfold outline definitionTable rootTypeIssue
  dsimp only
  split <;> cases Entries.find? document Compile.definitionsKeyword with
  | none => rfl
  | some v => cases v <;> rfl

end Decompile

end FormGraph

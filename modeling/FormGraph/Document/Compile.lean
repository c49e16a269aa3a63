import FormGraph.Document.Condition
import FormGraph.Document.Config
import FormGraph.Document.Notes
import FormGraph.Edit.Clause

/-!
# Writing a graph as a document

A document is written from the root down. A field has its type, title, description, default and the
keywords of its attributes; an object its properties in the order of the children and the list of
those that are required; an array the schema of its item; a reference a pointer. The groups below an
object become entries of its `allOf` list. What the library does not interpret comes last and never
replaces what was written.

The writer for one node is given the writer for the nodes below it (`below`), and the recursion is
closed over a budget of one for each node of the graph: where the nodes form a tree, no path is
longer. Warnings, and the names of the definitions that were pointed at, are notes.
-/

namespace FormGraph

/-- What is noted while a document is written. -/
inductive CompileNote where
  /-- Something of the graph is not in the document as it stands. -/
  | warning (text : String)
  /-- A pointer at a definition was written. -/
  | reference (target : Value)
  deriving DecidableEq

namespace CompileNote

/-- The text of a warning. -/
def warning? : CompileNote → Option String
  | .warning text => some text
  | .reference _ => none

/-- The definition that a pointer points at. -/
def reference? : CompileNote → Option Value
  | .warning _ => none
  | .reference target => some target

end CompileNote

/-- A document that is being written. -/
abbrev Compiling := ExceptT Fault (Noted CompileNote)

namespace Compiling

/-- Take a note. -/
def note (n : CompileNote) : Compiling Unit := ExceptT.lift (Noted.tell [n])

/-- Do something that takes no notes. -/
def ofExcept {α : Type} (x : Except Fault α) : Compiling α := ExceptT.mk ⟨x, []⟩

/-- Do something and look at the notes taken in it. -/
def listen {α : Type} (x : Compiling α) : Compiling (α × List CompileNote) :=
  ExceptT.mk ⟨x.run.value.map fun a => (a, x.run.notes), x.run.notes⟩

end Compiling

namespace Compile

/-- The keyword of the table of definitions. -/
def definitionsKeyword : String := "definitions"

/-- How a pointer at a definition begins. -/
def pointerFront : String := "#/definitions/"

/-- The pointer at a definition. -/
def pointer (target : Value) : String := pointerFront ++ target.plainSequence

/-- The branch that no value satisfies. -/
def failingBranch : Value := .obj [("not", .obj [])]

variable (g : Graph) (cfg : DocumentConfig)

/-- The title, description and default of a node, as far as it has them. -/
def annotations {ρ : Type} (n : Node ρ) : Members :=
  (if n.title.isNull then [] else [("title", n.title)]) ++
  (if n.description.isNull then [] else [("description", n.description)]) ++
  n.default.toList.map fun v => ("default", v)

/-- Add what the library does not interpret, where the keyword is free. -/
def withExtras {ρ : Type} (n : Node ρ) (fragment : Members) : Members :=
  n.extras.foldl (fun f e => Entries.putNew f e.1 e.2) fragment

/-- Note the branches of a group that none of the given clauses point at. -/
def noteUnused (id : NodeId) (n : Node NodeId) : Compiling Unit := do
  let used := if n.kind = .group .ifBlock then n.clauses.take 1 else n.clauses
  for e in g.unusedBranches id used do
    let branch ← Compiling.ofExcept (g.pointedAt e.target)
    Compiling.note (.warning ("Branch '" ++ branch.key ++ "' of '" ++ n.key ++
      "' is not used by any clause and is left out of the document"))

/-- Write a branch: under its property name when it is a field, and as it is otherwise. -/
def branch (below : NodeId → Node NodeId → Compiling Value) (id : NodeId) : Compiling Value :=
  match g.node? id with
  | none => do
    Compiling.note (.warning ("Clause branch points at missing node '" ++ id ++ "'"))
    return .obj []
  | some n => do
    let fragment ← below id n
    if !n.isAddressable then return fragment
    else
      return .obj (("properties", .obj [(n.key, fragment)]) ::
        if n.required then [("required", .list [.str n.key])] else [])

/-- Write a branch under a keyword, where there is one. -/
def branchUnder (below : NodeId → Node NodeId → Compiling Value) (keyword : String)
    (target : Option NodeId) : Compiling Members :=
  match target with
  | none => return []
  | some id => return [(keyword, ← branch g below id)]

/-- Write a clause. Where strict matching asks for it, a clause without a second branch fails when
its condition does not hold. -/
def clause (below : NodeId → Node NodeId → Compiling Value) (kind : GroupKind)
    (c : Clause NodeId) : Compiling Value := do
  let test ← Compiling.ofExcept c.condition.fragment
  let onTrue ← branchUnder g below "then" c.onTrue
  let onFalse ← branchUnder g below "else" c.onFalse
  let strict := cfg.strictMatchElse && (kind = .anyOf || kind = .oneOf)
  let failing := if c.onFalse.isNone && strict then [("else", failingBranch)] else []
  return .obj ([("if", .obj test)] ++ onTrue ++ onFalse ++ failing)

/-- Write the clauses of an `if` block as one: all conditions together, and the branches of the
first clause. -/
def ifBlock (below : NodeId → Node NodeId → Compiling Value) (clauses : List (Clause NodeId)) :
    Compiling Members := do
  match clauses with
  | [] => return [("if", .obj [])]
  | first :: _ =>
    let tests ← Compiling.ofExcept (clauses.mapM fun c => Value.obj <$> c.condition.fragment)
    let test := match tests with
      | [test] => test
      | tests => .obj [("allOf", .list tests)]
    let onTrue ← branchUnder g below "then" first.onTrue
    let onFalse ← branchUnder g below "else" first.onFalse
    return ("if", test) :: onTrue ++ onFalse

/-- Write a group. -/
def group (below : NodeId → Node NodeId → Compiling Value) (id : NodeId) (n : Node NodeId)
    (kind : GroupKind) (clauses : List (Clause NodeId)) : Compiling Value := do
  noteUnused g id n
  let body ← match kind with
    | .ifBlock => ifBlock g below clauses
    | kind => do
      let entries ← clauses.mapM (clause g cfg below kind)
      pure [(kind.name, .list entries)]
  return .obj (withExtras n (Entries.putAll (annotations n) body))

/-- What the children of an object are written as. -/
structure ObjectParts where
  /-- The properties, in order. -/
  properties : Members := []
  /-- The keys of the required properties. -/
  required : List String := []
  /-- The groups. -/
  groups : List Value := []

/-- Write one more child of an object. -/
def objectChild (below : NodeId → Node NodeId → Compiling Value) (parts : ObjectParts)
    (child : NodeId × Node NodeId) : Compiling ObjectParts := do
  let fragment ← below child.1 child.2
  if child.2.kind.isGroup then return { parts with groups := parts.groups ++ [fragment] }
  else
    return { parts with
      properties := Entries.put parts.properties child.2.key fragment
      required := if child.2.required then parts.required ++ [child.2.key] else parts.required }

/-- The `allOf` list of an object: its groups, followed by the entries that were kept as they
were. -/
def groupList (n : Node NodeId) (groups : List Value) : Compiling Members := do
  if groups.isEmpty then return []
  match (Entries.find? n.extras "allOf").getD (.list []) with
  | .list kept => return [("allOf", .list (groups ++ kept))]
  | _ =>
    Compiling.note (.warning ("Object '" ++ n.key ++
      "': allOf extra is not a list and is dropped"))
    return [("allOf", .list groups)]

/-- Write what hangs below an object. -/
def objectBody (below : NodeId → Node NodeId → Compiling Value) (id : NodeId) (n : Node NodeId) :
    Compiling Members := do
  let children ← Compiling.ofExcept (g.children id)
  let parts ← children.foldlM (objectChild below) {}
  let groups ← groupList n parts.groups
  return (if parts.properties.isEmpty then [] else [("properties", .obj parts.properties)]) ++
    (if parts.required.isEmpty then [] else [("required", Value.ofStrings parts.required)]) ++
    groups

/-- Write the item of an array. -/
def arrayBody (below : NodeId → Node NodeId → Compiling Value) (id : NodeId) :
    Compiling Members := do
  match g.childIds id with
  | [] => return []
  | item :: _ =>
    let n ← Compiling.ofExcept (g.pointedAt item)
    return [("items", ← below item n)]

/-- Write a node, given how the nodes below it are written. -/
def fragment (below : NodeId → Node NodeId → Compiling Value) (id : NodeId) (n : Node NodeId) :
    Compiling Value := do
  match n.body with
  | .group kind clauses => group g cfg below id n kind clauses
  | .reference target =>
    if !target.isLookup then throw (.broken .unusableValue)
    Compiling.note (.reference target)
    return .obj (withExtras n (("$ref", .str (pointer target)) :: annotations n))
  | body =>
    let typed := if n.kind.isTyped then [("type", Value.str n.kind.name)] else []
    let written := Entries.putAll (typed ++ annotations n) body.keywords
    let contents ← match body with
      | .object _ => objectBody g below id n
      | .array _ => arrayBody g below id
      | _ => pure []
    return .obj (withExtras n (Entries.putAll written contents))

/-- Write a node and everything below it, down to the given depth. -/
def node : Nat → NodeId → Node NodeId → Compiling Value
  | 0, _, _ => throw (.broken .endless)
  | depth + 1, id, n => fragment g cfg (node depth) id n

/-- A depth that no path of a tree of nodes exceeds. -/
def depth : Nat := g.nodes.size + 1

/-- Write the content of a definition; without one the definition is an empty object. -/
def definition (name : String) : Compiling Value := do
  match ← Compiling.ofExcept (g.content name) with
  | none => return .obj []
  | some (id, n) => node g cfg (depth g) id n

/-- What pointers point at, sorted, each once; names without a common order cannot be sorted. -/
def sortedTargets (targets : List Value) : Except Fault (List Value) :=
  orBreakDown (Value.ascending? targets) .unusableValue

/-- Write the definitions that wait, and those that they point at and that were not pointed at
before. Every step takes a name off those that wait, and a name joins them once at the start and
once when it is first pointed at. -/
def definitions : Nat → List Value → Members → List String → Compiling Members
  | 0, _, written, _ => return written
  | _ + 1, _, written, [] => return written
  | steps + 1, pointedAt, written, name :: waiting => do
    if Entries.has written name then definitions steps pointedAt written waiting
    else
      let (fragment, notes) ← (definition g cfg name).listen
      let written := Entries.put written name fragment
      let found := notes.filterMap CompileNote.reference?
      let new ← Compiling.ofExcept <| sortedTargets <| found.filter fun target =>
        !pointedAt.any target.same && !target.str?.any (Entries.has written)
      definitions steps (pointedAt ++ found) written (waiting ++ new.filterMap Value.str?)

/-- Write the whole document. -/
def document : Compiling Value := do
  let rootNode ← Compiling.ofExcept g.root
  let (root, notes) ← (node g cfg (depth g) g.rootId rootNode).listen
  let found := notes.filterMap CompileNote.reference?
  let names := g.definitions.names.filter fun n =>
    cfg.emitUnreferenced || found.contains (.str n)
  let written ← definitions g cfg (g.definitions.size + g.nodes.size + 1) found [] names
  let table := g.definitions.names.filterMap fun n =>
    (Entries.find? written n).map fun fragment => (n, fragment)
  let members := root.obj?.getD []
  return .obj (if written.isEmpty then members
    else Entries.put members definitionsKeyword (.obj table))

/-- A document with the warnings about it. -/
structure Result where
  /-- The document. -/
  document : Value
  /-- The warnings, in the order they were noted; those about missing definitions come last. -/
  warnings : List String

end Compile

namespace Graph

/-- Write a graph as a document. -/
def compile (g : Graph) (cfg : DocumentConfig) : Except Fault Compile.Result := do
  let run := (Compile.document g cfg).run
  let document ← run.value
  let missing ← Compile.sortedTargets <|
    (run.notes.filterMap CompileNote.reference?).filter fun target =>
      !target.str?.any g.definitions.has
  return {
    document := document
    warnings := run.notes.filterMap CompileNote.warning? ++
      missing.map fun target =>
        "Reference to unknown definition '" ++ target.plainSequence ++ "'" }

end Graph

end FormGraph

import FormGraph.Document.Compile
import FormGraph.Document.Outline

/-!
# What an outline is written as

The document of an outline, by recursion on the outline: no names of nodes, no depth, no notes. The
writer for graphs comes to the same on every graph that shows the outline. Beside the document
stands `references`, what the pointers that are written on the way point at.
-/

namespace FormGraph

/-- What a condition on a property is written as. -/
def Condition.written (c : Condition) : Members :=
  [("properties", .obj [(c.field.memberName, .obj c.comparison)]), ("required", .list [c.field])]

namespace Outline

open Compile

/-- A node with what it is written as. -/
abbrev Part := Node Nat × Value

/-! ## Groups -/

/-- A branch as a clause writes it: a field under its property name, anything else as it is. -/
def wrapped {ρ : Type} (n : Node ρ) (v : Value) : Value :=
  if n.isAddressable then
    .obj (("properties", .obj [(n.key, v)]) ::
      if n.required then [("required", .list [.str n.key])] else [])
  else v

/-- The branch at a position. -/
def branchAt (parts : List Part) (i : Option Nat) : Option Value :=
  (i.bind fun i => parts[i]?).map fun p => wrapped p.1 p.2

/-- A value under a keyword, where there is one. -/
def under (keyword : String) (v : Option Value) : Members := v.toList.map fun v => (keyword, v)

/-- The second branch of a clause that has none, where strict matching asks for it. -/
def failing (cfg : DocumentConfig) (kind : GroupKind) (c : Clause Nat) : Members :=
  if c.onFalse.isNone && (cfg.strictMatchElse && (kind = .anyOf || kind = .oneOf)) then
    [("else", failingBranch)]
  else []

/-- What a clause is written as. -/
def clauseMembers (cfg : DocumentConfig) (kind : GroupKind) (parts : List Part) (c : Clause Nat) :
    Members :=
  [("if", .obj c.condition.written)] ++ under "then" (branchAt parts c.onTrue) ++
    under "else" (branchAt parts c.onFalse) ++ failing cfg kind c

/-- The test of an `if` block: its one condition, or the list of all. -/
def testOf (tests : List Value) : Value :=
  match tests with
  | [test] => test
  | tests => .obj [("allOf", .list tests)]

/-- What an `if` block is written as. -/
def blockMembers (parts : List Part) (clauses : List (Clause Nat)) : Members :=
  match clauses with
  | [] => [("if", .obj [])]
  | first :: _ =>
    ("if", testOf (clauses.map fun c => .obj c.condition.written)) ::
      under "then" (branchAt parts first.onTrue) ++ under "else" (branchAt parts first.onFalse)

/-- What the clauses of a group are written as. -/
def groupMembers (cfg : DocumentConfig) (kind : GroupKind) (clauses : List (Clause Nat))
    (parts : List Part) : Members :=
  match kind with
  | .ifBlock => blockMembers parts clauses
  | kind => [(kind.name, .list (clauses.map fun c => .obj (clauseMembers cfg kind parts c)))]

/-! ## Objects and arrays -/

/-- The fields among the children of an object. -/
def fieldParts (parts : List Part) : List Part := parts.filter fun p => !p.1.kind.isGroup

/-- The groups among the children of an object, as they are written. -/
def groupValues (parts : List Part) : List Value :=
  (parts.filter fun p => p.1.kind.isGroup).map Prod.snd

/-- The properties of an object. -/
def properties (parts : List Part) : Members := (fieldParts parts).map fun p => (p.1.key, p.2)

/-- The keys of the required fields of an object. -/
def requiredKeys (parts : List Part) : List String :=
  ((fieldParts parts).filter fun p => p.1.required).map fun p => p.1.key

theorem properties_cons (p : Part) (parts : List Part) : properties (p :: parts) =
    (if p.1.kind.isGroup then [] else [(p.1.key, p.2)]) ++ properties parts := by
  by_cases h : p.1.kind.isGroup = true <;> simp [properties, fieldParts, h]

theorem requiredKeys_cons (p : Part) (parts : List Part) : requiredKeys (p :: parts) =
    (if !p.1.kind.isGroup && p.1.required then [p.1.key] else []) ++ requiredKeys parts := by
  by_cases h : p.1.kind.isGroup = true <;> by_cases hr : p.1.required = true <;>
    simp [requiredKeys, fieldParts, h, hr]

theorem groupValues_cons (p : Part) (parts : List Part) : groupValues (p :: parts) =
    (if p.1.kind.isGroup then [p.2] else []) ++ groupValues parts := by
  by_cases h : p.1.kind.isGroup = true <;> simp [groupValues, h]

/-- The `allOf` list of an object with groups, followed by what is kept of one that was read. -/
def groupEntries (n : Node Nat) (groups : List Value) : Members :=
  if groups.isEmpty then []
  else
    match (Entries.find? n.extras "allOf").getD (.list []) with
    | .list kept => [("allOf", .list (groups ++ kept))]
    | _ => [("allOf", .list groups)]

/-- What the children of an object are written as. -/
def objectMembers (n : Node Nat) (parts : List Part) : Members :=
  (if (properties parts).isEmpty then [] else [("properties", .obj (properties parts))]) ++
    (if (requiredKeys parts).isEmpty then []
      else [("required", Value.ofStrings (requiredKeys parts))]) ++
    groupEntries n (groupValues parts)

/-- What the item of an array is written as. -/
def arrayMembers (parts : List Part) : Members :=
  parts.head?.toList.map fun p => ("items", p.2)

/-- What the children of a node are written as. -/
def contents (n : Node Nat) (parts : List Part) : Members :=
  match n.body with
  | .object _ => objectMembers n parts
  | .array _ => arrayMembers parts
  | _ => []

/-! ## Nodes -/

/-- The type and the annotations of a node. -/
def head (n : Node Nat) : Members :=
  (if n.kind.isTyped then [("type", .str n.kind.name)] else []) ++ annotations n

/-- What a node is written as, given what hangs below it. -/
def members (cfg : DocumentConfig) (n : Node Nat) (parts : List Part) : Members :=
  match n.body with
  | .group kind clauses =>
    withExtras n (Entries.putAll (annotations n) (groupMembers cfg kind clauses parts))
  | .reference target => withExtras n (("$ref", .str (pointer target)) :: annotations n)
  | body =>
    withExtras n (Entries.putAll (Entries.putAll (head n) body.keywords) (contents n parts))

mutual

/-- What an outline is written as. -/
def written (cfg : DocumentConfig) : Outline → Value
  | mk n bs => .obj (members cfg n (parts cfg bs))

/-- The nodes hanging below a node with what they are written as. -/
def parts (cfg : DocumentConfig) : List (EdgeKind × Outline) → List Part
  | [] => []
  | (_, o) :: bs => (o.node, written cfg o) :: parts cfg bs

end

theorem parts_eq (cfg : DocumentConfig) (bs : List (EdgeKind × Outline)) :
    parts cfg bs = bs.map fun b => (b.2.node, b.2.written cfg) := by
  induction bs with
  | nil => rfl
  | cons b bs ih =>
    obtain ⟨k, o⟩ := b
    rw [parts, ih, List.map_cons]

/-! ## References -/

/-- What the pointers below a branch point at. -/
def referencesAt (below : List (List Value)) (i : Option Nat) : List Value :=
  ((i.bind fun i => below[i]?).getD [])

/-- What the pointers in a clause point at. -/
def clauseReferences (below : List (List Value)) (c : Clause Nat) : List Value :=
  referencesAt below c.onTrue ++ referencesAt below c.onFalse

/-- What the pointers in a node point at, given those of what hangs below it. -/
def nodeReferences (n : Node Nat) (below : List (List Value)) : List Value :=
  match n.body with
  | .group .ifBlock clauses => clauses.head?.toList.flatMap (clauseReferences below)
  | .group _ clauses => clauses.flatMap (clauseReferences below)
  | .reference target => [target]
  | .object _ => below.flatten
  | .array _ => below.head?.getD []
  | _ => []

mutual

/-- What the pointers in an outline point at, as far as they are written. -/
def references : Outline → List Value
  | mk n bs => nodeReferences n (referencesBelow bs)

/-- What the pointers in each of the nodes hanging below a node point at. -/
def referencesBelow : List (EdgeKind × Outline) → List (List Value)
  | [] => []
  | (_, o) :: bs => references o :: referencesBelow bs

end

theorem referencesBelow_eq (bs : List (EdgeKind × Outline)) :
    referencesBelow bs = bs.map fun b => b.2.references := by
  induction bs with
  | nil => rfl
  | cons b bs ih =>
    obtain ⟨k, o⟩ := b
    rw [referencesBelow, ih, List.map_cons]

mutual

/-- How many levels an outline has. -/
def height : Outline → Nat
  | mk _ bs => heightBelow bs + 1

/-- How many levels there are below a node. -/
def heightBelow : List (EdgeKind × Outline) → Nat
  | [] => 0
  | (_, o) :: bs => max (height o) (heightBelow bs)

end

theorem height_le_heightBelow {bs : List (EdgeKind × Outline)} {b : EdgeKind × Outline}
    (h : b ∈ bs) : b.2.height ≤ heightBelow bs := by
  induction bs with
  | nil => simp at h
  | cons c bs ih =>
    obtain ⟨k, o⟩ := c
    rw [heightBelow]
    rcases List.mem_cons.1 h with rfl | h
    · exact Nat.le_max_left _ _
    · exact Nat.le_trans (ih h) (Nat.le_max_right _ _)

mutual

theorem height_le_size : ∀ o : Outline, o.height ≤ o.size
  | mk _ bs => by
    rw [height, size]
    exact Nat.succ_le_succ (heightBelow_le_sizeAll bs)

theorem heightBelow_le_sizeAll : ∀ bs : List (EdgeKind × Outline), heightBelow bs ≤ sizeAll bs
  | [] => Nat.le_refl _
  | (_, o) :: bs => by
    rw [heightBelow, sizeAll]
    exact Nat.max_le.2 ⟨Nat.le_trans (height_le_size o) (Nat.le_add_right _ _),
      Nat.le_trans (heightBelow_le_sizeAll bs) (Nat.le_add_left _ _)⟩

end

end Outline

end FormGraph

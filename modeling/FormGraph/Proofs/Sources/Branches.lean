import FormGraph.Proofs.Sources.Graph

/-!
# Import keeps the branches of groups

Every group of a graph that was read stands for a group of the document, and is written with the
branches of that group. An `if` block keeps its branches when a condition is read from its test, and a
clause of a list keeps those of its entry. The exception is a second branch that always fails, in a
list of which one clause is enough: it says what strict matching says, and is there again only when
strict matching is asked for.
-/

namespace FormGraph

open Decompile

/-! ## What it is to keep branches -/

/-- The second branch of an entry is left to strict matching, which is not asked for. -/
def DropsElse (cfg : DocumentConfig) (kind : GroupKind) (entry : Members) : Prop :=
  (kind = .anyOf ∨ kind = .oneOf) ∧
    (Value.member entry "else").same Compile.failingBranch = true ∧ cfg.strictMatchElse = false

/-- A clause has the branches of an entry. -/
structure KeepsClause (cfg : DocumentConfig) (kind : GroupKind) (entry clause : Members) : Prop where
  /-- It has a first branch exactly if the entry has one. -/
  onTrue : Entries.has clause "then" = Entries.has entry "then"
  /-- A second branch of the entry is missing only where it is left to strict matching. -/
  onFalse : Entries.has entry "else" = true →
    (Entries.has clause "else" = false ↔ DropsElse cfg kind entry)

/-- A written group has the branches of the group that it stands for. -/
def KeepsBranches (cfg : DocumentConfig) (kind : GroupKind) (group written : Members) : Prop :=
  match kind with
  | .ifBlock =>
    (∃ t ∈ blockTests group, Condition.isFragment t = true) → ∀ keyword ∈ ["then", "else"],
      Entries.has group keyword = true → Entries.has written keyword = true
  | kind =>
    ∃ entries clauses : List Members,
      Entries.find? group kind.name = some (.list (entries.map Value.obj)) ∧
      Entries.find? written kind.name = some (.list (clauses.map Value.obj)) ∧
      List.Forall₂ (KeepsClause cfg kind) entries clauses

/-! ## Clauses and blocks -/

namespace Decompile

variable {cfg : DocumentConfig} {below : Reader} {kind : GroupKind} {schema : Members}

/-- A clause that points at a branch is written with it. -/
theorem isSome_branchAt (cfg : DocumentConfig) {own : List (EdgeKind × Value)}
    {bs : List (EdgeKind × Outline)} (hbelow : List.Forall₂ (ReadBranch below) own bs)
    {k : EdgeKind} {v : Option Value} {t : Option Nat} (h : ReadTarget own k v t) :
    (Outline.branchAt (Outline.parts cfg bs) t).isSome = v.isSome := by
  unfold ReadTarget at h
  rw [Outline.branchAt_eq, Option.isSome_map]
  cases h with
  | none => rfl
  | @some v i hi =>
    obtain ⟨w, hw, _⟩ := hi
    obtain ⟨b, hb, _⟩ := exists_right_of_getElem? hbelow hw
    rw [Option.bind_some, hb]
    rfl

theorem keepsClause_of_read {own : List (EdgeKind × Value)} {bs : List (EdgeKind × Outline)}
    (hbelow : List.Forall₂ (ReadBranch below) own bs) {entry : Members} {c : Clause Nat}
    (h : ReadClause kind own entry c) :
    KeepsClause cfg kind entry (Outline.clauseMembers cfg kind (Outline.parts cfg bs) c) := by
  have htrue : (Outline.branchAt (Outline.parts cfg bs) c.onTrue).isSome =
      (Entries.find? entry "then").isSome := isSome_branchAt cfg hbelow (h .thenBranch)
  have hfalse : (Outline.branchAt (Outline.parts cfg bs) c.onFalse).isSome =
      (branchOf? kind entry .elseBranch).isSome := isSome_branchAt cfg hbelow (h .elseBranch)
  have hnone : c.onFalse.isNone = (branchOf? kind entry .elseBranch).isNone := by
    have hrel : ReadTarget own .elseBranch (branchOf? kind entry .elseBranch) c.onFalse :=
      h .elseBranch
    unfold ReadTarget at hrel
    generalize branchOf? kind entry .elseBranch = v at hrel
    generalize c.onFalse = t at hrel
    cases hrel <;> rfl
  constructor
  · unfold Entries.has
    rw [Outline.find?_clauseMembers, if_neg (by decide), if_pos rfl, htrue]
  · intro helse
    have hhas : Entries.has (Outline.clauseMembers cfg kind (Outline.parts cfg bs) c) "else" =
        ((branchOf? kind entry .elseBranch).isSome ||
          (Entries.find? (Outline.failing cfg kind c) "else").isSome) := by
      unfold Entries.has
      rw [Outline.find?_clauseMembers, if_neg (by decide), if_neg (by decide), if_pos rfl,
        Option.isSome_or, hfalse]
    have hmatching : (kind = .anyOf || kind = .oneOf) = true ↔ kind = .anyOf ∨ kind = .oneOf := by
      simp
    rw [hhas]
    unfold Outline.failing DropsElse
    rw [hnone, ← hmatching]
    unfold branchOf?
    dsimp only
    unfold Entries.has at helse
    cases hsame : (Value.member entry "else").same Compile.failingBranch <;>
      cases hgroup : (kind = .anyOf || kind = .oneOf) <;>
      cases hstrict : cfg.strictMatchElse <;>
      simp [helse]

/-- A group that is no block has a list of objects. -/
theorem find?_entriesOf (h : groupKind? (.obj schema) = some kind) (hkind : kind ≠ .ifBlock) :
    Entries.find? schema kind.name = some (.list ((entriesOf kind schema).map Value.obj)) := by
  obtain ⟨items, hitems, hclauses⟩ := exists_list_of_groupKind? h hkind
  rw [hitems, entriesOf_list hkind hitems, List.map_filterMap]
  refine congrArg (fun items => some (Value.list items)) ?_
  rw [List.filterMap_congr (g := some) fun v hv => ?_, List.filterMap_some]
  obtain ⟨entry, rfl, _⟩ := exists_of_isClause (hclauses v hv)
  rfl

/-- A block that has a branch is written with it when a condition was read from its test. -/
theorem isSome_blockBranch_of_read (cfg : DocumentConfig) {parts : GroupParts}
    (hread : ReadGroupParts below .ifBlock schema parts)
    (htested : ∃ t ∈ blockTests schema, Condition.isFragment t = true) {keyword : String}
    (hkeyword : keyword ∈ ["then", "else"]) (hhas : Entries.has schema keyword = true) :
    (Entries.find? (Outline.groupMembers cfg .ifBlock parts.clauses
      (Outline.parts cfg parts.below)) keyword).isSome = true := by
  obtain ⟨first, rest, hclauses⟩ := List.exists_cons_of_ne_nil (hread.tested rfl htested)
  have hfirst := hread.block rfl first (hclauses ▸ List.mem_cons_self)
  have htrue := isSome_branchAt cfg hread.below (hfirst .thenBranch)
  have hfalse := isSome_branchAt cfg hread.below (hfirst .elseBranch)
  rw [branchOf?_ifBlock_else] at hfalse
  show (Entries.find? (Outline.blockMembers _ _) keyword).isSome = true
  rw [Outline.find?_blockMembers, hclauses]
  rcases List.mem_pair.1 hkeyword with rfl | rfl
  · exact htrue.trans hhas
  · exact hfalse.trans hhas

/-- What is written of a group that was read keeps its branches. -/
theorem keepsBranches_of_read (hkind : groupKind? (.obj schema) = some kind) {parts : GroupParts}
    (hread : ReadGroupParts below kind schema parts) {n : Node Nat}
    (hbody : n.body = .group kind parts.clauses) :
    KeepsBranches cfg kind schema
      (Outline.members cfg n (Outline.parts cfg parts.below)) := by
  have hinner : Outline.inner cfg n (Outline.parts cfg parts.below) =
      Outline.groupMembers cfg kind parts.clauses (Outline.parts cfg parts.below) := by
    unfold Outline.inner
    rw [hbody]
  by_cases hblock : kind = .ifBlock
  · subst hblock
    intro htested keyword hkeyword hhas
    have hfound := isSome_blockBranch_of_read cfg hread htested hkeyword hhas
    unfold Entries.has
    rw [Outline.find?_members, hinner, Option.isSome_or, Option.isSome_or, hfound]
    rfl
  · have hkept : ∃ entries clauses : List Members,
        Entries.find? schema kind.name = some (.list (entries.map Value.obj)) ∧
        Entries.find? (Outline.members cfg n (Outline.parts cfg parts.below)) kind.name =
          some (.list (clauses.map Value.obj)) ∧
        List.Forall₂ (KeepsClause cfg kind) entries clauses := by
      refine ⟨entriesOf kind schema,
        parts.clauses.map (Outline.clauseMembers cfg kind (Outline.parts cfg parts.below)),
        find?_entriesOf hkind hblock, ?_, ?_⟩
      · rw [Outline.find?_members, hinner, Outline.groupMembers_of_ne hblock, Entries.find?_cons,
          if_pos rfl, List.map_map]
        rfl
      · rw [List.forall₂_map_right_iff]
        exact (hread.list hblock).imp fun _ _ hc => keepsClause_of_read hread.below hc
    unfold KeepsBranches
    cases kind with
    | ifBlock => exact absurd rfl hblock
    | allOf | anyOf | oneOf => exact hkept

end Decompile

/-! ## Graphs that were read -/

namespace Graph

/-- A list with one clause, whose second branch always fails. -/
def failingElse : Members :=
  [("anyOf", .list [.obj [("if", .obj [("properties", .obj [("a", .obj [("const", .int 1)])])]),
    ("then", .obj [("type", .str "string")]), ("else", .obj [("not", .obj [])])]])]

end Graph

end FormGraph

import FormGraph.Proofs.Reread.Group

/-!
# Reading a group back

An `if` block is written as one clause, so that all of its conditions are read back with the branches
of the first; the clauses of a list are read back one by one. A written group is told apart from
everything else by its keywords.
-/

namespace FormGraph

open Noted

namespace Outline

open Compile Decompile

variable {cfg : DocumentConfig} {proper clean : Prop} {bs bs' : List (EdgeKind × Outline)}
  {used : EdgeKind → Nat → Prop} {below : Reader}

/-! ## `if` blocks -/

/-- The test that an `if` block writes. -/
def blockTest (clauses : List (Clause Nat)) : Value :=
  match clauses with
  | [] => .obj []
  | cs => testOf (cs.map fun c => .obj c.condition.written)

/-- What is found in a written `if` block. -/
theorem find?_blockMembers (ps : List Part) (cs : List (Clause Nat)) (k : String) :
    Entries.find? (blockMembers ps cs) k =
      if "if" = k then some (blockTest cs)
      else if "then" = k then branchAt ps (cs.head?.bind (·.onTrue))
      else if "else" = k then branchAt ps (cs.head?.bind (·.onFalse))
      else none := by
  cases cs with
  | nil =>
    have hnone : branchAt ps none = none := rfl
    simp [blockMembers, blockTest, hnone]
  | cons c cs =>
    show Entries.find? (("if", blockTest (c :: cs)) ::
      (under "then" (branchAt ps c.onTrue) ++ under "else" (branchAt ps c.onFalse))) k = _
    rw [Entries.find?_cons, Entries.find?_append, find?_under, find?_under]
    by_cases h₁ : "if" = k
    · rw [if_pos h₁, if_pos h₁]
    · rw [if_neg h₁, if_neg h₁]
      by_cases h₂ : "then" = k
      · subst h₂
        simp
      · by_cases h₃ : "else" = k <;> simp [h₂, h₃]

theorem isTest_blockTest (cs : List (Clause Nat)) : isTest (blockTest cs) = true := by
  match cs with
  | [] => rfl
  | [c] => rfl
  | c :: c' :: cs =>
    have hall : ((c :: c' :: cs).map fun c => Value.obj c.condition.written).all
        Condition.isFragment = true := by
      rw [List.all_eq_true]
      intro v hv
      obtain ⟨d, _, rfl⟩ := List.mem_map.1 hv
      exact Condition.isFragment_written _
    exact hall

theorem conditions_yields {cs : List (Clause Nat)} (hcs : ∀ c ∈ cs, c.condition.Reads)
    (path : String) :
    ((cs.map fun c => Value.obj c.condition.written).mapM fun t => conditionOf t path).Yields
      (cs.map fun c => some c.condition) := by
  refine .mapM ?_
  rw [List.forall₂_map_left_iff, List.forall₂_map_right_iff, List.forall₂_same]
  exact fun c hc => conditionOf_yields (hcs c hc) path

theorem testsOf_yields {cs : List (Clause Nat)} (hcs : ∀ c ∈ cs, c.condition.Reads)
    (path : String) :
    (testsOf ((blockTest cs).obj?.getD []) path).Yields (cs.map fun c => c.condition) := by
  have hback : (cs.map fun c => some c.condition).filterMap id = cs.map fun c => c.condition := by
    rw [List.filterMap_map]
    exact congrFun List.filterMap_eq_map cs
  have hread := (conditions_yields hcs (path ++ "/if")).map (List.filterMap id)
  rw [hback] at hread
  have htests : testsOf ((blockTest cs).obj?.getD []) path =
      List.filterMap id <$> ((cs.map fun c => Value.obj c.condition.written).mapM fun t =>
        conditionOf t (path ++ "/if")) := by
    match cs with
    | [] => rfl
    | [c] => rfl
    | c :: c' :: cs => rfl
  rw [htests]
  exact hread

/-- A branch of an `if` block is read back. -/
theorem blockBranch_yields (hb : BranchesRead below cfg proper clean bs used) {ms : Members}
    {keyword : String} {k : EdgeKind} {t : Option Nat}
    (hms : Entries.find? ms keyword = branchAt (parts cfg bs) t)
    (ht : ∀ i, t = some i → used k i) (path : String) :
    ∃ o, (blockBranch below ms keyword k path).Yields o ∧
      ∀ parts₀ : GroupParts, TargetMirrors cfg proper clean bs (parts₀.hang k o).1.below t
        (parts₀.hang k o).2 := by
  unfold blockBranch
  rw [hms]
  cases t with
  | none => exact ⟨none, .pure _, fun _ => .none⟩
  | some i =>
    obtain ⟨o, ho, hr⟩ := hb.branch k i (ht i rfl)
    obtain ⟨o', ho', halike, hsaid⟩ := hr.yields (path ++ "/" ++ keyword)
    rw [branchAt_some ho]
    exact ⟨some o', ho', .hang ho halike hsaid⟩

theorem hang_grows (parts₀ : GroupParts) (k : EdgeKind) (o : Option Outline) :
    ∃ more, (parts₀.hang k o).1.below = parts₀.below ++ more := by
  cases o with
  | none => exact ⟨[], (List.append_nil _).symm⟩
  | some o => exact ⟨_, rfl⟩

/-- An `if` block is read back with the branches of its first clause. -/
theorem blockOf_yields (hb : BranchesRead below cfg proper clean bs used) {cs : List (Clause Nat)}
    (hcs : ∀ c ∈ cs, c.condition.Reads)
    (hused : ∀ c ∈ cs.take 1, ∀ k i, c.target k = some i → used k i) {ms : Members}
    (hms : ∀ k ∈ clauseKeywords,
      Entries.find? ms k = Entries.find? (blockMembers (parts cfg bs) cs) k) (path : String) :
    ∃ next t f, (blockOf below ms path).Yields next ∧
      next.clauses = (cs.map fun c => ⟨c.condition, t, f⟩) ∧
      TargetMirrors cfg proper clean bs next.below (cs.head?.bind (·.onTrue)) t ∧
      TargetMirrors cfg proper clean bs next.below (cs.head?.bind (·.onFalse)) f := by
  have hif : Value.member ms "if" = blockTest cs := by
    rw [Value.member, hms "if" (by decide), find?_blockMembers]
    rfl
  have hthen : Entries.find? ms "then" =
      branchAt (parts cfg bs) (cs.head?.bind (·.onTrue)) := by
    rw [hms "then" (by decide), find?_blockMembers]
    rfl
  have helse : Entries.find? ms "else" =
      branchAt (parts cfg bs) (cs.head?.bind (·.onFalse)) := by
    rw [hms "else" (by decide), find?_blockMembers]
    rfl
  have htarget : ∀ k i, (cs.head?.bind fun c => c.target k) = some i → used k i := by
    intro k i h
    cases cs with
    | nil => simp at h
    | cons c cs => exact hused c (by simp) k i h
  obtain ⟨onTrue, hyt, ht⟩ := blockBranch_yields hb hthen (htarget .thenBranch) path
  obtain ⟨onFalse, hyf, hf⟩ := blockBranch_yields hb helse (htarget .elseBranch) path
  obtain ⟨more, hmore⟩ := hang_grows (({} : GroupParts).hang .thenBranch onTrue).1 .elseBranch onFalse
  refine ⟨{ ((({} : GroupParts).hang .thenBranch onTrue).1.hang .elseBranch onFalse).1 with
      clauses := (cs.map fun c => c.condition).map fun c =>
        ⟨c, (({} : GroupParts).hang .thenBranch onTrue).2,
          ((({} : GroupParts).hang .thenBranch onTrue).1.hang .elseBranch onFalse).2⟩ },
    _, _, ?_, by rw [List.map_map]; rfl, ?_, hf _⟩
  · rw [blockOf_eq, hif]
    exact (testsOf_yields hcs path).bind (hyt.bind (hyf.bind (.pure _)))
  · dsimp only
    rw [hmore]
    exact (ht _).append more

/-! ## The branches that a group writes -/

/-- The clauses of which the branches are written. -/
def writtenClauses (kind : GroupKind) (clauses : List (Clause Nat)) : List (Clause Nat) :=
  if kind = .ifBlock then clauses.take 1 else clauses

/-- A branch at the position is written. -/
def Used (kind : GroupKind) (clauses : List (Clause Nat)) (k : EdgeKind) (i : Nat) : Prop :=
  ∃ c ∈ writtenClauses kind clauses, c.target k = some i

theorem writtenClauses_subset {kind : GroupKind} {clauses : List (Clause Nat)} {c : Clause Nat}
    (h : c ∈ writtenClauses kind clauses) : c ∈ clauses := by
  unfold writtenClauses at h
  split at h
  · exact List.mem_of_mem_take h
  · exact h

theorem find?_members_of_inner {n : Node Nat} {ps : List Part} {k : String} {v : Value}
    (h : Entries.find? (inner cfg n ps) k = some v) :
    Entries.find? (members cfg n ps) k = some v := by
  rw [find?_members, h]
  rfl

theorem inside_head (name : String) (v : Value) (more : Members) :
    v.Inside (.obj ((name, v) :: more)) :=
  .member (by rw [Entries.find?_cons, if_pos rfl])

theorem written_inside_asBranch (o : Outline) :
    o.asBranch cfg = o.written cfg ∨ (o.written cfg).Inside (o.asBranch cfg) := by
  unfold asBranch wrapped
  split
  · exact .inr (.trans (inside_head _ _ []) (inside_head _ _ _))
  · exact .inl rfl

/-- The clauses of a list are found as they are written. -/
theorem find?_clauses (cfg : DocumentConfig) {kind : GroupKind} (hk : kind ≠ .ifBlock)
    {clauses : List (Clause Nat)} {n : Node Nat} (hb : n.body = .group kind clauses)
    (ps : List Part) :
    Entries.find? (members cfg n ps) kind.name =
      some (.list (clauses.map fun c => .obj (clauseMembers cfg kind ps c))) := by
  refine find?_members_of_inner ?_
  rw [inner_group hb, groupMembers_of_ne hk, Entries.find?_cons, if_pos rfl]

/-- A branch of a clause stands inside the members that list it. -/
theorem asBranch_inside_of_find? {c : Clause Nat} {k : EdgeKind} {i : Nat} {o : Outline}
    (ht : c.target k = some i) (ho : bs[i]? = some (k, o)) {ms : Members}
    (honTrue : ∀ v, branchAt (parts cfg bs) c.onTrue = some v → Entries.find? ms "then" = some v)
    (honFalse : ∀ v, branchAt (parts cfg bs) c.onFalse = some v →
      Entries.find? ms "else" = some v) :
    (o.asBranch cfg).Inside (.obj ms) := by
  have hbranch : branchAt (parts cfg bs) (c.target k) = some (o.asBranch cfg) := by
    rw [ht, branchAt_some ho]
  cases k with
  | child => simp [Clause.target] at ht
  | thenBranch => exact .member (honTrue _ hbranch)
  | elseBranch => exact .member (honFalse _ hbranch)

/-- A branch that a group uses stands inside what the group is written as. -/
theorem asBranch_inside {n : Node Nat} {kind : GroupKind} {clauses : List (Clause Nat)}
    (hb : n.body = .group kind clauses) {k : EdgeKind} {i : Nat} (hu : Used kind clauses k i)
    {o : Outline} (ho : bs[i]? = some (k, o)) :
    (o.asBranch cfg).Inside (written cfg (mk n bs)) := by
  obtain ⟨c, hc, ht⟩ := hu
  rw [written]
  by_cases hk : kind = .ifBlock
  · subst hk
    obtain ⟨rest, rfl⟩ : ∃ rest, clauses = c :: rest := by
      cases clauses with
      | nil => simp [writtenClauses] at hc
      | cons d ds =>
        have : c = d := by simpa [writtenClauses] using hc
        exact ⟨ds, by rw [this]⟩
    refine asBranch_inside_of_find? ht ho (fun v hv => ?_) fun v hv => ?_
    · refine find?_members_of_inner ?_
      rw [inner_group hb]
      exact (find?_blockMembers (parts cfg bs) (c :: rest) "then").trans hv
    · refine find?_members_of_inner ?_
      rw [inner_group hb]
      exact (find?_blockMembers (parts cfg bs) (c :: rest) "else").trans hv
  · have hlist := find?_clauses cfg hk hb (parts cfg bs)
    have hclause : Value.Inside (.obj (clauseMembers cfg kind (parts cfg bs) c))
        (.obj (members cfg n (parts cfg bs))) :=
      .trans (.item (List.mem_map.2 ⟨c, writtenClauses_subset hc, rfl⟩)) (.member hlist)
    refine .trans (asBranch_inside_of_find? ht ho (fun v hv => ?_) fun v hv => ?_) hclause
    · exact (find?_clauseMembers _ _ _ _).trans hv
    · rw [find?_clauseMembers, if_neg (by decide), if_neg (by decide), if_pos rfl, hv]
      rfl

theorem references_of_used {n : Node Nat} {kind : GroupKind} {clauses : List (Clause Nat)}
    (hb : n.body = .group kind clauses) {k : EdgeKind} {i : Nat} (hu : Used kind clauses k i)
    {o : Outline} (ho : bs[i]? = some (k, o)) : o.references ⊆ (mk n bs).references := by
  intro t ht
  obtain ⟨c, hc, hi⟩ := hu
  have hat : t ∈ referencesAt (referencesBelow bs) (c.target k) := by
    rw [hi, referencesAt, referencesBelow_eq, Option.bind_some, List.getElem?_map, ho]
    exact ht
  have hclause : t ∈ clauseReferences (referencesBelow bs) c := by
    cases k with
    | child => simp [Clause.target] at hi
    | thenBranch => exact List.mem_append_left _ hat
    | elseBranch => exact List.mem_append_right _ hat
  rw [references, nodeReferences, hb]
  cases kind with
  | ifBlock =>
    cases clauses with
    | nil => simp [writtenClauses] at hc
    | cons d ds =>
      obtain rfl : c = d := by simpa [writtenClauses] using hc
      exact List.mem_flatMap.2 ⟨c, List.mem_singleton_self _, hclause⟩
  | allOf | anyOf | oneOf => exact List.mem_flatMap.2 ⟨c, hc, hclause⟩

theorem branch_partOf {n : Node Nat} {kind : GroupKind} {clauses : List (Clause Nat)}
    (hb : n.body = .group kind clauses) {k : EdgeKind} {i : Nat} (hu : Used kind clauses k i)
    {o : Outline} (ho : bs[i]? = some (k, o)) : PartOf cfg o (mk n bs) := by
  refine ⟨?_, references_of_used hb hu ho⟩
  have hinside := @asBranch_inside cfg _ _ _ _ hb _ _ hu _ ho
  rcases @written_inside_asBranch cfg o with h | h
  · exact h ▸ hinside
  · exact h.trans hinside

/-! ## Whole groups -/

/-- The clauses of a group and what they are read back as: they are written alike and say the
same. -/
structure ClausesMirror (cfg : DocumentConfig) (proper clean : Prop) (kind : GroupKind)
    (bs bs' : List (EdgeKind × Outline)) (clauses clauses' : List (Clause Nat)) : Prop where
  /-- They are written alike. -/
  alike : proper → ∀ k, Value.AlikeAt
    (Entries.find? (groupMembers cfg kind clauses (parts cfg bs)) k)
    (Entries.find? (groupMembers cfg kind clauses' (parts cfg bs')) k)
  /-- They say the same. -/
  said : clean → clauses'.map (sayClause (sayings bs')) = clauses.map (sayClause (sayings bs))

theorem ClausesMirror.of_list {kind : GroupKind} (hk : kind ≠ .ifBlock)
    {clauses clauses' : List (Clause Nat)}
    (h : List.Forall₂ (ClauseMirrors cfg proper clean bs bs') clauses clauses') :
    ClausesMirror cfg proper clean kind bs bs' clauses clauses' where
  alike hp k := by
    rw [groupMembers_of_ne hk, groupMembers_of_ne hk, Entries.find?_cons, Entries.find?_cons]
    split
    · refine Value.alike_list_iff.2 ?_
      rw [List.forall₂_map_left_iff, List.forall₂_map_right_iff]
      exact h.imp fun _ _ hc => hc.alike hp kind
    · trivial
  said hc := by
    induction h with
    | nil => rfl
    | cons hcc' _ ih => rw [List.map_cons, List.map_cons, hcc'.sayClause_eq hc, ih]

theorem ClausesMirror.of_block {clauses : List (Clause Nat)} {t f : Option Nat}
    (hblock : clean → ∀ c ∈ clauses, ∀ c' ∈ clauses, c.branches = c'.branches)
    (ht : TargetMirrors cfg proper clean bs bs' (clauses.head?.bind (·.onTrue)) t)
    (hf : TargetMirrors cfg proper clean bs bs' (clauses.head?.bind (·.onFalse)) f) :
    ClausesMirror cfg proper clean .ifBlock bs bs' clauses
      (clauses.map fun c => ⟨c.condition, t, f⟩) where
  alike hp k := by
    have htest : blockTest (clauses.map fun c => ⟨c.condition, t, f⟩) = blockTest clauses := by
      cases clauses with
      | nil => rfl
      | cons c cs =>
        have htests : ((c :: cs).map fun c => (⟨c.condition, t, f⟩ : Clause Nat)).map
            (fun c => Value.obj c.condition.written) =
            (c :: cs).map fun c => Value.obj c.condition.written := by
          rw [List.map_map]
          rfl
        exact congrArg testOf htests
    show Value.AlikeAt (Entries.find? (blockMembers _ _) k) (Entries.find? (blockMembers _ _) k)
    rw [find?_blockMembers, find?_blockMembers, htest]
    cases clauses with
    | nil =>
      split_ifs
      · exact Value.AlikeAt.refl _
      · trivial
      · trivial
      · trivial
    | cons c cs =>
      split_ifs
      · exact Value.AlikeAt.refl _
      · exact ht.alike hp
      · exact hf.alike hp
      · trivial
  said hc := by
    rw [List.map_map]
    refine List.map_congr_left fun c hmem => ?_
    obtain ⟨first, hfirst⟩ : ∃ first, clauses.head? = some first := by
      cases clauses with
      | nil => simp at hmem
      | cons d ds => exact ⟨d, rfl⟩
    rw [hfirst] at ht hf
    have hsame := hblock hc first (List.mem_of_head? hfirst) c hmem
    unfold Clause.branches at hsame
    obtain ⟨hthen, helse⟩ := Prod.mk.inj hsame
    unfold sayClause
    dsimp only [Function.comp]
    rw [ht.said hc, hf.said hc, Option.bind_some, Option.bind_some, hthen, helse]

theorem clauseReads {names : List String} {n : Node Nat} (hown : OwnReads names n bs)
    {kind : GroupKind} {clauses : List (Clause Nat)} (hb : n.body = .group kind clauses) :
    ∀ c ∈ clauses, ClauseReads bs c := by
  unfold OwnReads at hown
  rw [hb] at hown
  exact hown

/-- The branches that a readable group uses are read back, when what stands inside it is. -/
theorem branchesRead {names : List String} {n : Node Nat} (hr : Readable names (mk n bs))
    {kind : GroupKind} {clauses : List (Clause Nat)} (hb : n.body = .group kind clauses)
    (hbelow : ∀ b ∈ bs, PartOf cfg b.2 (mk n bs) → Reads below cfg b.2) :
    BranchesRead below cfg (written cfg (mk n bs)).Proper (Clean cfg (mk n bs)) bs
      (Used kind clauses) := by
  obtain ⟨_, _, hown, hreadable⟩ := hr
  have htarget : ∀ {k i}, Used kind clauses k i → ∃ o, bs[i]? = some (k, o) ∧ o.Bare :=
    fun ⟨c, hc, ht⟩ => (clauseReads hown hb c (writtenClauses_subset hc)).target _ _ ht
  refine ⟨fun k i hu => ?_, fun hc k i j o p hui huj ho hp htext => ?_⟩
  · obtain ⟨o, ho, hbare⟩ := htarget hu
    have hmem := List.mem_of_getElem? ho
    refine ⟨o, ho, fun path => ?_, same_failingBranch (hreadable _ hmem), fun hp => ?_⟩
    · obtain ⟨o', ho', hm⟩ := branch_yields (hreadable _ hmem) hbare
        (hbelow _ hmem (branch_partOf hb hu ho)) k path
      refine ⟨o', ho', fun hp => hm.alike ((asBranch_inside hb hu ho).proper hp), fun hc => ?_⟩
      obtain ⟨_, _, _, _, hclean⟩ := hc
      exact hm.said (hclean _ hmem)
    · exact (asBranch_inside hb hu ho).proper hp
  · obtain ⟨_, _, _, hshared, _⟩ := hc
    obtain ⟨c, hcm, hct⟩ := hui
    obtain ⟨d, hdm, hdt⟩ := huj
    by_cases hk : kind = .ifBlock
    · subst hk
      have hcd : c = d := by
        cases clauses with
        | nil => simp [writtenClauses] at hcm
        | cons e es =>
          have hce : c = e := by simpa [writtenClauses] using hcm
          have hde : d = e := by simpa [writtenClauses] using hdm
          rw [hce, hde]
      rw [hcd, hdt] at hct
      rw [← Option.some.inj hct, hp] at ho
      rw [(Prod.mk.inj (Option.some.inj ho)).2]
    · have hkind : n.kind ≠ .group .ifBlock := by
        rw [Node.kind, hb]
        simpa [Body.kind] using hk
      have hclauses : n.clauses = clauses := by
        rw [Node.clauses, hb]
        rfl
      have hsaid := hshared hkind c (hclauses ▸ writtenClauses_subset hcm) d
        (hclauses ▸ writtenClauses_subset hdm) k i j hct hdt _ _ (branchAt_some ho)
        (branchAt_some hp) htext
      rwa [sayBranch_some ho, sayBranch_some hp] at hsaid

/-- What hangs below a group is read back. -/
theorem groupParts_yields {names : List String} {n : Node Nat} (hr : Readable names (mk n bs))
    {kind : GroupKind} {clauses : List (Clause Nat)} (hb : n.body = .group kind clauses)
    (hbelow : ∀ b ∈ bs, PartOf cfg b.2 (mk n bs) → Reads below cfg b.2)
    (path : String) :
    ∃ next, (groupParts below kind (members cfg n (parts cfg bs)) path).Yields next ∧
      ClausesMirror cfg (written cfg (mk n bs)).Proper (Clean cfg (mk n bs)) kind bs next.below
        clauses next.clauses := by
  have hread := branchesRead hr hb hbelow
  obtain ⟨hl, _, hown, _⟩ := hr
  have hreads := clauseReads hown hb
  have hn : n.kind = .group kind := by
    rw [Node.kind, hb]
    rfl
  by_cases hk : kind = .ifBlock
  · subst hk
    have hfree : n.Free clauseKeywords := hl.free.mono fun k hk => by
      rw [hn]
      exact List.mem_append_right _ hk
    have hms : ∀ k ∈ clauseKeywords, Entries.find? (members cfg n (parts cfg bs)) k =
        Entries.find? (blockMembers (parts cfg bs) clauses) k := by
      intro k hk
      have hfixed : Entries.find? (fixed n) k = none := by
        unfold fixed
        rw [hb]
        refine find?_annotations_eq_none ?_
        revert k
        decide
      rw [find?_members, hfixed, hfree.find? hk, inner_group hb, Option.or_none, Option.or_none]
      rfl
    obtain ⟨next, t, f, hy, hclauses, ht, hf⟩ := blockOf_yields hread
      (fun c hc => (hreads c hc).condition) (fun c hc k i h => ⟨c, hc, h⟩) hms path
    refine ⟨next, hy, ?_⟩
    rw [hclauses]
    refine .of_block (fun hc => ?_) ht hf
    obtain ⟨_, _, hblock, _, _⟩ := hc
    rw [Node.clauses, hb] at hblock
    exact hblock hn
  · have hlist : Value.member (members cfg n (parts cfg bs)) kind.name =
        .list (clauses.map fun c => .obj (clauseMembers cfg kind (parts cfg bs) c)) := by
      rw [Value.member, find?_clauses cfg hk hb]
      rfl
    have husable : ∀ c ∈ clauses, Usable (Used kind clauses) c := fun c hc =>
      ⟨(hreads c hc).condition, fun k i h => ⟨c, by rwa [writtenClauses, if_neg hk], h⟩⟩
    obtain ⟨next, hy, hforall⟩ := clausesOf_yields hread husable kind (path ++ "/" ++ kind.name)
    refine ⟨next, ?_, .of_list hk hforall⟩
    have hparts : groupParts below kind (members cfg n (parts cfg bs)) path =
        clausesOf below kind
          ((Value.member (members cfg n (parts cfg bs)) kind.name).list?.getD [])
          (path ++ "/" ++ kind.name) := by
      cases kind with
      | ifBlock => exact absurd rfl hk
      | allOf | anyOf | oneOf => rfl
    rw [hparts, hlist]
    exact hy

theorem description_rebuilt {n : Node Nat} {key : String} {required : Bool} {body : Body Nat}
    {extras : Members} (hkind : body.kind = n.kind) (hextras : extras = n.extras)
    (hown : sayOwn (rebuilt n key required body extras) (sayings bs') = sayOwn n (sayings bs))
    (hcontents : sayContents (rebuilt n key required body extras) (sayings bs') =
      sayContents n (sayings bs)) :
    description (mk (rebuilt n key required body extras) bs') = description (mk n bs) := by
  rw [description, description]
  unfold sayNode
  rw [hown, hcontents]
  unfold rebuilt Node.kind
  rw [hextras, hkind]
  rfl

theorem sayOwn_group {n : Node Nat} {kind : GroupKind} {clauses : List (Clause Nat)}
    (hb : n.body = .group kind clauses) (below : List Saying) :
    sayOwn n below = [("clauses", .list (clauses.map (sayClause below)))] := by
  unfold sayOwn Node.kind Node.clauses
  rw [hb]
  rfl

/-- A group is read back, with whatever keys are taken. -/
theorem readsGroup {names : List String} {n : Node Nat} (hr : Readable names (mk n bs))
    (hbelow : ∀ b ∈ bs, PartOf cfg b.2 (mk n bs) → Reads below cfg b.2) :
    ReadsGroup below cfg (mk n bs) := by
  intro kind clauses hbody ms hms taken path
  have hb : n.body = .group kind clauses := hbody
  obtain rfl : members cfg n (parts cfg bs) = ms := by
    rw [written] at hms
    exact Value.obj.inj hms
  obtain ⟨next, hy, hmirror⟩ := groupParts_yields hr hb hbelow path
  obtain ⟨hl, _, _, _⟩ := hr
  have hn : n.kind = .group kind := by
    rw [Node.kind, hb]
    rfl
  have hkeywords : groupKeywords kind = innerKeywords (.group kind) := by
    cases kind <;> rfl
  have hfree : n.Free (groupKeywords kind) := by
    refine hl.free.mono fun k hk => List.mem_append_right _ ?_
    rw [hn]
    cases kind with
    | ifBlock => exact hk
    | allOf | anyOf | oneOf =>
      rw [List.mem_singleton.1 hk]
      decide
  have hnode := nodeOf_members cfg (parts cfg bs) hl (groupKeywords kind)
    (by rw [hn]; simp [fixedKeywords])
    (fun k hk => by rw [hkeywords, ← hn]; exact names_inner_subset hk)
    (groupKey kind (members cfg n (parts cfg bs)) taken) (.group kind next.clauses) [] false path
  rw [filter_of_free hfree] at hnode
  refine ⟨_, by rw [group_eq]; exact hy.bind (hnode.bind (.pure _)), ?_, fun hp => ?_, fun hc => ?_⟩
  · exact hn.symm
  · rw [written, written]
    refine alike_members ?_ (fun k => ?_) fun k _ => rfl
    · unfold fixed rebuilt
      rw [hb]
      rfl
    · rw [inner_group hb]
      exact hmirror.alike hp k
  · refine description_rebuilt hn.symm rfl ?_ ?_
    · rw [sayOwn_group hb]
      exact (sayOwn_group rfl _).trans (congrArg (fun cs => [("clauses", Value.list cs)])
        (hmirror.said hc))
    · unfold sayContents rebuilt
      rw [hb]

end Outline

end FormGraph

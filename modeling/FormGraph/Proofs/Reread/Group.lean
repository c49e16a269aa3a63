import FormGraph.Proofs.Canonical
import FormGraph.Proofs.Reread.Branch

/-!
# Reading the clauses of a group back

Branches that are written the same are read once and shared. What is carried through the clauses is
that everything read so far mirrors what it was read from (`Grown`): each clause has its condition and
its branches, and every branch that is remembered is that of a position with the text it is
remembered under.

Whether what is written has different names at every level, and whether the group is clean, decides
what is said of a mirrored branch; both are handed through as propositions, `proper` and `clean`.
-/

namespace FormGraph

open Noted

namespace Outline

open Compile Decompile

variable {cfg : DocumentConfig} {proper clean : Prop} {bs bs' : List (EdgeKind × Outline)}

/-! ## Targets and clauses -/

/-- A branch of a clause and what it is read back as, at positions of two lists. -/
structure TargetMirrors (cfg : DocumentConfig) (proper clean : Prop)
    (bs bs' : List (EdgeKind × Outline)) (t t' : Option Nat) : Prop where
  /-- There is a branch in both or in neither. -/
  isSome : t'.isSome = t.isSome
  /-- The position is one of the list. -/
  lands : ∀ j, t' = some j → j < bs'.length
  /-- The branches are written alike. -/
  alike : proper → Value.AlikeAt (branchAt (parts cfg bs) t) (branchAt (parts cfg bs') t')
  /-- The branches say the same. -/
  said : clean → sayBranch (sayings bs') t' = sayBranch (sayings bs) t

theorem TargetMirrors.none : TargetMirrors cfg proper clean bs bs' none none :=
  ⟨rfl, fun _ h => by simp at h, fun _ => trivial, fun _ => rfl⟩

theorem branchAt_append {more : List (EdgeKind × Outline)} {t : Option Nat}
    (h : ∀ j, t = some j → j < bs.length) :
    branchAt (parts cfg (bs ++ more)) t = branchAt (parts cfg bs) t := by
  rw [branchAt_eq, branchAt_eq]
  cases t with
  | none => rfl
  | some j => rw [Option.bind_some, Option.bind_some, List.getElem?_append_left (h j rfl)]

theorem sayBranch_append {more : List (EdgeKind × Outline)} {t : Option Nat}
    (h : ∀ j, t = some j → j < bs.length) :
    sayBranch (sayings (bs ++ more)) t = sayBranch (sayings bs) t := by
  rw [sayBranch_eq, sayBranch_eq]
  cases t with
  | none => rfl
  | some j => rw [Option.bind_some, Option.bind_some, List.getElem?_append_left (h j rfl)]

theorem TargetMirrors.append {t t' : Option Nat} (h : TargetMirrors cfg proper clean bs bs' t t')
    (more : List (EdgeKind × Outline)) :
    TargetMirrors cfg proper clean bs (bs' ++ more) t t' where
  isSome := h.isSome
  lands j hj := by
    rw [List.length_append]
    exact Nat.lt_add_right _ (h.lands j hj)
  alike hp := by
    rw [branchAt_append h.lands]
    exact h.alike hp
  said hc := by
    rw [sayBranch_append h.lands]
    exact h.said hc

/-- A clause and what it is read back as. -/
structure ClauseMirrors (cfg : DocumentConfig) (proper clean : Prop)
    (bs bs' : List (EdgeKind × Outline)) (c c' : Clause Nat) : Prop where
  /-- The condition is the same. -/
  condition : c'.condition = c.condition
  /-- The branches are mirrored. -/
  onTrue : TargetMirrors cfg proper clean bs bs' c.onTrue c'.onTrue
  /-- The branches are mirrored. -/
  onFalse : TargetMirrors cfg proper clean bs bs' c.onFalse c'.onFalse

theorem ClauseMirrors.append {c c' : Clause Nat}
    (h : ClauseMirrors cfg proper clean bs bs' c c') (more : List (EdgeKind × Outline)) :
    ClauseMirrors cfg proper clean bs (bs' ++ more) c c' :=
  ⟨h.condition, h.onTrue.append more, h.onFalse.append more⟩

theorem find?_under (keyword : String) (v : Option Value) (k : String) :
    Entries.find? (under keyword v) k = if keyword = k then v else none := by
  cases v with
  | none => simp [under]
  | some v => simp [under]

/-- What is found in a written clause. -/
theorem find?_clauseMembers (kind : GroupKind) (ps : List Part) (c : Clause Nat) (k : String) :
    Entries.find? (clauseMembers cfg kind ps c) k =
      if "if" = k then some (.obj c.condition.written)
      else if "then" = k then branchAt ps c.onTrue
      else if "else" = k then
        (branchAt ps c.onFalse).or (Entries.find? (failing cfg kind c) "else")
      else none := by
  have hfailing : Entries.find? (failing cfg kind c) k =
      if "else" = k then Entries.find? (failing cfg kind c) "else" else none := by
    unfold failing
    split
    · by_cases hk : "else" = k <;> simp [hk]
    · simp
  unfold clauseMembers
  rw [Entries.find?_append, Entries.find?_append, Entries.find?_append, find?_under, find?_under,
    hfailing, Entries.find?_cons, Entries.find?_nil]
  by_cases h₁ : "if" = k
  · simp [h₁]
  · by_cases h₂ : "then" = k
    · subst h₂
      simp
    · by_cases h₃ : "else" = k
      · subst h₃
        simp
      · simp [h₁, h₂, h₃]

theorem ClauseMirrors.alike {c c' : Clause Nat} (h : ClauseMirrors cfg proper clean bs bs' c c')
    (hp : proper) (kind : GroupKind) :
    Value.Alike (.obj (clauseMembers cfg kind (parts cfg bs) c))
      (.obj (clauseMembers cfg kind (parts cfg bs') c')) := by
  have hfailing : failing cfg kind c' = failing cfg kind c := by
    have hnone : c'.onFalse.isNone = c.onFalse.isNone := by
      rw [← Option.not_isSome, ← Option.not_isSome, h.onFalse.isSome]
    unfold failing
    rw [hnone]
  rw [Value.alike_obj_iff]
  intro k
  rw [find?_clauseMembers, find?_clauseMembers, h.condition, hfailing]
  split_ifs
  · exact Value.AlikeAt.refl _
  · exact h.onTrue.alike hp
  · exact (h.onFalse.alike hp).or (Value.AlikeAt.refl _)
  · trivial

theorem ClauseMirrors.sayClause_eq {c c' : Clause Nat}
    (h : ClauseMirrors cfg proper clean bs bs' c c') (hc : clean) :
    sayClause (sayings bs') c' = sayClause (sayings bs) c := by
  unfold sayClause
  rw [h.condition, h.onTrue.said hc, h.onFalse.said hc]

/-! ## Reading the branches of the clauses -/

/-- What is known of a branch that a group uses: it is read back as one. -/
structure BranchReads (below : Reader) (cfg : DocumentConfig) (proper clean : Prop)
    (kind : EdgeKind) (o : Outline) : Prop where
  /-- What is read back mirrors it. -/
  yields : ∀ path, ∃ o', (Decompile.branch below (o.asBranch cfg) kind path).Yields (some o') ∧
    (proper → Value.Alike (o.asBranch cfg) (o'.asBranch cfg)) ∧
    (clean → o'.sayAsBranch = o.sayAsBranch)
  /-- It is not the branch that no value satisfies. -/
  satisfiable : (o.asBranch cfg).same failingBranch = false
  /-- Its names are different where those of the group are. -/
  proper : proper → (o.asBranch cfg).Proper

/-- What is known of the branches that a group uses over edges of each kind. -/
structure BranchesRead (below : Reader) (cfg : DocumentConfig) (proper clean : Prop)
    (bs : List (EdgeKind × Outline)) (used : EdgeKind → Nat → Prop) : Prop where
  /-- Each is read back. -/
  branch : ∀ k i, used k i → ∃ o, bs[i]? = some (k, o) ∧ BranchReads below cfg proper clean k o
  /-- Those that are written the same say the same. -/
  shared : clean → ∀ k i j o p, used k i → used k j → bs[i]? = some (k, o) → bs[j]? = some (k, p) →
    (o.asBranch cfg).canonicalJson = (p.asBranch cfg).canonicalJson →
    o.sayAsBranch = p.sayAsBranch

/-- What has been read of the clauses of a group mirrors them. -/
structure Grown (cfg : DocumentConfig) (proper clean : Prop) (bs : List (EdgeKind × Outline))
    (used : EdgeKind → Nat → Prop) (clauses : List (Clause Nat)) (parts : GroupParts) : Prop where
  /-- So do the clauses. -/
  clauses : List.Forall₂ (ClauseMirrors cfg proper clean bs parts.below) clauses parts.clauses
  /-- A branch that was read is remembered under the text of one that is used. -/
  seen : ∀ s ∈ parts.seen, ∃ i o j, used s.1.1 i ∧ bs[i]? = some (s.1.1, o) ∧
    s.1.2 = (o.asBranch cfg).canonicalJson ∧ s.2 = some j ∧
    TargetMirrors cfg proper clean bs parts.below (some i) (some j)

variable {used : EdgeKind → Nat → Prop} {clauses : List (Clause Nat)} {below : Reader}
  {parts₀ : GroupParts}

theorem Grown.empty : Grown cfg proper clean bs used [] {} :=
  ⟨.nil, by simp⟩

/-- What mirrors the clauses still does when branches are added behind and remembered. -/
theorem Grown.hang (h : Grown cfg proper clean bs used clauses parts₀)
    (more : List (EdgeKind × Outline)) :
    Grown cfg proper clean bs used clauses { parts₀ with below := parts₀.below ++ more } where
  clauses := h.clauses.imp fun _ _ hc => hc.append more
  seen s hs := by
    obtain ⟨i, o, j, hu, ho, ht, hj, hm⟩ := h.seen s hs
    exact ⟨i, o, j, hu, ho, ht, hj, hm.append more⟩

theorem branchAt_some {i : Nat} {k : EdgeKind} {o : Outline} (h : bs[i]? = some (k, o)) :
    branchAt (parts cfg bs) (some i) = some (o.asBranch cfg) := by
  rw [branchAt_eq, Option.bind_some, h]
  rfl

theorem sayBranch_some {i : Nat} {k : EdgeKind} {o : Outline} (h : bs[i]? = some (k, o)) :
    sayBranch (sayings bs) (some i) = o.sayAsBranch := by
  rw [sayBranch_eq, Option.bind_some, h]
  rfl

/-- A branch that is read and hung below a group is mirrored at its position. -/
theorem TargetMirrors.hang {k : EdgeKind} {i : Nat} {o o' : Outline} (ho : bs[i]? = some (k, o))
    (halike : proper → Value.Alike (o.asBranch cfg) (o'.asBranch cfg))
    (hsaid : clean → o'.sayAsBranch = o.sayAsBranch) (parts₀ : GroupParts) :
    TargetMirrors cfg proper clean bs (parts₀.hang k (some o')).1.below (some i)
      (parts₀.hang k (some o')).2 := by
  have hlast : (parts₀.below ++ [(k, o')])[parts₀.below.length]? = some (k, o') := by
    rw [List.getElem?_append_right (Nat.le_refl _), Nat.sub_self]
    rfl
  refine ⟨rfl, fun j hj => ?_, fun hp => ?_, fun hc => ?_⟩
  · rw [← Option.some.inj hj, GroupParts.hang, List.length_append]
    exact Nat.lt_succ_self _
  · rw [branchAt_some ho, GroupParts.hang, branchAt_some hlast]
    exact halike hp
  · rw [sayBranch_some ho, GroupParts.hang, sayBranch_some hlast]
    exact hsaid hc

/-- A branch is read back, whether it is read now or was read before under the same text. -/
theorem sharedBranch_yields (hb : BranchesRead below cfg proper clean bs used)
    (h : Grown cfg proper clean bs used clauses parts₀) {k : EdgeKind} {t : Option Nat}
    (ht : ∀ i, t = some i → used k i) (path : String) :
    ∃ next t', (sharedBranch below k path (branchAt (parts cfg bs) t) parts₀).Yields (next, t') ∧
      Grown cfg proper clean bs used clauses next ∧
      TargetMirrors cfg proper clean bs next.below t t' ∧
      ∃ more, next.below = parts₀.below ++ more := by
  cases t with
  | none => exact ⟨parts₀, none, .pure _, h, .none, [], by simp⟩
  | some i =>
    obtain ⟨o, ho, hr⟩ := hb.branch k i (ht i rfl)
    rw [branchAt_some ho]
    unfold sharedBranch
    dsimp only
    cases hfind : parts₀.seen.find? fun s => s.1 = (k, (o.asBranch cfg).canonicalJson) with
    | some s =>
      have hmem := List.mem_of_find?_eq_some hfind
      have hmarker := List.find?_some hfind
      rw [decide_eq_true_eq] at hmarker
      obtain ⟨marker, position⟩ := s
      obtain ⟨i₀, o₀, j, hu, ho₀, htext, hj, hm⟩ := h.seen _ hmem
      dsimp only at hmarker hu ho₀ htext hj
      subst hmarker hj
      obtain ⟨_, ho₀', hr₀⟩ := hb.branch k i₀ hu
      obtain rfl := (Prod.mk.inj (Option.some.inj (ho₀.symm.trans ho₀'))).2
      refine ⟨parts₀, some j, .pure _, h, ⟨rfl, hm.lands, fun hp => ?_, fun hc => ?_⟩, [], by simp⟩
      · have hsame := Value.alike_of_canonicalJson (hr.proper hp) (hr₀.proper hp) htext
        have hto := hm.alike hp
        rw [branchAt_some ho₀] at hto
        rw [branchAt_some ho]
        exact Value.AlikeAt.trans (b := some _) hsame hto
      · rw [hm.said hc, sayBranch_some ho₀, sayBranch_some ho]
        exact (hb.shared hc k i i₀ o o₀ (ht i rfl) hu ho ho₀ htext).symm
    | none =>
      obtain ⟨o', ho', halike, hsaid⟩ := hr.yields path
      have hm : TargetMirrors cfg proper clean bs (parts₀.below ++ [(k, o')]) (some i)
          (some parts₀.below.length) := .hang ho halike hsaid parts₀
      have hgrown := h.hang [(k, o')]
      refine ⟨_, _, ho'.bind (.pure _), ⟨hgrown.clauses, fun s hs => ?_⟩, hm, _, rfl⟩
      rcases List.mem_append.1 hs with hs | hs
      · exact hgrown.seen s hs
      · rw [List.mem_singleton] at hs
        subst hs
        exact ⟨i, o, _, ht i rfl, ho, rfl, rfl, hm⟩

/-! ## The clauses of a list -/

/-- What is asked of a clause that is read back. -/
structure Usable (used : EdgeKind → Nat → Prop) (c : Clause Nat) : Prop where
  /-- The condition can be read. -/
  condition : c.condition.Reads
  /-- The branches are used. -/
  used : ∀ k i, c.target k = some i → used k i

/-- The second branch of a clause as it is read: the one that no value satisfies is dropped where it
stands for none. -/
theorem else_read (hb : BranchesRead below cfg proper clean bs used) {c : Clause Nat}
    (hc : Usable used c) (kind : GroupKind) :
    (if (Value.member (clauseMembers cfg kind (parts cfg bs) c) "else").same failingBranch &&
        kind ≠ .allOf then none
      else Entries.find? (clauseMembers cfg kind (parts cfg bs) c) "else") =
      branchAt (parts cfg bs) c.onFalse := by
  have hfind : Entries.find? (clauseMembers cfg kind (parts cfg bs) c) "else" =
      (branchAt (parts cfg bs) c.onFalse).or (Entries.find? (failing cfg kind c) "else") := by
    rw [find?_clauseMembers]
    rfl
  rw [Value.member, hfind]
  cases hf : c.onFalse with
  | some i =>
    obtain ⟨o, ho, hr⟩ := hb.branch .elseBranch i (hc.used .elseBranch i hf)
    rw [branchAt_some ho, Option.some_or, Option.getD_some, hr.satisfiable]
    rfl
  | none =>
    have hnone : branchAt (parts cfg bs) none = none := rfl
    rw [hnone, Option.none_or]
    unfold failing
    rw [hf]
    by_cases hstrict : (cfg.strictMatchElse && (kind = .anyOf || kind = .oneOf)) = true
    · have hkind : kind ≠ .allOf := by
        rintro rfl
        simp at hstrict
      have hsame : failingBranch.same failingBranch = true := by
        simp [failingBranch, Value.same, Value.sameMembers, Entries.find?]
      simp [hstrict, hkind, hsame]
    · simp [hstrict]

theorem clauseOf_yields (hb : BranchesRead below cfg proper clean bs used)
    (h : Grown cfg proper clean bs used clauses parts₀) {c : Clause Nat} (hc : Usable used c)
    (kind : GroupKind) (path : String) :
    ∃ next, (clauseOf below kind path parts₀ (clauseMembers cfg kind (parts cfg bs) c)).Yields next ∧
      Grown cfg proper clean bs used (clauses ++ [c]) next := by
  have hif : Value.member (clauseMembers cfg kind (parts cfg bs) c) "if" =
      .obj c.condition.written := by
    rw [Value.member, find?_clauseMembers]
    rfl
  have hthen : Entries.find? (clauseMembers cfg kind (parts cfg bs) c) "then" =
      branchAt (parts cfg bs) c.onTrue := by
    rw [find?_clauseMembers]
    rfl
  obtain ⟨next₁, t, hy₁, hg₁, ht, more₁, _⟩ :=
    sharedBranch_yields hb h (hc.used .thenBranch) (path ++ "/then")
  obtain ⟨next₂, f, hy₂, hg₂, hf, more₂, hmore₂⟩ :=
    sharedBranch_yields hb hg₁ (hc.used .elseBranch) (path ++ "/else")
  have hc' : ClauseMirrors cfg proper clean bs next₂.below c ⟨c.condition, t, f⟩ := by
    refine ⟨rfl, ?_, hf⟩
    rw [hmore₂]
    exact ht.append more₂
  refine ⟨{ next₂ with clauses := next₂.clauses ++ [⟨c.condition, t, f⟩] }, ?_,
    ⟨List.rel_append hg₂.clauses (.cons hc' .nil), hg₂.seen⟩⟩
  unfold clauseOf
  rw [hif]
  refine (conditionOf_yields hc.condition _).bind ?_
  dsimp only
  refine (Yields.warnIf _ _).bind ?_
  rw [hthen]
  refine hy₁.bind ?_
  dsimp only
  rw [else_read hb hc]
  exact hy₂.bind (.pure _)

theorem foldlM_clauseOf_yields (hb : BranchesRead below cfg proper clean bs used) (kind : GroupKind)
    (path : String) {cs : List (Clause Nat)} (hcs : ∀ c ∈ cs, Usable used c) (start : Nat)
    (h : Grown cfg proper clean bs used clauses parts₀) :
    ∃ next, (((cs.map fun c => Value.obj (clauseMembers cfg kind (parts cfg bs) c)).zipIdx
        start).foldlM (clauseEntry below kind path) parts₀).Yields next ∧
      Grown cfg proper clean bs used (clauses ++ cs) next := by
  induction cs generalizing clauses parts₀ start with
  | nil => exact ⟨parts₀, .pure _, by rwa [List.append_nil]⟩
  | cons c cs ih =>
    obtain ⟨next, hy, hg⟩ := clauseOf_yields hb h (hcs c List.mem_cons_self) kind
      (path ++ "/" ++ toString start)
    obtain ⟨last, hy', hg'⟩ := ih (fun c' h' => hcs c' (List.mem_cons_of_mem _ h')) (start + 1) hg
    refine ⟨last, ?_, ?_⟩
    · rw [List.map_cons, List.zipIdx_cons, List.foldlM_cons]
      exact hy.bind hy'
    · rw [List.append_assoc] at hg'
      exact hg'

/-- The clauses of a list are read back. -/
theorem clausesOf_yields (hb : BranchesRead below cfg proper clean bs used)
    {cs : List (Clause Nat)} (hcs : ∀ c ∈ cs, Usable used c) (kind : GroupKind) (path : String) :
    ∃ next, (clausesOf below kind
        (cs.map fun c => .obj (clauseMembers cfg kind (parts cfg bs) c)) path).Yields next ∧
      List.Forall₂ (ClauseMirrors cfg proper clean bs next.below) cs next.clauses := by
  obtain ⟨next, hy, hg⟩ := foldlM_clauseOf_yields hb kind path hcs 0 Grown.empty
  rw [clausesOf_eq]
  exact ⟨next, hy, hg.clauses⟩

end Outline

end FormGraph

import FormGraph.Proofs.Reading.Children
import FormGraph.Proofs.Reading.Traverse
import FormGraph.Proofs.Reading.Usable

/-!
# Which schemas the branches of a group are read from

A group has entries: those of its list, or the `if` block itself. The branches of the entries are read
in order, and of those with the same canonical text over the same kind of edge only the first one
(`ownBranches`). When a group is read calmly there is one outline below it for each of these, and every
clause points at those with the text of its own branches (`ReadGroup`).
-/

namespace FormGraph

namespace Decompile

open Reading Noted

variable {below : Reader} {schema : Members} {path : String} {kind : GroupKind}

/-! ## What the branches are read from -/

/-- The entries of a group. -/
def entriesOf (kind : GroupKind) (schema : Members) : List Members :=
  match kind with
  | .ifBlock => [schema]
  | kind => ((Value.member schema kind.name).list?.getD []).filterMap Value.obj?

/-- The branch of an entry over an edge of the kind. A second branch that always fails counts as none
where one clause is enough. -/
def branchOf? (kind : GroupKind) (entry : Members) : EdgeKind → Option Value
  | .child => none
  | .thenBranch => Entries.find? entry "then"
  | .elseBranch =>
    if (Value.member entry "else").same Compile.failingBranch && (kind = .anyOf || kind = .oneOf) then
      none
    else Entries.find? entry "else"

/-- The branches of an entry, with the kinds of their edges. -/
def branchesOf (kind : GroupKind) (entry : Members) : List (EdgeKind × Value) :=
  ((branchOf? kind entry .thenBranch).toList.map fun v => (.thenBranch, v)) ++
    (branchOf? kind entry .elseBranch).toList.map fun v => (.elseBranch, v)

/-- What a branch is remembered under. -/
def marker (b : EdgeKind × Value) : EdgeKind × String := (b.1, b.2.canonicalJson)

/-- Add a branch, unless one is there that is remembered under the same. -/
def addNew (branches : List (EdgeKind × Value)) (b : EdgeKind × Value) : List (EdgeKind × Value) :=
  if marker b ∈ branches.map marker then branches else branches ++ [b]

/-- The branches of a group that are read. -/
def ownBranches (kind : GroupKind) (schema : Members) : List (EdgeKind × Value) :=
  ((entriesOf kind schema).flatMap (branchesOf kind)).foldl addNew []

/-- The tests of an `if` block. -/
def blockTests (block : Members) : List Value :=
  let test := (Value.member block "if").obj?.getD []
  match Entries.find? test "allOf" with
  | none => if test.isEmpty then [] else [.obj test]
  | some (.list tests) => tests
  | some _ => []

/-- The outline is read from a branch. -/
def ReadBranch (below : Reader) (b : EdgeKind × Value) (p : EdgeKind × Outline) : Prop :=
  p.1 = b.1 ∧ ∃ path, (branch below b.2 b.1 path).Yields (some p.2)

/-- The position is that of the branch with the same text. -/
def ReadTarget (own : List (EdgeKind × Value)) (k : EdgeKind) : Option Value → Option Nat → Prop :=
  Option.Rel fun v i => ∃ w, own[i]? = some (k, w) ∧ w.canonicalJson = v.canonicalJson

/-- The clause points at the branches of the entry. -/
def ReadClause (kind : GroupKind) (own : List (EdgeKind × Value)) (entry : Members)
    (c : Clause Nat) : Prop := ∀ k, ReadTarget own k (branchOf? kind entry k) (c.target k)

/-- What is read of a group: its branches and its clauses. -/
structure ReadGroupParts (below : Reader) (kind : GroupKind) (schema : Members)
    (parts : GroupParts) : Prop where
  /-- The outlines below it are read from its branches. -/
  below : List.Forall₂ (ReadBranch below) (ownBranches kind schema) parts.below
  /-- A list has a clause for each of its entries. -/
  list : kind ≠ .ifBlock →
    List.Forall₂ (ReadClause kind (ownBranches kind schema)) (entriesOf kind schema) parts.clauses
  /-- The clauses of a block share its branches. -/
  block : kind = .ifBlock → ∀ c ∈ parts.clauses, ReadClause kind (ownBranches kind schema) schema c
  /-- A block has clauses when one of its tests is a condition. -/
  tested : kind = .ifBlock → (∃ t ∈ blockTests schema, Condition.isFragment t = true) →
    parts.clauses ≠ []

/-! ## Branches that are remembered -/

theorem prefix_addNew (own : List (EdgeKind × Value)) (b : EdgeKind × Value) :
    own <+: addNew own b := by
  unfold addNew
  split
  · exact List.prefix_rfl
  · exact List.prefix_append _ _

theorem prefix_foldl_addNew (bs own : List (EdgeKind × Value)) : own <+: bs.foldl addNew own := by
  induction bs generalizing own with
  | nil => exact List.prefix_rfl
  | cons b bs ih => exact (prefix_addNew own b).trans (ih _)

/-- A branch that is read is the first one of those that are remembered under the same. -/
theorem find?_of_mem_addNew {bs : List (EdgeKind × Value)} {b : EdgeKind × Value}
    (h : b ∈ bs.foldl addNew []) :
    bs.find? (fun b' => marker b' = marker b) = some b := by
  suffices hall : ∀ own done : List (EdgeKind × Value),
      (∀ m, m ∈ own.map marker ↔ m ∈ done.map marker) →
      (∀ b ∈ own, done.find? (fun b' => marker b' = marker b) = some b) →
      ∀ b ∈ bs.foldl addNew own, (done ++ bs).find? (fun b' => marker b' = marker b) = some b from
    hall [] [] (fun _ => Iff.rfl) (fun _ h => absurd h List.not_mem_nil) b h
  clear h
  induction bs with
  | nil => exact fun own done _ h b hb => by rw [List.append_nil]; exact h b hb
  | cons c bs ih =>
    intro own done hmarkers hfirst b hb
    rw [List.foldl_cons] at hb
    have hsplit : done ++ c :: bs = (done ++ [c]) ++ bs := by simp
    rw [hsplit]
    refine ih (addNew own c) (done ++ [c]) (fun m => ?_) (fun b' hb' => ?_) b hb
    · unfold addNew
      split
      · next hmem =>
        rw [List.map_append, List.mem_append, ← hmarkers m, List.map_singleton,
          List.mem_singleton]
        exact ⟨.inl, fun h => h.elim id fun h => h ▸ hmem⟩
      · rw [List.map_append, List.map_append, List.mem_append, List.mem_append, hmarkers m]
    · unfold addNew at hb'
      split at hb'
      · rw [List.find?_append, hfirst b' hb']
        rfl
      · next hnot =>
        rcases List.mem_append.1 hb' with hb' | hb'
        · rw [List.find?_append, hfirst b' hb']
          rfl
        · obtain rfl := List.mem_singleton.1 hb'
          have hnone : done.find? (fun b => marker b = marker b') = none := by
            rw [List.find?_eq_none]
            intro b hb heq
            exact hnot ((hmarkers _).2 (of_decide_eq_true heq ▸ List.mem_map_of_mem hb))
          rw [List.find?_append, hnone]
          simp

theorem ReadTarget.mono {own more : List (EdgeKind × Value)} (h : own <+: more) {k : EdgeKind}
    {v : Option Value} {t : Option Nat} (ht : ReadTarget own k v t) : ReadTarget more k v t := by
  unfold ReadTarget at ht ⊢
  cases ht with
  | none => exact .none
  | some hi =>
    obtain ⟨w, hw, htext⟩ := hi
    obtain ⟨rest, rfl⟩ := h
    refine .some ⟨w, ?_, htext⟩
    rw [List.getElem?_append_left (List.getElem?_eq_some_iff.1 hw).1, hw]

theorem ReadClause.mono {own more : List (EdgeKind × Value)} (h : own <+: more) {entry : Members}
    {c : Clause Nat} (hc : ReadClause kind own entry c) : ReadClause kind more entry c :=
  fun k => (hc k).mono h

theorem isSome_branch (hs : SomeReader below) {v : Value} {k : EdgeKind}
    (hc : (branch below v k path).Calm) :
    ∃ o, (branch below v k path).value = some o := by
  cases v with
  | obj members => exact Option.isSome_iff_exists.1 (hs _ hc)
  | null | bool _ | int _ | float _ | str _ | list _ => exact absurd hc (not_calm_issue_bind _ _)

/-- What has been read so far: an outline for each branch, which is remembered at its position. -/
structure GroupParts.Reads (below : Reader) (own : List (EdgeKind × Value)) (parts : GroupParts) :
    Prop where
  /-- The outlines are read from the branches. -/
  below : List.Forall₂ (ReadBranch below) own parts.below
  /-- The branches are remembered. -/
  seen : parts.seen = own.zipIdx.map fun p => (marker p.1, some p.2)

namespace GroupParts

variable {own : List (EdgeKind × Value)} {parts : GroupParts}

theorem Reads.empty (below : Reader) : Reads below [] {} := ⟨.nil, rfl⟩

/-- A branch that is remembered stands at its position. -/
theorem Reads.find?_seen (h : parts.Reads below own) {m : EdgeKind × String}
    {s : (EdgeKind × String) × Option Nat} (hs : parts.seen.find? (fun s => s.1 = m) = some s) :
    ∃ b i, own[i]? = some b ∧ marker b = m ∧ s.2 = some i := by
  have hmem := List.mem_of_find?_eq_some hs
  have hm := List.find?_some hs
  rw [h.seen] at hmem
  obtain ⟨⟨b, i⟩, hb, rfl⟩ := List.mem_map.1 hmem
  exact ⟨b, i, List.mem_zipIdx_iff_getElem?.1 hb, of_decide_eq_true hm, rfl⟩

theorem Reads.not_mem_of_find?_seen (h : parts.Reads below own) {m : EdgeKind × String}
    (hs : parts.seen.find? (fun s => s.1 = m) = none) : m ∉ own.map marker := by
  intro hmem
  obtain ⟨b, hb, rfl⟩ := List.mem_map.1 hmem
  obtain ⟨i, hi⟩ := List.getElem?_of_mem hb
  rw [List.find?_eq_none] at hs
  refine hs (marker b, some i) ?_ (decide_eq_true rfl)
  rw [h.seen]
  exact List.mem_map.2 ⟨(b, i), List.mem_zipIdx_iff_getElem?.2 hi, rfl⟩

/-- Reading one more branch adds it where it is new, and points at the one with its text. -/
theorem Reads.sharedBranch (hs : SomeReader below) (h : parts.Reads below own) {k : EdgeKind}
    {v : Option Value} (hc : (Decompile.sharedBranch below k path v parts).Calm) :
    (Decompile.sharedBranch below k path v parts).value.1.Reads below
        ((v.toList.map fun v => (k, v)).foldl addNew own) ∧
      ReadTarget ((v.toList.map fun v => (k, v)).foldl addNew own) k v
        (Decompile.sharedBranch below k path v parts).value.2 := by
  cases v with
  | none => exact ⟨h, .none⟩
  | some v =>
    show _ ∧ ReadTarget (addNew own (k, v)) k (some v) _
    rw [show ((some v).toList.map fun v => (k, v)).foldl addNew own = addNew own (k, v) from rfl]
    unfold Decompile.sharedBranch at hc ⊢
    dsimp only at hc ⊢
    cases hfind : parts.seen.find? (fun s => s.1 = (k, v.canonicalJson)) with
    | some s =>
      obtain ⟨⟨k', w⟩, i, hi, hb, hpos⟩ := h.find?_seen hfind
      obtain ⟨rfl, htext⟩ := Prod.mk.inj hb
      have hold : addNew own (k', v) = own := if_pos (by
        rw [show marker (k', v) = marker (k', w) from hb.symm]
        exact List.mem_map_of_mem (List.mem_of_getElem? hi))
      obtain ⟨m, position⟩ := s
      obtain rfl : position = some i := hpos
      rw [hold]
      exact ⟨h, .some ⟨w, hi, htext⟩⟩
    | none =>
      simp only [hfind] at hc
      have hnew : addNew own (k, v) = own ++ [(k, v)] := if_neg (h.not_mem_of_find?_seen hfind)
      have hread := (calm_bind_iff.1 hc).1
      obtain ⟨o, ho⟩ := isSome_branch hs hread
      have hlength := h.below.length_eq
      rw [hnew]
      dsimp only
      rw [value_bind, ho, value_pure]
      refine ⟨⟨?_, ?_⟩, .some ⟨v, ?_, rfl⟩⟩
      · exact List.rel_append h.below (.cons ⟨rfl, path, ho, hread⟩ .nil)
      · show parts.seen ++ [((k, v.canonicalJson), some parts.below.length)] = _
        rw [h.seen, List.zipIdx_append, List.map_append, hlength]
        simp [marker]
      · rw [← hlength, List.getElem?_append_right (Nat.le_refl _), Nat.sub_self]
        rfl

end GroupParts

/-! ## Lists of clauses -/

theorem exists_of_isClause {v : Value} (h : isClause v = true) :
    ∃ entry, v = .obj entry ∧ Condition.isFragment (Value.member entry "if") = true := by
  unfold isClause at h
  cases v with
  | obj entry =>
    dsimp only at h
    cases hfind : Entries.find? entry "if" with
    | none =>
      rw [hfind] at h
      cases h
    | some test =>
      rw [hfind] at h
      refine ⟨entry, rfl, ?_⟩
      rw [Value.member, hfind]
      exact h
  | null | bool _ | int _ | float _ | str _ | list _ => cases h

theorem isSome_conditionOf {test : Value} (h : Condition.isFragment test = true) (path : String) :
    (conditionOf test path).value.isSome := by
  show (Condition.parse test path).1.isSome
  unfold Condition.isFragment at h
  unfold Condition.parse
  cases htested : Condition.testedProperties? test with
  | none =>
    rw [htested] at h
    cases h
  | some properties =>
    cases properties with
    | nil =>
      unfold Condition.testedProperties? at htested
      split at htested
      · split at htested <;> cases htested
      · cases htested
    | cons p properties => rfl

/-- Reading one more entry adds its branches and a clause that points at them. -/
theorem reads_clauseOf (hs : SomeReader below) {own : List (EdgeKind × Value)}
    {parts : GroupParts} (h : parts.Reads below own) (hkind : kind ≠ .ifBlock) {entry : Members}
    (htest : Condition.isFragment (Value.member entry "if") = true)
    (hc : (clauseOf below kind path parts entry).Calm) :
    (clauseOf below kind path parts entry).value.Reads below
        ((branchesOf kind entry).foldl addNew own) ∧
      ∃ c, (clauseOf below kind path parts entry).value.clauses = parts.clauses ++ [c] ∧
        ReadClause kind ((branchesOf kind entry).foldl addNew own) entry c := by
  obtain ⟨condition, hcondition⟩ := Option.isSome_iff_exists.1 (isSome_conditionOf htest (path ++ "/if"))
  have hskip : (if (Value.member entry "else").same Compile.failingBranch && kind ≠ .allOf then none
      else Entries.find? entry "else") = branchOf? kind entry .elseBranch := by
    unfold branchOf?
    cases kind with
    | ifBlock => exact absurd rfl hkind
    | allOf | anyOf | oneOf => simp
  unfold clauseOf at hc ⊢
  simp only [value_bind, calm_bind_iff, hskip] at hc ⊢
  obtain ⟨_, _, htrue, hfalse, _⟩ := hc
  obtain ⟨hthen, hposition⟩ := h.sharedBranch hs htrue
  have hclauses := clauses_sharedBranch below .thenBranch (path ++ "/then")
    (Entries.find? entry "then") parts
  generalize (sharedBranch below .thenBranch (path ++ "/then") (Entries.find? entry "then")
    parts).value = first at hthen hposition hclauses hfalse ⊢
  obtain ⟨helse, hposition'⟩ := hthen.sharedBranch hs hfalse
  have hclauses' := clauses_sharedBranch below .elseBranch (path ++ "/else")
    (branchOf? kind entry .elseBranch) first.1
  generalize (sharedBranch below .elseBranch (path ++ "/else") (branchOf? kind entry .elseBranch)
    first.1).value = second at helse hposition' hclauses' ⊢
  have hown : (branchesOf kind entry).foldl addNew own =
      ((branchOf? kind entry .elseBranch).toList.map fun v => (EdgeKind.elseBranch, v)).foldl addNew
        (((Entries.find? entry "then").toList.map fun v => (EdgeKind.thenBranch, v)).foldl addNew
          own) := List.foldl_append
  rw [hcondition, hown]
  refine ⟨⟨helse.below, helse.seen⟩, ⟨condition, first.2, second.2⟩, ?_, fun k => ?_⟩
  · show second.1.clauses ++ [_] = _
    rw [hclauses', hclauses]
  · cases k with
    | child => exact .none
    | thenBranch => exact hposition.mono (prefix_foldl_addNew _ _)
    | elseBranch => exact hposition'

/-- What has been read of the entries of a list so far. -/
structure GroupParts.ReadsList (below : Reader) (kind : GroupKind) (entries : List Members)
    (parts : GroupParts) : Prop where
  /-- Their branches were read. -/
  reads : parts.Reads below ((entries.flatMap (branchesOf kind)).foldl addNew [])
  /-- There is a clause for each of them. -/
  clauses : List.Forall₂
    (ReadClause kind ((entries.flatMap (branchesOf kind)).foldl addNew [])) entries parts.clauses

theorem readsList_clausesOf (hs : SomeReader below) (hkind : kind ≠ .ifBlock)
    {entries : List Value} (hentries : ∀ v ∈ entries, isClause v = true)
    (hc : (clausesOf below kind entries path).Calm) :
    (clausesOf below kind entries path).value.ReadsList below kind
      (entries.filterMap Value.obj?) := by
  rw [clausesOf_eq] at hc ⊢
  suffices hall : ∀ (items : List (Value × Nat)) (done : List Members) (parts : GroupParts),
      (∀ item ∈ items, isClause item.1 = true) → parts.ReadsList below kind done →
      (items.foldlM (clauseEntry below kind path) parts).Calm →
      (items.foldlM (clauseEntry below kind path) parts).value.ReadsList below kind
        (done ++ items.filterMap fun item => item.1.obj?) by
    have hread := hall entries.zipIdx [] {}
      (fun item hitem => hentries _ (List.fst_mem_of_mem_zipIdx hitem)) ⟨.empty below, .nil⟩ hc
    have hvalues : (entries.zipIdx.filterMap fun item => item.1.obj?) =
        entries.filterMap Value.obj? := by
      rw [← List.zipIdx_map_fst 0 entries, List.filterMap_map, List.zipIdx_map_fst]
      rfl
    rwa [List.nil_append, hvalues] at hread
  clear hc hentries
  intro items
  induction items with
  | nil =>
    intro done parts _ h _
    rw [List.filterMap_nil, List.append_nil]
    exact h
  | cons item items ih =>
    intro done parts hitems h hc
    obtain ⟨v, i⟩ := item
    obtain ⟨entry, rfl, htest⟩ := exists_of_isClause (hitems _ List.mem_cons_self)
    rw [List.foldlM_cons, calm_bind_iff] at hc
    rw [List.foldlM_cons, value_bind]
    have hstep : ((done ++ [entry]).flatMap (branchesOf kind)).foldl addNew [] =
        (branchesOf kind entry).foldl addNew ((done.flatMap (branchesOf kind)).foldl addNew []) := by
      rw [List.flatMap_append, List.foldl_append, List.flatMap_singleton]
    obtain ⟨hreads, c, hclauses, hclause⟩ := reads_clauseOf hs h.reads hkind htest hc.1
    have hnext : (clauseEntry below kind path parts (.obj entry, i)).value.ReadsList below kind
        (done ++ [entry]) := by
      refine ⟨hstep ▸ hreads, ?_⟩
      show List.Forall₂ _ _ (clauseOf below kind _ parts entry).value.clauses
      rw [hclauses, hstep]
      exact List.rel_append (h.clauses.imp fun _ _ h => h.mono (prefix_foldl_addNew _ _))
        (.cons hclause .nil)
    have hrest := ih _ _ (fun item hitem => hitems item (List.mem_cons_of_mem _ hitem)) hnext hc.2
    rwa [List.append_assoc] at hrest

/-! ## `if` blocks -/

/-- The branches of an `if` block, of which there is one over each kind of edge. -/
theorem ownBranches_ifBlock (block : Members) :
    ownBranches .ifBlock block = branchesOf .ifBlock block := by
  unfold ownBranches entriesOf branchesOf
  rw [List.flatMap_singleton]
  cases branchOf? .ifBlock block .thenBranch with
  | none => cases branchOf? .ifBlock block .elseBranch <;> rfl
  | some v =>
    cases branchOf? .ifBlock block .elseBranch with
    | none => rfl
    | some w =>
      show addNew [(.thenBranch, v)] (.elseBranch, w) = _
      rw [addNew, if_neg (by simp [marker])]
      rfl

theorem branchOf?_ifBlock_else (block : Members) :
    branchOf? .ifBlock block .elseBranch = Entries.find? block "else" := by
  unfold branchOf?
  simp

/-- The conditions of an `if` block are those of its tests. -/
theorem value_testsOf_block (block : Members) (path : String) :
    (testsOf ((Value.member block "if").obj?.getD []) path).value =
      (blockTests block).filterMap fun t => (conditionOf t (path ++ "/if")).value := by
  have hread : ∀ tests : List Value,
      List.filterMap id (tests.mapM fun t => conditionOf t (path ++ "/if")).value =
        tests.filterMap fun t => (conditionOf t (path ++ "/if")).value := by
    intro tests
    rw [value_mapM, List.filterMap_map]
    rfl
  unfold testsOf blockTests
  dsimp only
  cases Entries.find? ((Value.member block "if").obj?.getD []) "allOf" with
  | none => exact hread _
  | some v =>
    cases v with
    | list tests => exact hread tests
    | null | bool _ | int _ | float _ | str _ | obj _ => rfl

/-- What is read of a branch of a block, and where it hangs. -/
theorem reads_blockBranch (hs : SomeReader below) {own : List (EdgeKind × Value)}
    (parts : GroupParts) (h : List.Forall₂ (ReadBranch below) own parts.below) {k : EdgeKind}
    {keyword : String} {block : Members} (hc : (blockBranch below block keyword k path).Calm) :
    List.Forall₂ (ReadBranch below)
        (own ++ (Entries.find? block keyword).toList.map fun v => (k, v))
        (parts.hang k (blockBranch below block keyword k path).value).1.below ∧
      ReadTarget (own ++ (Entries.find? block keyword).toList.map fun v => (k, v)) k
        (Entries.find? block keyword)
        (parts.hang k (blockBranch below block keyword k path).value).2 := by
  unfold blockBranch at hc ⊢
  cases hfind : Entries.find? block keyword with
  | none =>
    rw [hfind] at hc
    exact ⟨(List.append_nil own).symm ▸ h, .none⟩
  | some v =>
    rw [hfind] at hc
    dsimp only at hc ⊢
    obtain ⟨o, ho⟩ := isSome_branch hs hc
    rw [ho]
    refine ⟨List.rel_append h (.cons ⟨rfl, _, ho, hc⟩ .nil), .some ⟨v, ?_, rfl⟩⟩
    rw [← h.length_eq, List.getElem?_append_right (Nat.le_refl _), Nat.sub_self]
    rfl

theorem readGroupParts_blockOf (hs : SomeReader below) (hc : (blockOf below schema path).Calm) :
    ReadGroupParts below .ifBlock schema (blockOf below schema path).value := by
  rw [blockOf_eq] at hc ⊢
  simp only [value_bind, value_pure, calm_bind_iff] at hc ⊢
  obtain ⟨_, htrue, hfalse, _⟩ := hc
  obtain ⟨hthen, hposition⟩ := reads_blockBranch hs {} .nil htrue
  generalize ({} : GroupParts).hang .thenBranch _ = first at hthen hposition ⊢
  obtain ⟨helse, hposition'⟩ := reads_blockBranch hs first.1 hthen hfalse
  generalize first.1.hang .elseBranch _ = second at helse hposition' ⊢
  have hown : ownBranches .ifBlock schema =
      ([] ++ (Entries.find? schema "then").toList.map fun v => (EdgeKind.thenBranch, v)) ++
        (Entries.find? schema "else").toList.map fun v => (EdgeKind.elseBranch, v) := by
    rw [ownBranches_ifBlock, branchesOf, branchOf?_ifBlock_else]
    rfl
  refine ⟨hown ▸ helse, fun h => absurd rfl h, fun _ c hc => ?_, fun _ ⟨t, ht, htest⟩ => ?_⟩
  · obtain ⟨condition, _, rfl⟩ := List.mem_map.1 hc
    rw [hown]
    intro k
    cases k with
    | child => exact .none
    | thenBranch => exact hposition.mono (List.prefix_append _ _)
    | elseBranch =>
      rw [branchOf?_ifBlock_else]
      exact hposition'
  · obtain ⟨c, hcondition⟩ := Option.isSome_iff_exists.1 (isSome_conditionOf htest (path ++ "/if"))
    refine List.ne_nil_of_mem (List.mem_map_of_mem (a := c) ?_)
    rw [value_testsOf_block]
    exact List.mem_filterMap.2 ⟨t, ht, hcondition⟩

/-! ## Groups -/

/-- A group that is no block has a list, and every entry of it is a clause. -/
theorem exists_list_of_groupKind? (h : groupKind? (.obj schema) = some kind)
    (hkind : kind ≠ .ifBlock) :
    ∃ items, Entries.find? schema kind.name = some (.list items) ∧
      ∀ v ∈ items, isClause v = true := by
  unfold groupKind? at h
  dsimp only at h
  split at h
  · split_ifs at h
    exact absurd (Option.some.inj h).symm hkind
  · split at h
    · split_ifs at h
      split at h
      · next hlist =>
        split_ifs at h with hall
        obtain rfl := Option.some.inj h
        exact ⟨_, find?_of_member (by simp) hlist, List.all_eq_true.1 hall⟩
      · cases h
    · cases h

/-- The entries of a list. -/
theorem entriesOf_list (hkind : kind ≠ .ifBlock) {items : List Value}
    (h : Entries.find? schema kind.name = some (.list items)) :
    entriesOf kind schema = items.filterMap Value.obj? := by
  have hmember := member_of_find? h
  cases kind with
  | ifBlock => exact absurd rfl hkind
  | allOf | anyOf | oneOf =>
    unfold entriesOf
    dsimp only
    rw [hmember]
    rfl

theorem readGroupParts_of_calm (hs : SomeReader below) (h : groupKind? (.obj schema) = some kind)
    (hc : (groupParts below kind schema path).Calm) :
    ReadGroupParts below kind schema (groupParts below kind schema path).value := by
  by_cases hkind : kind = .ifBlock
  · subst hkind
    exact readGroupParts_blockOf hs hc
  · have hparts : groupParts below kind schema path = clausesOf below kind
        ((Value.member schema kind.name).list?.getD []) (path ++ "/" ++ kind.name) := by
      cases kind with
      | ifBlock => exact absurd rfl hkind
      | allOf | anyOf | oneOf => rfl
    obtain ⟨items, hitems, hclauses⟩ := exists_list_of_groupKind? h hkind
    rw [hparts, member_of_find? hitems] at hc ⊢
    have hread := readsList_clausesOf hs hkind hclauses hc
    rw [← entriesOf_list hkind hitems] at hread
    exact ⟨hread.reads.below, fun _ => hread.clauses, fun h => absurd h hkind,
      fun h => absurd h hkind⟩

/-- A group that is read calmly is a node with the clauses and the branches that were read. -/
theorem group_of_calm (hs : SomeReader below) (h : groupKind? (.obj schema) = some kind)
    {taken : List String} (hc : (group below kind schema taken path).Calm) :
    ∃ parts n, (group below kind schema taken path).value = .mk n parts.below ∧
      n.body = .group kind parts.clauses ∧ ReadGroupParts below kind schema parts := by
  rw [group_eq] at hc ⊢
  exact ⟨_, _, rfl, body_nodeOf .., readGroupParts_of_calm hs h (calm_bind_iff.1 hc).1⟩

end Decompile

end FormGraph

import FormGraph.Proofs.Canonical
import FormGraph.Proofs.Describing.Shown
import FormGraph.Proofs.Reading.Determined
import FormGraph.Proofs.Sources.Graph

/-!
# What a branch that is shared says

Of the branches of a list with one canonical text over one kind of edge only the first is read, and
every clause points at it. So the branch of a clause is described as the first one is, read on its
own. The canonical text leaves out the order of members, and what a branch says does not: the order
of its properties is that of its children. A clause whose own branch lists them in another order than
the first one is described by a branch that says something else.
-/

namespace FormGraph

open Decompile Noted

/-! ## Branches on their own -/

/-- The outline is what the branch is read as on its own, with the definitions of the document. -/
def ReadsBranch (document : Members) (cfg : DocumentConfig) (k : EdgeKind) (v : Value)
    (o : Outline) : Prop :=
  ∃ depth path, (branch (reader cfg.tupleItems (Entries.names (definitionTable document).value)
    depth) v k path).Yields (some o)

/-- A branch is read as one outline on its own, to any depth and wherever it stands. -/
theorem ReadsBranch.unique {document : Members} {cfg : DocumentConfig} {k : EdgeKind} {v : Value}
    {o o' : Outline} (h : ReadsBranch document cfg k v o) (h' : ReadsBranch document cfg k v o') :
    o = o' := by
  obtain ⟨depth, path, hvalue, hc⟩ := h
  obtain ⟨depth', path', hvalue', hc'⟩ := h'
  have heq := agree_branch (agree_reader _ _ depth depth') v k path path' hc hc'
  exact Option.some.inj (hvalue.symm.trans (heq.trans hvalue'))

/-- Two branches say the same, each read on its own. -/
def SaySame (document : Members) (cfg : DocumentConfig) (k : EdgeKind) (v w : Value) : Prop :=
  ∃ o o', ReadsBranch document cfg k v o ∧ ReadsBranch document cfg k w o' ∧
    o.sayAsBranch = o'.sayAsBranch

/-- The first branch of a list that is remembered under the same as the given one. -/
def firstBranch (kind : GroupKind) (group : Members) (b : EdgeKind × Value) :
    Option (EdgeKind × Value) :=
  ((entriesOf kind group).flatMap (branchesOf kind)).find? fun b' => marker b' = marker b

variable {below : Reader} {kind : GroupKind} {group : Members} {parts : GroupParts} {k : EdgeKind}

/-- A branch that is read is the first one with its text. -/
theorem firstBranch_of_mem {own first : Value} (h : (k, first) ∈ ownBranches kind group)
    (htext : first.canonicalJson = own.canonicalJson) :
    firstBranch kind group (k, own) = some (k, first) := by
  have hmarker : marker (k, own) = marker (k, first) := by rw [marker, marker, htext]
  unfold firstBranch
  rw [hmarker]
  exact find?_of_mem_addNew h

/-- A clause of a list that points at a position is read from an entry whose branch has the text of
the one that is read there. -/
theorem exists_own_of_clause (hread : ReadGroupParts below kind group parts)
    (hlist : kind ≠ .ifBlock) {i : Nat} {c : Clause Nat} (hc : parts.clauses[i]? = some c) {j : Nat}
    (hj : c.target k = some j) :
    ∃ entry own first, (entriesOf kind group)[i]? = some entry ∧
      branchOf? kind entry k = some own ∧ (ownBranches kind group)[j]? = some (k, first) ∧
      first.canonicalJson = own.canonicalJson := by
  obtain ⟨entry, hentry, hclause⟩ := exists_left_of_getElem? (hread.list hlist) hc
  have htarget := hclause k
  unfold ReadTarget at htarget
  rw [hj] at htarget
  generalize hown : branchOf? kind entry k = own at htarget
  cases htarget with
  | @some own _ hfirst =>
    obtain ⟨first, hposition, htext⟩ := hfirst
    exact ⟨entry, own, first, hentry, hown, hposition, htext⟩

namespace Graph

variable {g : Graph} {id : NodeId} {n : Node NodeId} {o : Outline}

/-- The description of a branch in the signature. -/
def branchSignature (g : Graph) (id : NodeId) : Except Fault Value :=
  Signature.branch g (Signature.node g (g.nodes.size + 1)) false (some id)

/-- The branch at which an outline is shown is described as the outline is. -/
theorem Shows.branchSignature (h : g.Shows id o) (hf : o.Fits)
    (hheight : o.height ≤ Compile.depth g) : g.branchSignature id = .ok o.sayAsBranch := by
  obtain ⟨f, hn⟩ := h.node?
  have hdescribes := h.describes hf _ hheight
  have haddressable : (o.node.mapClauses (Clause.bindTargets f)).isAddressable =
      o.node.isAddressable := congrArg NodeKind.isAddressable (Node.kind_mapClauses _ _)
  unfold Graph.branchSignature Signature.branch
  dsimp only
  rw [hn]
  dsimp only
  rw [haddressable]
  exact hdescribes _

/-- A clause points at a node that shows what hangs at the position that its outline points at. -/
theorem Shows.exists_branch (h : g.Shows id o) (hn : g.node? id = some n) {i : Nat}
    {c : Clause NodeId} (hc : n.clauses[i]? = some c) {k : EdgeKind} {t : NodeId}
    (ht : c.target k = some t) :
    ∃ c₀ j b, o.node.clauses[i]? = some c₀ ∧ c₀.target k = some j ∧ o.hanging[j]? = some b ∧
      g.Shows t b.2 ∧ b.2.height < o.height := by
  cases h with
  | @mk _ m hs node edges below =>
    obtain rfl := Option.some.inj (node.symm.trans hn)
    rw [Node.clauses_mapClauses, List.getElem?_map, Option.map_eq_some_iff] at hc
    obtain ⟨c₀, hc₀, rfl⟩ := hc
    rw [Clause.target_bindTargets, Option.bind_eq_some_iff] at ht
    obtain ⟨j, hj, ht⟩ := ht
    rw [List.getElem?_map, Option.map_eq_some_iff] at ht
    obtain ⟨x, hx, rfl⟩ := ht
    have hmem := List.mem_of_getElem? hx
    refine ⟨c₀, j, x.2, hc₀, hj, ?_, below x hmem, Shows.height_of_edge hmem⟩
    show (hs.map Prod.snd)[j]? = some x.2
    rw [List.getElem?_map, hx]
    rfl

/-- The node is described as the branch is, read on its own. -/
def DescribedAs (document : Members) (cfg : DocumentConfig) (g : Graph) (t : NodeId) (k : EdgeKind)
    (v : Value) : Prop :=
  ∃ o, ReadsBranch document cfg k v o ∧ g.branchSignature t = .ok o.sayAsBranch

/-- In a graph that was read, every group that is no block stands for a list of clauses, and the branch
of a clause is described as the first branch of the list with its canonical text is, read on its own.
This is the own branch of the clause but for the order of members, and the clause is described with its
own branch exactly when the two say the same. -/
theorem describedAs_of_shared {document : Members} (hp : (Value.obj document).Proper)
    {cfg : DocumentConfig} {s : IdSupply} {read : Imported × IdSupply}
    (h : (decompile (.obj document) cfg).run s = .ok read)
    (hn : read.1.graph.node? id = some n) {kind : GroupKind} (hk : n.kind = .group kind)
    (hlist : kind ≠ .ifBlock) :
    (∃ group, StandsFor document read.1.graph (.obj group) id) ∧
      ∀ group, StandsFor document read.1.graph (.obj group) id →
        ∀ (i : Nat) (c : Clause NodeId), n.clauses[i]? = some c →
          ∀ (k : EdgeKind) (t : NodeId), c.target k = some t →
            ∃ entry own first, (entriesOf kind group)[i]? = some entry ∧
              branchOf? kind entry k = some own ∧
              firstBranch kind group (k, own) = some (k, first) ∧ Value.Alike own first ∧
              DescribedAs document cfg read.1.graph t k first ∧
              (DescribedAs document cfg read.1.graph t k own ↔
                SaySame document cfg k own first) := by
  obtain ⟨d, hd, hgraph⟩ := laidOut_of_decompile hp h
  rw [hgraph] at hn ⊢
  refine ⟨exists_standsFor_object hd hn (by rw [hk]; simp), fun group hgroup i c hc k t ht => ?_⟩
  have hproper := hgroup.proper hp
  obtain ⟨o, ho⟩ := reads_of_standsFor hd hgroup
  obtain ⟨_, depth, parts, hread, hbody, hhanging⟩ := ho.group hn hk
  obtain ⟨c₀, j, b, hc₀, hj, hb, hshows, hheight⟩ := ho.shows.exists_branch hn hc ht
  have hclauses : o.node.clauses = parts.clauses := by
    rw [Node.clauses, hbody, Body.clauses]
  obtain ⟨entry, own, first, hentry, hown, hfirst, htext⟩ :=
    exists_own_of_clause hread hlist (hclauses ▸ hc₀) hj
  have hmem := List.mem_of_getElem? hfirst
  obtain ⟨b', hb', _, path, hbranch⟩ := exists_right_of_getElem? hread.below hfirst
  obtain rfl : b = b' := Option.some.inj ((hhanging ▸ hb).symm.trans hb')
  have hreads : ReadsBranch document cfg k first b.2 := ⟨depth, path, hbranch⟩
  have hdescribed := hshows.branchSignature (ho.fits.hanging _ (List.mem_of_getElem? hb))
    (Nat.le_trans (Nat.le_of_lt hheight) ho.height)
  refine ⟨entry, own, first, hentry, hown, firstBranch_of_mem hmem htext, ?_,
    ⟨b.2, hreads, hdescribed⟩, ?_, ?_⟩
  · have hentryProper := proper_of_mem_entriesOf hproper (List.mem_of_getElem? hentry)
    exact Value.alike_of_canonicalJson (proper_of_branchOf? hentryProper hown)
      (proper_of_mem_ownBranches hproper hmem) htext.symm
  · rintro ⟨o', ho', hsame⟩
    exact ⟨o', b.2, ho', hreads, Except.ok.inj (hsame.symm.trans hdescribed)⟩
  · rintro ⟨o', o'', ho', ho'', hsame⟩
    obtain rfl := ho''.unique hreads
    exact ⟨o', ho', hsame ▸ hdescribed⟩

/-- A list with two clauses that have one branch. -/
def oneBranch : Members :=
  [("anyOf", .list [
    .obj [("if", .obj [("properties", .obj [("a", .obj [("const", .int 1)])])]),
      ("then", .obj [("type", .str "string")])],
    .obj [("if", .obj [("properties", .obj [("a", .obj [("const", .int 2)])])]),
      ("then", .obj [("type", .str "string")])]])]

/-- The second clause of such a list is described with the branch that was read for the first one. -/
theorem describedAs_of_one_branch :
    ∃ read n c t, (decompile (.obj oneBranch) {}).run {} = .ok read ∧
      read.1.graph.node? (IdSupply.nameOf 1) = some n ∧ n.kind = .group .anyOf ∧
      StandsFor oneBranch read.1.graph (.obj oneBranch) (IdSupply.nameOf 1) ∧
      n.clauses[1]? = some c ∧ c.target .thenBranch = some t ∧
      DescribedAs oneBranch {} read.1.graph t .thenBranch (.obj [("type", .str "string")]) := by
  have hproper : (Value.obj oneBranch).Proper := Value.proper_of_everywhere (by decide)
  obtain ⟨read, hread, n, hn, hkind, hstands, c, hc, t, ht⟩ : ∃ read,
      (decompile (.obj oneBranch) {}).run {} = .ok read ∧ ∃ n,
        read.1.graph.node? (IdSupply.nameOf 1) = some n ∧ n.kind = .group .anyOf ∧
        StandsFor oneBranch read.1.graph (.obj oneBranch) (IdSupply.nameOf 1) ∧
        ∃ c, n.clauses[1]? = some c ∧ ∃ t, c.target .thenBranch = some t :=
    ⟨_, by with_unfolding_all rfl, _, by with_unfolding_all rfl, by with_unfolding_all rfl,
      .hanging (i := 0) .root (by with_unfolding_all rfl) (by with_unfolding_all rfl)
        (by with_unfolding_all rfl), _, by with_unfolding_all rfl, _, by with_unfolding_all rfl⟩
  obtain ⟨entry, own, first, hentry, hown, hfirst, _, hdescribed, _⟩ :=
    (describedAs_of_shared hproper hread hn hkind (by decide)).2 _ hstands _ _ hc _ _ ht
  obtain rfl := Option.some.inj hentry
  obtain rfl := Option.some.inj hown
  have hsame : some (EdgeKind.thenBranch, Value.obj [("type", .str "string")]) =
      some (.thenBranch, first) := Eq.trans (by with_unfolding_all rfl) hfirst
  obtain rfl := (Prod.mk.inj (Option.some.inj hsame)).2
  exact ⟨read, n, c, t, hread, hn, hkind, hstands, hc, ht, hdescribed⟩

/-- A branch that lists two properties. -/
def twoProperties (first second : String) : Value :=
  .obj [("properties", .obj [(first, .obj []), (second, .obj [])])]

/-- Branches with one canonical text that can both be read need not say the same. -/
theorem exists_shared_not_saySame :
    (twoProperties "b" "a").canonicalJson = (twoProperties "a" "b").canonicalJson ∧
      (∃ own, ReadsBranch [] {} .thenBranch (twoProperties "b" "a") own) ∧
      ¬ SaySame [] {} .thenBranch (twoProperties "b" "a") (twoProperties "a" "b") := by
  have hown : ReadsBranch [] {} .thenBranch (twoProperties "b" "a") _ :=
    ⟨2, "", rfl, fun _ hn => absurd hn List.not_mem_nil⟩
  have hfirst : ReadsBranch [] {} .thenBranch (twoProperties "a" "b") _ :=
    ⟨2, "", rfl, fun _ hn => absurd hn List.not_mem_nil⟩
  have hsorted : (twoProperties "b" "a").sorted = (twoProperties "a" "b").sorted := by
    simp [twoProperties, Value.sorted, Value.sortedMembers, List.mergeSort,
      List.MergeSort.Internal.splitInTwo]
  refine ⟨congrArg Value.compactJson hsorted, ⟨_, hown⟩, ?_⟩
  rintro ⟨o, o', h, h', hsame⟩
  rw [h.unique hown, h'.unique hfirst] at hsame
  exact absurd hsame (by decide +kernel)

end Graph

end FormGraph

import FormGraph.Proofs.Views
import Std.Data.String.ToNat

/-!
# Names of new nodes

The supply never gives a name twice, and never that of the root. `Supplied g s` says that the names
which the supply has still to give are free in a graph.
-/

namespace FormGraph

namespace IdSupply

theorem nameOf_injective {m n : Nat} (h : nameOf m = nameOf n) : m = n :=
  Nat.repr_injective ((String.append_right_inj "n").1 h)

theorem nameOf_ne_rootName (n : Nat) : nameOf n ≠ rootName := by
  intro h
  have hl := congrArg String.toList h
  simp [nameOf, rootName] at hl

end IdSupply

namespace Graph

/-- The names that the supply has still to give are free. -/
def Supplied (g : Graph) (s : IdSupply) : Prop :=
  ∀ k, s.used < k → g.node? (IdSupply.nameOf k) = none

variable {g g' : Graph} {s t : IdSupply}

/-- An edit that only makes nodes of names that it took leaves the others free. -/
theorem Supplied.step (hs : Supplied g s) (hle : s.used ≤ t.used)
    (h : ∀ x, (g'.kind? x).isSome → (g.kind? x).isSome ∨
      ∃ k, k ≤ t.used ∧ x = IdSupply.nameOf k) : Supplied g' t := by
  intro k hk
  refine Option.not_isSome_iff_eq_none.1 fun hsome => ?_
  rw [← isSome_kind?] at hsome
  rcases h _ hsome with hold | ⟨j, hj, heq⟩
  · rw [isSome_kind?, hs k (by omega)] at hold
    simp at hold
  · have hkj := IdSupply.nameOf_injective heq
    omega

theorem Supplied.mono (hs : Supplied g s) (h : ∀ x, (g'.kind? x).isSome → (g.kind? x).isSome) :
    Supplied g' s :=
  hs.step (Nat.le_refl _) fun x hx => Or.inl (h x hx)

/-- Taking a node out leaves names free. -/
theorem Supplied.takeOut (hs : Supplied g s) (id : NodeId) :
    Supplied ((g.detach id).drop id) s := by
  intro k hk
  rw [node?_drop, node?_detach, hs k hk, ite_self]

end Graph

end FormGraph

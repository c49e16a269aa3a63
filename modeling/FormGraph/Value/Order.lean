import FormGraph.Value.Basic

/-!
# The order of values

Texts are ordered by their characters, numbers by what they are worth, and the fixed sequences of
attributes by the first items that differ; values of different sorts have no order. Lists of values
are sorted only where all of them have an order (`Value.ascending?`).
-/

namespace FormGraph

namespace Value

/-- Whether the value is neither a list nor an object. -/
def isScalar : Value → Bool
  | .list _ => false
  | .obj _ => false
  | _ => true

/-- Whether the value of an attribute can be looked up by: an object cannot, nor a sequence with a
list or an object in it. -/
def isLookup : Value → Bool
  | .list items => items.all isScalar
  | v => v.isScalar

/-- Whether a scalar does not come after another one, where the two have an order. -/
def scalarLe? : Value → Value → Option Bool
  | .str a, .str b => some (a ≤ b)
  | a, b =>
    match a.worth?, b.worth? with
    | some x, some y => some (x ≤ y)
    | _, _ => none

/-- Whether a sequence of scalars does not come after another one. -/
def itemsLe? : List Value → List Value → Option Bool
  | [], _ => some true
  | _ :: _, [] => some false
  | a :: as, b :: bs => if a.same b then itemsLe? as bs else scalarLe? a b

/-- Whether a value does not come after another one, where the two have an order. -/
def le? : Value → Value → Option Bool
  | .list as, .list bs => itemsLe? as bs
  | a, b => scalarLe? a b

/-- The values without those that say the same as one before. -/
def distinct (vs : List Value) : List Value :=
  vs.foldl (fun seen v => if seen.any v.same then seen else seen ++ [v]) []

/-- Whether each of the values has an order with all that follow it. -/
def areComparable : List Value → Bool
  | [] => true
  | v :: vs => vs.all (fun w => (v.le? w).isSome) && areComparable vs

/-- The values sorted, each once, where all of them have an order. -/
def ascending? (vs : List Value) : Option (List Value) :=
  let once := distinct vs
  if areComparable once then some (once.mergeSort fun a b => (a.le? b).getD false) else none

end Value

end FormGraph

import FormGraph.Fault
import FormGraph.Json.Writer
import FormGraph.Value.Order

/-!
# Values read as objects

Where a request has to give an object, a list of pairs will do, each of them a list of two items, a
text of two characters, or an object of two members, whose names then count. What says nothing is an
object without members. The names that pairs give need not be texts, but have to be scalars.
-/

namespace FormGraph

/-- Named values, where the names need not be texts. -/
abbrev Pairs := List (Value × Value)

namespace Pairs

/-- Give a name a value: in the place it has, or behind all others. -/
def put (pairs : Pairs) (name v : Value) : Pairs :=
  if pairs.any fun p => p.1.same name then
    pairs.map fun p => if p.1.same name then (p.1, v) else p
  else pairs ++ [(name, v)]

/-- The items of a value that holds items: the characters of a text, and the names of an object. -/
def itemsOf? : Value → Option (List Value)
  | .str s => some (s.toList.map fun c => .str (String.singleton c))
  | .list items => some items
  | .obj members => some ((Entries.names members).map .str)
  | _ => none

/-- Add the pairs that a list has from the given position on. -/
def addFrom (pairs : Pairs) (position : Nat) : List Value → Except Fault Pairs
  | [] => .ok pairs
  | item :: items =>
    match itemsOf? item with
    | none => breakDown .unusableValue
    | some [name, v] =>
      if name.isScalar then addFrom (pairs.put name v) (position + 1) items
      else breakDown .unusableValue
    | some parts => .error (.badPair position parts.length)

/-- Read a value as an object. -/
def ofValue (v : Value) : Except Fault Pairs :=
  match v with
  | .obj members => .ok (members.map fun m => (.str m.1, m.2))
  | v =>
    if !v.holds then .ok []
    else
      match itemsOf? v with
      | some items => addFrom [] 0 items
      | none => breakDown .unusableValue

/-- The pairs whose names are texts, as members. -/
def named (pairs : Pairs) : Members :=
  pairs.filterMap fun p => p.1.str?.map fun name => (name, p.2)

/-- The names that are no texts. -/
def otherNames (pairs : Pairs) : List Value :=
  (pairs.map Prod.fst).filter fun name => !name.isStr

/-- All pairs as members. -/
def members (pairs : Pairs) : Members :=
  Entries.putAll [] (pairs.map fun p => (p.1.memberName, p.2))

end Pairs

end FormGraph

import FormGraph.Value.Double
import FormGraph.Value.Entries

/-!
# Document values

`Value` is what a document is made of. It keeps apart what JSON text keeps apart: the order of the
members of an object, and a whole number (`1`) from a number with a point (`1.0`).

There are two equalities.

* `=` is equality of the written document: same order of members, same kind of number. It is
  decidable.
* `Value.same` is equality of what the document says: members in any order, numbers compared by
  what they are worth, and a truth value worth `0` or `1`.
-/

namespace FormGraph

/-- A document value. -/
inductive Value where
  /-- The absent value. -/
  | null
  /-- A truth value. -/
  | bool (b : Bool)
  /-- A whole number of any size. -/
  | int (n : Int)
  /-- A number written with a point or an exponent. -/
  | float (x : Double)
  /-- A text. -/
  | str (s : String)
  /-- A list. -/
  | list (items : List Value)
  /-- An object, its members in written order. -/
  | obj (members : List (String × Value))
  deriving Inhabited

/-- The members of an object, in written order. -/
abbrev Members := List (String × Value)

namespace Value

mutual

/-- Equality of the written values, as a test. -/
def beq : Value → Value → Bool
  | .null, .null => true
  | .bool a, .bool b => a == b
  | .int a, .int b => a == b
  | .float a, .float b => a == b
  | .str a, .str b => a == b
  | .list as, .list bs => beqItems as bs
  | .obj as, .obj bs => beqMembers as bs
  | _, _ => false

/-- Equality of the written items, as a test. -/
def beqItems : List Value → List Value → Bool
  | [], [] => true
  | a :: as, b :: bs => beq a b && beqItems as bs
  | _, _ => false

/-- Equality of the written members, as a test. -/
def beqMembers : List (String × Value) → List (String × Value) → Bool
  | [], [] => true
  | (m, a) :: as, (n, b) :: bs => m == n && beq a b && beqMembers as bs
  | _, _ => false

end

mutual

theorem beq_iff_eq : ∀ a b : Value, beq a b = true ↔ a = b
  | .null, b => by cases b <;> simp [beq]
  | .bool x, b => by cases b <;> simp [beq]
  | .int n, b => by cases b <;> simp [beq]
  | .float x, b => by cases b <;> simp [beq]
  | .str s, b => by cases b <;> simp [beq]
  | .list as, b => by cases b <;> simp [beq, beqItems_iff_eq as]
  | .obj as, b => by cases b <;> simp [beq, beqMembers_iff_eq as]

theorem beqItems_iff_eq : ∀ as bs : List Value, beqItems as bs = true ↔ as = bs
  | [], bs => by cases bs <;> simp [beqItems]
  | a :: as, bs => by cases bs <;> simp [beqItems, beq_iff_eq a, beqItems_iff_eq as]

theorem beqMembers_iff_eq :
    ∀ as bs : List (String × Value), beqMembers as bs = true ↔ as = bs
  | [], bs => by cases bs <;> simp [beqMembers]
  | (m, a) :: as, bs => by
    cases bs with
    | nil => simp [beqMembers]
    | cons b bs =>
      obtain ⟨n, b⟩ := b
      simp [beqMembers, beq_iff_eq a, beqMembers_iff_eq as]

end

instance : DecidableEq Value := fun a b => decidable_of_iff _ (beq_iff_eq a b)

/-- Whether the value is `null`. -/
def isNull : Value → Bool
  | .null => true
  | _ => false

/-- The text of a text value. -/
def str? : Value → Option String
  | .str s => some s
  | _ => none

/-- The items of a list. -/
def list? : Value → Option (List Value)
  | .list items => some items
  | _ => none

/-- The members of an object. -/
def obj? : Value → Option Members
  | .obj members => some members
  | _ => none

/-- Whether the value is an object. -/
def isObj (v : Value) : Bool := v.obj?.isSome

/-- Whether the value is a text. -/
def isStr (v : Value) : Bool := v.str?.isSome

/-- Whether the value says something: `null`, `false`, zero, the empty text, the empty list and the
empty object say nothing. -/
def holds : Value → Bool
  | .null => false
  | .bool b => b
  | .int n => n != 0
  | .float x => x.units != 0 || !x.isFinite
  | .str s => s != ""
  | .list items => !items.isEmpty
  | .obj members => !members.isEmpty

/-- What a number or a truth value is worth, in units of `2 ^ -1074`. -/
def worth? : Value → Option Int
  | .bool b => some (Double.unitsOfInt (if b then 1 else 0))
  | .int n => some (Double.unitsOfInt n)
  | .float x => some x.units
  | _ => none

/-- Whether the value is a number; a truth value is none. -/
def isNumber : Value → Bool
  | .int _ => true
  | .float _ => true
  | _ => false

/-- The value of a member, `null` when there is no such member. -/
def member (members : Members) (name : String) : Value :=
  (Entries.find? members name).getD .null

mutual

/-- Whether two values say the same: members in any order, numbers by what they are worth. -/
def same : Value → Value → Bool
  | .null, b => b.isNull
  | .bool x, b => b.worth? == worth? (.bool x)
  | .int n, b => b.worth? == worth? (.int n)
  | .float x, b => b.worth? == worth? (.float x)
  | .str s, b => b.str? == some s
  | .list as, b =>
    match b with
    | .list bs => sameItems as bs
    | _ => false
  | .obj as, b =>
    match b with
    | .obj bs => as.length == bs.length && sameMembers as bs
    | _ => false

/-- Whether two lists say the same, item by item. -/
def sameItems : List Value → List Value → Bool
  | [], bs => bs.isEmpty
  | a :: as, bs =>
    match bs with
    | [] => false
    | b :: bs => same a b && sameItems as bs

/-- Whether every member is also in `bs` and says the same there. -/
def sameMembers : List (String × Value) → List (String × Value) → Bool
  | [], _ => true
  | (n, a) :: as, bs =>
    (match Entries.find? bs n with
      | some b => same a b
      | none => false) && sameMembers as bs

end

mutual

/-- How many levels of lists and objects the value has. -/
def depth : Value → Nat
  | .list items => depthItems items + 1
  | .obj members => depthMembers members + 1
  | _ => 1

/-- The depth of the deepest item. -/
def depthItems : List Value → Nat
  | [] => 0
  | v :: vs => max (depth v) (depthItems vs)

/-- The depth of the deepest member. -/
def depthMembers : List (String × Value) → Nat
  | [] => 0
  | (_, v) :: vs => max (depth v) (depthMembers vs)

end

mutual

/-- The value with the members of every object sorted by name. -/
def sorted : Value → Value
  | .list items => .list (sortedItems items)
  | .obj members => .obj ((sortedMembers members).mergeSort fun a b => a.1 ≤ b.1)
  | v => v

/-- Every item sorted. -/
def sortedItems : List Value → List Value
  | [] => []
  | v :: vs => sorted v :: sortedItems vs

/-- The value of every member sorted. -/
def sortedMembers : List (String × Value) → List (String × Value)
  | [] => []
  | (n, v) :: vs => (n, sorted v) :: sortedMembers vs

end

/-- The list of the given texts. -/
def ofStrings (texts : List String) : Value := .list (texts.map .str)

/-- A number as a value. -/
def ofNat (n : Nat) : Value := .int n

/-- A text, or `null` when there is none. -/
def ofString? : Option String → Value
  | some s => .str s
  | none => .null

end Value

end FormGraph

/-!
# Parts of a regular expression

What the checker keeps of a part it has read: how wide the texts are that it matches, since a part
that looks behind has to be of a fixed width, and the first thing wrong with it that is only
complained about once the whole expression has been read.
-/

namespace FormGraph

namespace Pattern

/-- The least and the greatest number of characters that something matches. -/
structure Width where
  /-- The least number. -/
  low : Nat
  /-- The greatest number. -/
  high : Nat
  deriving DecidableEq, Repr

namespace Width

/-- How often something is repeated that is repeated without end; no width is greater. -/
def endless : Nat := 4294967295

/-- The width that lies between two bounds, of which the lower one is never without end. -/
def clamped (low high : Nat) : Width := ⟨min low (endless - 1), min high endless⟩

/-- Nothing. -/
def zero : Width := ⟨0, 0⟩

/-- One character. -/
def one : Width := ⟨1, 1⟩

/-- One after the other. -/
def add (a b : Width) : Width := clamped (a.low + b.low) (a.high + b.high)

/-- One or the other. -/
def either (a b : Width) : Width := ⟨min a.low b.low, max a.high b.high⟩

/-- From `least` to `most` times. -/
def times (w : Width) (least most : Nat) : Width := clamped (w.low * least) (w.high * most)

end Width

/-- What is known of a part that has been read. -/
structure Part where
  /-- How wide it is. -/
  width : Width
  /-- The first of its late complaints. -/
  late : Option String := none
  deriving DecidableEq, Repr

namespace Part

/-- Nothing. -/
def empty : Part := ⟨.zero, none⟩

/-- One character. -/
def one : Part := ⟨.one, none⟩

/-- One after the other. -/
def add (a b : Part) : Part := ⟨a.width.add b.width, a.late.or b.late⟩

/-- One or the other. -/
def either (a b : Part) : Part := ⟨a.width.either b.width, a.late.or b.late⟩

/-- A part that may be left out. -/
def optional (a : Part) : Part := { a with width := ⟨0, a.width.high⟩ }

/-- A part that is looked for ahead, and takes nothing. -/
def ahead (a : Part) : Part := { a with width := .zero }

/-- A part that is looked for behind, and takes nothing. -/
def behind (a : Part) : Part where
  width := .zero
  late := if a.width.low = a.width.high then a.late
    else some "look-behind requires fixed-width pattern"

end Part

/-- What an item is to a repetition that follows it. -/
inductive ItemKind where
  /-- A place rather than a text: there is nothing to repeat. -/
  | place
  /-- Repeated already. -/
  | repeated
  /-- Anything else. -/
  | plain
  deriving DecidableEq, Repr

/-- An item of a sequence. -/
structure Item where
  /-- What it is to a repetition. -/
  kind : ItemKind
  /-- What is known of it. -/
  part : Part

namespace Item

/-- An item that can be repeated. -/
def plain (part : Part) : Item := ⟨.plain, part⟩

/-- A place. -/
def place : Item := ⟨.place, .empty⟩

/-- A sequence of items, the last one first. -/
def sequence (items : List Item) : Part :=
  items.foldr (fun item part => part.add item.part) .empty

end Item

end Pattern

end FormGraph

import FormGraph.Text.Pattern.Escape

/-!
# Repetitions in a regular expression

The last item of a sequence may be repeated, unless it is a place or repeated already. How often is
given by a sign or by bounds in braces, which stay below the number that means without end.
-/

namespace FormGraph

namespace Pattern

/-- How often something is repeated: at least, and at most. -/
structure Bounds where
  /-- At least. -/
  least : Nat
  /-- At most. -/
  most : Nat := Width.endless

/-- Refuse a bound that cannot be counted to. -/
def checkBound (digits : List Char) : Scan Nat := do
  if Integer.maxDigits < digits.length then throw (.tooManyDigits digits.length)
  let n := digitsIn 10 digits
  if Width.endless ≤ n then throw .uncountable
  return n

/-- Read the bounds of a repetition in braces, after the opening brace. Without a closing brace, or
with nothing in between, the brace stands for itself. -/
def bounds? (start : Nat) : Scan (Option Bounds) := do
  if (← peek) = ['\x7d'] then return none
  let size := (← get).all.length
  let low ← takeWhile Char.isDigit size
  let comma ← accept ','
  let high ← if comma then takeWhile Char.isDigit size else pure low
  if !(← accept '\x7d') then
    modify fun s => { s with index := start }
    advance
    return none
  let least ← checkBound low
  if high.isEmpty then return some { least := least }
  let most ← checkBound high
  if most < least then
    complain "min repeat greater than max repeat" ((← tell) - start)
  return some { least := least, most := most }

/-- Read what may follow a repetition, and say which kind of repetition it is. -/
def repetitionKind : Scan String := do
  if ← accept '?' then return "MIN_REPEAT"
  else if ← accept '+' then return "POSSESSIVE_REPEAT"
  else return "MAX_REPEAT"

/-- Repeat the last item of a sequence. -/
def repeatLast (start : Nat) (b : Bounds) (items : List Item) : Scan (List Item) := do
  let refuse (message : String) : Scan (List Item) := do
    complain message ((← tell) - start + 1)
  match items with
  | [] => refuse "nothing to repeat"
  | last :: rest =>
    match last.kind with
    | .place => refuse "nothing to repeat"
    | .repeated => refuse "multiple repeat"
    | .plain =>
      let kind ← repetitionKind
      let late :=
        if (← get).template then some ("internal: unsupported template operator " ++ kind)
        else last.part.late
      return ⟨.repeated, ⟨last.part.width.times b.least b.most, late⟩⟩ :: rest

end Pattern

end FormGraph

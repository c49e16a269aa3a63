import FormGraph.Text.Character

/-!
# Whole numbers in paths

How a segment of a path is read as a whole number: blanks around it, a plus sign, zeros and
underscores in front of the first other digit, single underscores between digits, and a point with
nothing but zeros behind it are all let pass. What is left has to be a number as it is written
itself, with a minus sign at most.
-/

namespace FormGraph

namespace PathNumber

/-- Drop a plus sign, behind which no minus sign may stand. -/
def withoutPlus : List Char → Option (List Char)
  | '+' :: '-' :: _ => none
  | '+' :: cs => some cs
  | cs => some cs

/-- What is left behind zeros and underscores, of which `last` was the latest: the digits from the
first that is not zero, or, where there are none, the latest. -/
def behindZeros (last : Char) : List Char → Option (List Char)
  | [] => some [last]
  | c :: cs =>
    if c = '0' || c = '_' then behindZeros c cs
    else if c = '.' then some (last :: c :: cs)
    else if c.isDigit then some (c :: cs)
    else none

/-- Drop the zeros in front; a number begins with a digit or a minus sign. -/
def withoutZeros : List Char → Option (List Char)
  | [] => none
  | c :: cs =>
    if c = '0' then behindZeros c cs
    else if c.isDigit || c = '-' then some (c :: cs)
    else none

/-- Drop the first point, when there is something behind it and it is zeros. -/
def withoutPoint (cs : List Char) : List Char :=
  match cs.dropWhile (· ≠ '.') with
  | _ :: c :: rest => if (c :: rest).all (· = '0') then cs.takeWhile (· ≠ '.') else cs
  | _ => cs

/-- Whether every underscore stands alone and between two other characters; `first` says that
nothing stands before. -/
def spacedWell (first : Bool) : List Char → Bool
  | [] => true
  | '_' :: '_' :: _ => false
  | ['_'] => false
  | c :: cs => !(first && c = '_') && spacedWell false cs

/-- Drop the underscores, which have to stand alone. -/
def withoutUnderscores (cs : List Char) : Option (List Char) :=
  if spacedWell true cs then some (cs.filter (· ≠ '_')) else none

/-- The most characters that are read as one number. -/
def maxLength : Nat := 4300

/-- The value of digits without a zero in front. -/
def natural? : List Char → Option Nat
  | [] => none
  | ['0'] => some 0
  | '0' :: _ => none
  | cs =>
    if cs.all Char.isDigit then some (cs.foldl (fun n c => 10 * n + (c.toNat - 48)) 0) else none

/-- The value of a number as it is written itself. -/
def integer? (cs : List Char) : Option Int :=
  if maxLength < cs.length then none
  else
    match cs with
    | '-' :: cs => (natural? cs).map fun n => -(n : Int)
    | cs => (natural? cs).map fun n => (n : Int)

/-- The whole number that a segment of a path is read as. -/
def ofText? (s : String) : Option Int := do
  let cs ← withoutPlus (trimEnds Character.isNumberBlank s.toList)
  let cs ← withoutZeros cs
  integer? (← withoutUnderscores (withoutPoint cs))

end PathNumber

end FormGraph

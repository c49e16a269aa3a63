/-!
# What is wrong with a regular expression

A regular expression that is not well formed is complained about, with the place where it fails.
Some expressions are refused without such a complaint: a number in them cannot be counted with or
has too many digits, or they ask for the rules of two character sets at once.
-/

namespace FormGraph

/-- Why a regular expression is not well formed. -/
structure PatternComplaint where
  /-- What is wrong. -/
  message : String
  /-- Where, counted in characters; a complaint about the whole has no place. -/
  position : Option Nat
  deriving DecidableEq, Repr

namespace PatternComplaint

/-- A complaint with its place: line and column are given where the expression has several lines. -/
def text (c : PatternComplaint) (pattern : String) : String :=
  match c.position with
  | none => c.message
  | some pos =>
    let placed := c.message ++ " at position " ++ toString pos
    let all := pattern.toList
    if all.contains '\n' then
      let front := all.take pos
      let line := front.count '\n' + 1
      let column := (front.reverse.takeWhile (· != '\n')).length + 1
      placed ++ " (line " ++ toString line ++ ", column " ++ toString column ++ ")"
    else placed

end PatternComplaint

/-- Why a regular expression is refused. -/
inductive PatternProblem where
  /-- It is not well formed. -/
  | complaint (c : PatternComplaint)
  /-- A number of repetitions or of a character is beyond what is counted. -/
  | uncountable
  /-- A number of repetitions has more digits than are read. -/
  | tooManyDigits (count : Nat)
  /-- It asks for the rules of two character sets at once. -/
  | clashingFlags
  deriving DecidableEq, Repr

end FormGraph

import FormGraph.Text.Character

/-!
# Whole numbers in texts

How a setting or a group number is read as a whole number: blanks around it, one sign, digits of any
script, and single underscores between digits. A number of more than `Integer.maxDigits` digits is
refused as soon as its last digit is seen, whatever follows it.
-/

namespace FormGraph

/-- Why a text is not read as a whole number. -/
inductive IntegerProblem where
  /-- It is none. -/
  | malformed
  /-- It has more digits than are read. -/
  | tooManyDigits (count : Nat)
  deriving DecidableEq, Repr

namespace Integer

/-- The most digits that are read as one number. -/
def maxDigits : Nat := 4300

/-- How a number of too many digits is refused. -/
def tooManyDigitsText (count : Nat) : String :=
  "Exceeds the limit (" ++ toString maxDigits ++
    " digits) for integer string conversion: value has " ++ toString count ++
    " digits; use sys.set_int_max_str_digits() to increase the limit"

/-- The value of digits with single underscores between them, after at least one digit. -/
def digitsFrom (n : Nat) : List Char → Option Nat
  | [] => some n
  | '_' :: c :: cs => (Character.digit? c).bind fun d => digitsFrom (10 * n + d) cs
  | c :: cs => (Character.digit? c).bind fun d => digitsFrom (10 * n + d) cs

/-- The value of a list of digits with single underscores between them. -/
def digits? : List Char → Option Nat
  | [] => none
  | c :: cs => (Character.digit? c).bind fun d => digitsFrom d cs

/-- Whether a character can stand in the digits of a number. -/
def isDigitPart (c : Char) : Bool := c = '_' || (Character.digit? c).isSome

/-- Read the digits of a number, behind which only blanks may stand. -/
def natural (cs : List Char) : Except IntegerProblem Nat :=
  let part := cs.takeWhile isDigitPart
  match digits? part with
  | none => .error .malformed
  | some n =>
    let count := part.countP (· ≠ '_')
    if maxDigits < count then .error (.tooManyDigits count)
    else if (cs.drop part.length).all Character.isNumberBlank then .ok n
    else .error .malformed

/-- Read a text as a whole number. -/
def ofText (s : String) : Except IntegerProblem Int :=
  match s.toList.dropWhile Character.isNumberBlank with
  | '-' :: cs => (natural cs).map fun n => -(n : Int)
  | '+' :: cs => (natural cs).map fun n => (n : Int)
  | cs => (natural cs).map fun n => (n : Int)

end Integer

end FormGraph

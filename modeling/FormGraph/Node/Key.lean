import FormGraph.Fault

/-!
# Keys

The key of a node is its property name in the document. A key that the caller does not choose is
derived from the title: the runs of letters and digits of the lower-cased title, joined by
underscores. Where the key is taken, the least number from 2 on that makes it free is added.
-/

namespace FormGraph

namespace Key

/-- Whether a key can begin with the character. -/
def isStart (c : Char) : Bool := c.isAlpha || c = '_'

/-- Whether a key can go on with the character. -/
def isPart (c : Char) : Bool := c.isAlphanum || c = '_'

/-- Drop one line break at the end, if there is one. -/
def dropLineBreak (cs : List Char) : List Char :=
  if cs.getLast? = some '\n' then cs.dropLast else cs

/-- Whether the text is a key: a letter or underscore and then letters, digits and underscores. One
line break at the end is overlooked. -/
def isValid (key : String) : Bool :=
  match key.toList with
  | [] => false
  | c :: cs => isStart c && (dropLineBreak cs).all isPart

/-- Whether the character stands in a derived key. -/
def isWordChar (c : Char) : Bool := c.isLower || c.isDigit

/-- The runs of letters and digits, and the run at the front apart. -/
def wordsWithFirst : List Char → List Char × List (List Char)
  | [] => ([], [])
  | c :: cs =>
    let (first, more) := wordsWithFirst cs
    if isWordChar c then (c :: first, more)
    else ([], if first.isEmpty then more else first :: more)

/-- The runs of lower-case letters and digits, in order. -/
def words (cs : List Char) : List (List Char) :=
  let (first, more) := wordsWithFirst cs
  if first.isEmpty then more else first :: more

/-- The key of a title: its words joined by underscores, behind the fallback when they begin with a
digit; the fallback itself when there are none. -/
def derive (title : Option String) (fallback : String) : String :=
  let base := joined "_" ((words (lowerCase (title.getD "")).toList).map String.ofList)
  match base.toList with
  | [] => fallback
  | c :: _ => if c.isDigit then fallback ++ "_" ++ base else base

/-- The title that a key is derived from: what says nothing is none, and what is no text has no
words. -/
def readTitle : Value → Except Fault (Option String)
  | .str title => .ok (some title)
  | v => if v.holds then breakDown .otherSort else .ok none

/-- A key with a number added. -/
def numbered (base : String) (n : Nat) : String := base ++ "_" ++ toString n

/-- The key itself where it is free, and otherwise the key with the least number from 2 on that is
free. Among `taken.length + 1` numbers one is. -/
def unique (base : String) (taken : List String) : String :=
  if base ∈ taken then
    match (List.range (taken.length + 1)).find? fun i => numbered base (i + 2) ∉ taken with
    | some i => numbered base (i + 2)
    | none => numbered base (taken.length + 3)
  else base

/-- A free key derived from a title. -/
def generate (title : Option String) (taken : List String) (fallback : String) : String :=
  unique (derive title fallback) taken

end Key

end FormGraph

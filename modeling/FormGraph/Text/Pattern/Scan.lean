import FormGraph.Text.Pattern.Part
import FormGraph.Text.Pattern.Problem

/-!
# Reading a regular expression token by token

The checker reads an expression once, from the front, one token ahead: a token is one character, or
an escape of two. A complaint says how far before the next token the fault lies. Beside its place in
the expression the checker keeps which groups there are and which flags hold for the whole.
-/

namespace FormGraph

namespace Pattern

/-- Where the checker stands, and what it has met. -/
structure State where
  /-- The whole expression. -/
  all : List Char
  /-- How far the expression has been read, the next token included. -/
  index : Nat := 0
  /-- The next token: nothing at the end, and two characters for an escape. -/
  next : List Char := []
  /-- The widths of the groups, from the first on; a group that is still open has none. -/
  groups : List (Option Width) := []
  /-- The numbers of the named groups. -/
  names : List (String × Nat) := []
  /-- Within a part that looks behind: how many groups there were when it began. -/
  behind : Option Nat := none
  /-- The group numbers that conditions ask for, with the places where they do. -/
  asked : List (Nat × Nat) := []
  /-- The flags that hold for the whole expression. -/
  flags : List Char := []

namespace State

/-- Whether blanks and comments are skipped in the whole expression. -/
def verbose (s : State) : Bool := s.flags.contains 'x'

/-- Whether nothing can be repeated in the whole expression. -/
def template (s : State) : Bool := s.flags.contains 't'

/-- Whether the flags ask for the rules of two character sets. -/
def clashes (s : State) : Bool := s.flags.contains 'a' && s.flags.contains 'u'

/-- How wide a group is that has been closed. -/
def closedWidth? (s : State) (n : Nat) : Option Width := (s.groups[n - 1]?).join

end State

/-- A step of the checker. -/
abbrev Scan := StateT State (Except PatternProblem)

/-- The place before the next token. -/
def tell : Scan Nat := do
  let s ← get
  return s.index - s.next.length

/-- Complain about the place `back` characters before the next token. -/
def complain {α : Type} (message : String) (back : Nat) : Scan α := do
  let here ← tell
  throw (.complaint ⟨message, some (here - back)⟩)

/-- Read one more token. -/
def advance : Scan Unit := do
  let s ← get
  match s.all.drop s.index with
  | [] => set { s with next := [] }
  | '\\' :: [] =>
    throw (.complaint ⟨"bad escape (end of pattern)", some (s.all.length - 1)⟩)
  | '\\' :: c :: _ => set { s with next := ['\\', c], index := s.index + 2 }
  | c :: _ => set { s with next := [c], index := s.index + 1 }

/-- The next token. -/
def peek : Scan (List Char) := return (← get).next

/-- Take the next token. -/
def take : Scan (List Char) := do
  let token ← peek
  advance
  return token

/-- Take the next token if it is the given character. -/
def accept (c : Char) : Scan Bool := do
  if (← peek) = [c] then
    advance
    return true
  else return false

/-- Take up to `n` characters of a class. -/
def takeWhile (p : Char → Bool) : Nat → Scan (List Char)
  | 0 => return []
  | n + 1 => do
    match ← peek with
    | [c] =>
      if p c then
        advance
        return c :: (← takeWhile p n)
      else return []
    | _ => return []

/-- Take everything up to a terminator, which is taken too; something has to stand before it. -/
def takeUntil (terminator : Char) (what : String) : Nat → List Char → Scan (List Char)
  | 0, found => return found
  | n + 1, found => do
    match ← take with
    | [] =>
      if found.isEmpty then complain ("missing " ++ what) 0
      else
        complain ("missing " ++ String.singleton terminator ++ ", unterminated name") found.length
    | token =>
      if token = [terminator] then
        if found.isEmpty then complain ("missing " ++ what) 1 else return found
      else takeUntil terminator what n (found ++ token)

/-- Take a name up to its terminator. -/
def takeName (terminator : Char) (what : String) : Scan String := do
  let s ← get
  return String.ofList (← takeUntil terminator what (s.all.length + 1) [])

/-- Skip a comment up to the parenthesis that closes it. -/
def skipComment (start : Nat) : Nat → Scan Unit
  | 0 => return ()
  | n + 1 => do
    match ← take with
    | [] => complain "missing ), unterminated comment" ((← tell) - start)
    | token => if token = [')'] then return () else skipComment start n

/-- Skip the rest of a line. -/
def skipLine : Nat → Scan Unit
  | 0 => return ()
  | n + 1 => do
    match ← take with
    | [] => return ()
    | token => if token = ['\n'] then return () else skipLine n

/-- Whether a token is skipped where blanks are. -/
def isSkipped (token : List Char) : Bool :=
  match token with
  | [c] => c = ' ' || (9 ≤ c.toNat && c.toNat ≤ 13)
  | _ => false

/-- Take the parenthesis that closes what began at `start`. -/
def closing (start : Nat) : Scan Unit := do
  if !(← accept ')') then
    complain "missing ), unterminated subpattern" ((← tell) - start)

end Pattern

end FormGraph

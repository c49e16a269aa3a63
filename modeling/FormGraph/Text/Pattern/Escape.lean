import FormGraph.Text.CharacterName
import FormGraph.Text.Pattern.Group

/-!
# Escapes and sets of a regular expression

An escape stands for a character, which it may give by a number or by a name, for a class of
characters, for a place, or for a group. A set lists characters, ranges of them and classes; what
counts is the order of the ends of a range.
-/

namespace FormGraph

namespace Pattern

/-- Whether a digit is octal. -/
def isOctal (c : Char) : Bool := '0' ≤ c && c ≤ '7'

/-- Whether a digit is hexadecimal. -/
def isHex (c : Char) : Bool := c.isDigit || ('a' ≤ c && c ≤ 'f') || ('A' ≤ c && c ≤ 'F')

/-- The number of a list of digits in a base. -/
def digitsIn (base : Nat) (cs : List Char) : Nat :=
  cs.foldl
    (fun n c => base * n + (if c.isDigit then c.toNat - 48 else c.toLower.toNat - 87)) 0

/-! ## Characters -/

/-- Refuse an escape for a number that no character has. -/
def checkCode (whole : List Char) (code : Nat) : Scan Nat := do
  if code > 0x7FFFFFFF then throw .uncountable
  else if code > 0x10FFFF then complain ("bad escape " ++ String.ofList whole) whole.length
  else return code

/-- Read the digits of an escape that gives a character by its number. -/
def numberedEscape (escape : List Char) (digits : Nat) : Scan Nat := do
  let more ← takeWhile isHex digits
  let whole := escape ++ more
  if more.length < digits then
    complain ("incomplete escape " ++ String.ofList whole) whole.length
  else checkCode whole (digitsIn 16 more)

/-- Read a character given by its name. -/
def namedEscape : Scan Nat := do
  if !(← accept '\x7b') then complain "missing \x7b" 0
  let name ← takeName '\x7d' "character name"
  match CharacterName.find? name with
  | some code => return code
  | none => complain ("undefined character name " ++ quotedText name) (name.length + 4)

/-- The character of an escape with a letter of its own. -/
def letterEscape? (c : Char) : Option Nat :=
  match c with
  | 'a' => some 7
  | 'b' => some 8
  | 'f' => some 12
  | 'n' => some 10
  | 'r' => some 13
  | 't' => some 9
  | 'v' => some 11
  | '\\' => some 92
  | _ => none

/-- Read an escape that gives a character by a number or a name; nothing is read if it is another
escape. -/
def givenEscape? (c : Char) : Scan (Option Nat) := do
  let token := ['\\', c]
  match c with
  | 'x' => some <$> numberedEscape token 2
  | 'u' => some <$> numberedEscape token 4
  | 'U' => some <$> numberedEscape token 8
  | 'N' => some <$> namedEscape
  | _ => return none

/-- Refuse an octal number beyond one byte. -/
def checkOctal (escape : List Char) : Scan Nat := do
  let code := digitsIn 8 (escape.drop 1)
  if code > 255 then
    complain ("octal escape value " ++ String.ofList escape ++ " outside of range 0-0o377")
      escape.length
  else return code

/-- Whether an escape stands for a class of characters. -/
def isClassEscape (c : Char) : Bool := ['d', 'D', 's', 'S', 'w', 'W'].contains c

/-- Whether an escape stands for a place. -/
def isPlaceEscape (c : Char) : Bool := ['A', 'b', 'B', 'Z'].contains c

/-! ## Outside a set -/

/-- Read an escape that begins with a digit other than zero: an octal number of three digits, or the
number of a group. -/
def digitEscape (c : Char) : Scan Item := do
  match ← takeWhile Char.isDigit 1 with
  | [d] =>
    match isOctal c && isOctal d, ← peek with
    | true, [e] =>
      if isOctal e then
        advance
        let _ ← checkOctal ['\\', c, d, e]
        return .plain .one
      else numberedReference (digitsIn 10 [c, d]) 2
    | _, _ => numberedReference (digitsIn 10 [c, d]) 2
  | _ => numberedReference (digitsIn 10 [c]) 1

/-- Read an escape outside a set. -/
def escape (c : Char) : Scan Item := do
  if isPlaceEscape c then return .place
  else if isClassEscape c || (letterEscape? c).isSome then return .plain .one
  else
    match ← givenEscape? c with
    | some _ => return .plain .one
    | none =>
      if c = '0' then
        let _ ← takeWhile isOctal 2
        return .plain .one
      else if c.isDigit then digitEscape c
      else if c.isAlpha then complain ("bad escape " ++ String.ofList ['\\', c]) 2
      else return .plain .one

/-! ## Within a set -/

/-- Read an escape within a set: a character, or, with `none`, a class of them. -/
def setEscape (c : Char) : Scan (Option Nat) := do
  match letterEscape? c with
  | some code => return some code
  | none =>
    if isClassEscape c then return none
    else
      match ← givenEscape? c with
      | some code => return some code
      | none =>
        if isOctal c then some <$> checkOctal (['\\', c] ++ (← takeWhile isOctal 2))
        else if c.isDigit || c.isAlpha then
          complain ("bad escape " ++ String.ofList ['\\', c]) 2
        else return some c.toNat

/-- What a token stands for within a set: a character, or, with `none`, a class of them. -/
def setToken : List Char → Scan (Option Nat)
  | ['\\', c] => setEscape c
  | [c] => return some c.toNat
  | _ => return none

/-- Refuse a range whose ends are no characters in their order. -/
def checkRange (this that : List Char) (low high : Option Nat) : Scan Unit := do
  let inOrder : Bool :=
    match low, high with
    | some l, some h => l ≤ h
    | _, _ => false
  if !inOrder then
    complain ("bad character range " ++ String.ofList this ++ "-" ++ String.ofList that)
      (this.length + 1 + that.length)

/-- Read a set up to its closing bracket, which cannot be the first member. -/
def setMembers (start : Nat) : Nat → Bool → Scan Unit
  | 0, _ => return ()
  | n + 1, first => do
    let this ← take
    if this = [] then complain "unterminated character set" ((← tell) - start)
    else if this = [']'] && !first then return ()
    else
      let low ← setToken this
      if ← accept '-' then
        let that ← take
        if that = [] then complain "unterminated character set" ((← tell) - start)
        else if that = [']'] then return ()
        else
          checkRange this that low (← setToken that)
          setMembers start n false
      else setMembers start n false

/-- Read a set, after its opening bracket. -/
def characterSet : Scan Item := do
  let start := (← tell) - 1
  let _ ← accept '^'
  setMembers start ((← get).all.length + 1) true
  return .plain .one

end Pattern

end FormGraph

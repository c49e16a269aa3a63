import FormGraph.Text.Character
import FormGraph.Value.Basic

/-!
# Values in messages

How a message names a value. A text stands in quotes (`Value.quoted`) or as it is (`Value.plain`);
truth values and the absent value are written `True`, `False` and `None`; a list stands in square
brackets and an object in braces. The value of an attribute is a fixed sequence rather than a list,
and stands in parentheses (`Value.quotedSequence`).
-/

namespace FormGraph

/-- Show a character by its number when it is hidden, and the quote and the backslash behind a
backslash. -/
def quotedChar (quote c : Char) : List Char :=
  if c = quote ∨ c = '\\' then ['\\', c]
  else if c = '\t' then ['\\', 't']
  else if c = '\n' then ['\\', 'n']
  else if c = '\r' then ['\\', 'r']
  else if Character.isHidden c then
    if c.toNat < 0x100 then '\\' :: 'x' :: hexPadded 2 c.toNat
    else if c.toNat < 0x10000 then '\\' :: 'u' :: hexPadded 4 c.toNat
    else '\\' :: 'U' :: hexPadded 8 c.toNat
  else [c]

/-- A text in quotes: single ones, or double ones when only that avoids escaping a quote. -/
def quotedText (s : String) : String :=
  let cs := s.toList
  let quote := if cs.contains '\'' && !cs.contains '"' then '"' else '\''
  String.ofList (quote :: cs.flatMap (quotedChar quote) ++ [quote])

/-- Texts in quotes, as a list. -/
def quotedTexts (texts : List String) : String :=
  "[" ++ joined ", " (texts.map quotedText) ++ "]"

namespace Value

mutual

/-- A value as messages quote it. -/
def quoted : Value → String
  | .null => "None"
  | .bool b => if b then "True" else "False"
  | .int n => toString n
  | .float x => x.text
  | .str s => quotedText s
  | .list items => "[" ++ joined ", " (quotedItems items) ++ "]"
  | .obj members => "\x7b" ++ joined ", " (quotedMembers members) ++ "\x7d"

/-- The items of a list as messages quote them. -/
def quotedItems : List Value → List String
  | [] => []
  | v :: vs => quoted v :: quotedItems vs

/-- The members of an object as messages quote them. -/
def quotedMembers : List (String × Value) → List String
  | [] => []
  | (n, v) :: vs => (quotedText n ++ ": " ++ quoted v) :: quotedMembers vs

end

/-- A value as messages name it: a text without quotes, anything else as quoted. -/
def plain : Value → String
  | .str s => s
  | v => v.quoted

/-- The value of an attribute as messages quote it: a list is a fixed sequence. -/
def quotedSequence : Value → String
  | .list [] => "()"
  | .list [v] => "(" ++ v.quoted ++ ",)"
  | .list items => "(" ++ joined ", " (quotedItems items) ++ ")"
  | v => v.quoted

/-- The value of an attribute as messages name it: a text without quotes, a list as a fixed
sequence. -/
def plainSequence : Value → String
  | .str s => s
  | v => v.quotedSequence

/-- The name of the kind of value, as messages give it. -/
def kindName : Value → String
  | .null => "NoneType"
  | .bool _ => "bool"
  | .int _ => "int"
  | .float _ => "float"
  | .str _ => "str"
  | .list _ => "list"
  | .obj _ => "dict"

end Value

end FormGraph

import FormGraph.Text.Character
import FormGraph.Value.Basic

/-!
# Writing JSON

A `Layout` says what stands between the parts of a text; everything else about the form is fixed:
printable ASCII only, short escapes where JSON has them, and the code units of all other characters
in lower-case hexadecimal.

* `Value.json` writes on one line with blanks after the separators.
* `Value.canonicalJson` writes without blanks and with sorted members: two values that differ in the
  order of members only have the same canonical text.
* `Value.indentedJson` writes one member or item a line.
-/

namespace FormGraph

/-- The lower-case hexadecimal escape of a code unit. -/
def unitEscape (unit : Nat) : List Char := '\\' :: 'u' :: hexPadded 4 unit

/-- A character within a JSON text. -/
def jsonChar (c : Char) : List Char :=
  if c = '"' then ['\\', '"']
  else if c = '\\' then ['\\', '\\']
  else if c = '\n' then ['\\', 'n']
  else if c = '\r' then ['\\', 'r']
  else if c = '\t' then ['\\', 't']
  else if c.toNat = 0x08 then ['\\', 'b']
  else if c.toNat = 0x0C then ['\\', 'f']
  else if c.toNat < 0x20 then unitEscape c.toNat
  else if c.toNat < 0x7F then [c]
  else if c.toNat < 0x10000 then unitEscape c.toNat
  else
    let offset := c.toNat - 0x10000
    unitEscape (0xD800 + offset / 0x400) ++ unitEscape (0xDC00 + offset % 0x400)

/-- A text in JSON. -/
def jsonText (s : String) : String :=
  String.ofList ('"' :: s.toList.flatMap jsonChar ++ ['"'])

/-- A number with a point in JSON. -/
def jsonDouble (x : Double) : String :=
  if x.isFinite then x.text
  else if x.fractionField != 0 then "NaN"
  else if x.isNegative then "-Infinity" else "Infinity"

/-- What stands between the parts of a JSON text. -/
structure Layout where
  /-- Between two items or members on one line. -/
  comma : String := ", "
  /-- Between the name and the value of a member. -/
  colon : String := ": "
  /-- How far each level is indented; `none` keeps everything on one line. -/
  indent : Option Nat := none

namespace Layout

/-- What stands between a bracket and the first part at a level, and before the closing bracket. -/
def lineBreak (layout : Layout) (level : Nat) : String :=
  match layout.indent with
  | none => ""
  | some width => String.ofList ('\n' :: List.replicate (width * level) ' ')

/-- Put brackets around the parts of a list or an object at a level. -/
def bracket (layout : Layout) (level : Nat) (opening closing : String) (parts : List String) :
    String :=
  match parts with
  | [] => opening ++ closing
  | _ =>
    opening ++ layout.lineBreak (level + 1) ++
      joined (layout.comma ++ layout.lineBreak (level + 1)) parts ++
      layout.lineBreak level ++ closing

mutual

/-- A value at a level of nesting. -/
def write (layout : Layout) (level : Nat) : Value → String
  | .null => "null"
  | .bool b => if b then "true" else "false"
  | .int n => toString n
  | .float x => jsonDouble x
  | .str s => jsonText s
  | .list items => layout.bracket level "[" "]" (layout.writeItems (level + 1) items)
  | .obj members => layout.bracket level "\x7b" "\x7d" (layout.writeMembers (level + 1) members)

/-- The items of a list. -/
def writeItems (layout : Layout) (level : Nat) : List Value → List String
  | [] => []
  | v :: vs => layout.write level v :: layout.writeItems level vs

/-- The members of an object. -/
def writeMembers (layout : Layout) (level : Nat) : List (String × Value) → List String
  | [] => []
  | (n, v) :: vs => (jsonText n ++ layout.colon ++ layout.write level v) ::
      layout.writeMembers level vs

end

end Layout

namespace Value

/-- The value on one line, members in written order. -/
def json (v : Value) : String := ({} : Layout).write 0 v

/-- The value without blanks, members in written order. -/
def compactJson (v : Value) : String := ({ comma := ",", colon := ":" } : Layout).write 0 v

/-- The name of a member that is named by a value: a text as it is, and the JSON text of anything
else. -/
def memberName : Value → String
  | .str s => s
  | v => v.compactJson

/-- The value without blanks and with sorted members. -/
def canonicalJson (v : Value) : String := v.sorted.compactJson

/-- The value with one item or member a line, two blanks a level. -/
def indentedJson (v : Value) : String :=
  ({ comma := ",", colon := ": ", indent := some 2 } : Layout).write 0 v

end Value

end FormGraph

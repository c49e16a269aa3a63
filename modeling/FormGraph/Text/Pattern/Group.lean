import FormGraph.Text.Integer
import FormGraph.Text.Pattern.Scan
import FormGraph.Value.Display

/-!
# Groups of a regular expression

Groups are numbered by their opening parentheses, and may have a name. A part that looks behind can
only refer to groups that were closed before it began. A condition may ask for a group that is still
to come; whether there is one is looked at in the end.
-/

namespace FormGraph

namespace Pattern

/-- How a text that is no name of a group is refused. -/
def badNameText (name : String) : String :=
  "bad character in group name " ++ quotedText name

/-- Refuse a group name that is no name. -/
def checkName (name : String) (offset : Nat) : Scan Unit := do
  if isName name then return ()
  else complain (badNameText name) (name.length + offset)

/-- Refuse a group that a part looking behind cannot refer to. -/
def checkBehind (n : Nat) : Scan Unit := do
  let s ← get
  match s.behind with
  | none => return ()
  | some count =>
    if (s.closedWidth? n).isNone then complain "cannot refer to an open group" 0
    if n ≥ count then
      complain "cannot refer to group defined in the same lookbehind subpattern" 0

/-- Refer to a closed group; a group that is still open is refused `back` characters before the next
token. -/
def referTo (n back : Nat) : Scan Item := do
  match (← get).closedWidth? n with
  | none => complain "cannot refer to an open group" back
  | some w =>
    checkBehind n
    return .plain ⟨w, none⟩

/-- Refer to a group by its number, which was written with `digits` digits. -/
def numberedReference (n digits : Nat) : Scan Item := do
  if n ≤ (← get).groups.length then referTo n (digits + 1)
  else complain ("invalid group reference " ++ toString n) digits

/-- The number of the group that has just been referred to by its name. -/
def groupNamed (name : String) : Scan Nat := do
  match Entries.find? (← get).names name with
  | some n => return n
  | none => complain ("unknown group name " ++ quotedText name) (name.length + 1)

/-- Refer to a group by its name. -/
def namedReference : Scan Item := do
  let name ← takeName ')' "group name"
  checkName name 1
  referTo (← groupNamed name) (name.length + 1)

/-- Group numbers that a condition can ask for are smaller. -/
def groupLimit : Nat := 1073741823

/-- The group that a condition asks for. -/
def askedGroup (name : String) : Scan Nat := do
  if isName name then groupNamed name
  else
    let back := name.length + 1
    match Integer.ofText name with
    | .ok (.ofNat n) =>
      if n = 0 then complain "bad group number" back
      if n ≥ groupLimit then complain ("invalid group reference " ++ toString n) back
      let here ← tell
      modify fun s =>
        if (s.asked.map Prod.fst).contains n then s
        else { s with asked := s.asked ++ [(n, here - back)] }
      return n
    | _ => complain (badNameText name) back

/-- Open a group. -/
def openGroup (name : Option String) : Scan Nat := do
  let s ← get
  let number := s.groups.length + 1
  match name with
  | none =>
    set { s with groups := s.groups ++ [none] }
  | some name =>
    match Entries.find? s.names name with
    | some old =>
      complain ("redefinition of group name " ++ quotedText name ++ " as group " ++
        toString number ++ "; was group " ++ toString old) (name.length + 1)
    | none =>
      set { s with groups := s.groups ++ [none], names := s.names ++ [(name, number)] }
  return number

/-- Close a group. -/
def closeGroup (number : Nat) (w : Width) : Scan Unit :=
  modify fun s => { s with groups := s.groups.set (number - 1) (some w) }

end Pattern

end FormGraph

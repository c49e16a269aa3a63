import FormGraph.Text.Pattern.Flag
import FormGraph.Text.Pattern.Repetition

/-!
# Regular expressions

The attribute `pattern` of a text field is a regular expression. Nothing is matched here; what is
asked is whether the expression is well formed, and if not, what is wrong and where.

An expression is read once, from the front, see `Text.Pattern.Scan`. What is wrong with the form of
it is complained about first; then come the flags that exclude each other, a parenthesis too many,
conditions that ask for groups there are not, and last the late complaints of the parts.

The recursion over nested groups runs on a budget: every level and every item takes at least one
character off the expression, so a small multiple of its length is enough.
-/

namespace FormGraph

namespace Pattern

mutual

/-- Read alternatives. -/
def alternatives : Nat → Bool → Bool → Scan Part
  | 0, _, _ => return .empty
  | n + 1, verbose, nested => do
    let first ← sequence n verbose (!nested) []
    moreAlternatives n verbose nested first
termination_by structural n => n

/-- Read the alternatives after the first. -/
def moreAlternatives : Nat → Bool → Bool → Part → Scan Part
  | 0, _, _, part => return part
  | n + 1, verbose, nested, part => do
    if ← accept '|' then
      let global := (← get).verbose
      let verbose := if nested then verbose else global
      let other ← sequence n verbose false []
      moreAlternatives n verbose nested (part.either other)
    else return part
termination_by structural n => n

/-- Read items up to the end of a group or an alternative; the items read before are given, the last
one first. -/
def sequence : Nat → Bool → Bool → List Item → Scan Part
  | 0, _, _, items => return Item.sequence items
  | n + 1, verbose, first, items => do
    let this ← peek
    match this with
    | [] => return Item.sequence items
    | ['|'] => return Item.sequence items
    | [')'] => return Item.sequence items
    | _ =>
      advance
      if verbose && isSkipped this then sequence n verbose first items
      else if verbose && this = ['#'] then
        skipLine ((← get).all.length + 1)
        sequence n verbose first items
      else
        let start ← tell
        match this with
        | ['\\', c] => sequence n verbose first ((← escape c) :: items)
        | ['['] => sequence n verbose first ((← characterSet) :: items)
        | ['?'] => sequence n verbose first (← repeatLast start ⟨0, 1⟩ items)
        | ['*'] => sequence n verbose first (← repeatLast start { least := 0 } items)
        | ['+'] => sequence n verbose first (← repeatLast start { least := 1 } items)
        | ['\x7b'] =>
          match ← bounds? start with
          | none => sequence n verbose first (.plain .one :: items)
          | some b => sequence n verbose first (← repeatLast start b items)
        | ['('] => group n verbose first items (start - 1)
        | ['^'] => sequence n verbose first (.place :: items)
        | ['$'] => sequence n verbose first (.place :: items)
        | _ => sequence n verbose first (.plain .one :: items)
termination_by structural n => n

/-- Read a group, after its opening parenthesis at `start`, and go on with the sequence. -/
def group : Nat → Bool → Bool → List Item → Nat → Scan Part
  | 0, _, _, items, _ => return Item.sequence items
  | n + 1, verbose, first, items, start => do
    let proceed (part : Part) : Scan Part := sequence n verbose first (.plain part :: items)
    if !(← accept '?') then proceed (← capture n verbose none start)
    else
      match ← take with
      | [] => complain "unexpected end of pattern" 0
      | ['P'] =>
        if ← accept '<' then
          let name ← takeName '>' "group name"
          checkName name 1
          proceed (← capture n verbose (some name) start)
        else if ← accept '=' then
          sequence n verbose first ((← namedReference) :: items)
        else
          match ← take with
          | [] => complain "unexpected end of pattern" 0
          | token => complain ("unknown extension ?P" ++ String.ofList token) (token.length + 2)
      | [':'] => proceed (← enclosed n verbose start)
      | ['>'] => proceed (← enclosed n verbose start)
      | ['#'] =>
        skipComment start ((← get).all.length + 1)
        sequence n verbose first items
      | ['='] => proceed (← enclosed n verbose start).ahead
      | ['!'] => proceed (← enclosed n verbose start).ahead
      | ['<'] =>
        match ← take with
        | [] => complain "unexpected end of pattern" 0
        | token =>
          if token = ['='] || token = ['!'] then proceed (← lookBehind n verbose start)
          else complain ("unknown extension ?<" ++ String.ofList token) (token.length + 2)
      | ['('] => proceed (← conditional n verbose start)
      | token =>
        match token with
        | [c] =>
          if isFlag c || c = '-' then
            match ← flags c with
            | none =>
              if !first || !items.isEmpty then
                complain "global flags not at the start of the expression" ((← tell) - start)
              sequence n (← get).verbose first items
            | some (on, off) =>
              let verbose := (verbose || on.contains 'x') && !off.contains 'x'
              proceed (← enclosed n verbose start)
          else complain ("unknown extension ?" ++ String.ofList token) (token.length + 1)
        | _ => complain ("unknown extension ?" ++ String.ofList token) (token.length + 1)
termination_by structural n => n

/-- Read alternatives up to the parenthesis that closes the group they stand in. -/
def enclosed : Nat → Bool → Nat → Scan Part
  | 0, _, _ => return .empty
  | n + 1, verbose, start => do
    let part ← alternatives n verbose true
    closing start
    return part
termination_by structural n => n

/-- Read the contents of a group that is numbered. -/
def capture : Nat → Bool → Option String → Nat → Scan Part
  | 0, _, _, _ => return .empty
  | n + 1, verbose, name, start => do
    let number ← openGroup name
    let part ← enclosed n verbose start
    closeGroup number part.width
    return part
termination_by structural n => n

/-- Read a part that looks behind. -/
def lookBehind : Nat → Bool → Nat → Scan Part
  | 0, _, _ => return .empty
  | n + 1, verbose, start => do
    let s ← get
    if s.behind.isNone then set { s with behind := some (s.groups.length + 1) }
    let part ← alternatives n verbose true
    if s.behind.isNone then modify fun t => { t with behind := none }
    closing start
    return part.behind
termination_by structural n => n

/-- Read a part that depends on whether a group took part. -/
def conditional : Nat → Bool → Nat → Scan Part
  | 0, _, _ => return .empty
  | n + 1, verbose, start => do
    let name ← takeName ')' "group name"
    checkBehind (← askedGroup name)
    let whenTaken ← sequence n verbose false []
    let part ← if ← accept '|' then do
        let otherwise ← sequence n verbose false []
        if (← peek) = ['|'] then
          complain "conditional backref with more than two branches" 0
        pure (whenTaken.either otherwise)
      else pure whenTaken.optional
    closing start
    return part
termination_by structural n => n

end

/-- Refuse conditions that ask for groups there are not. -/
def checkAsked (s : State) : Except PatternProblem Unit :=
  match s.asked.find? fun a => s.groups.length < a.1 with
  | some (n, place) => .error (.complaint ⟨"invalid group reference " ++ toString n, some place⟩)
  | none => .ok ()

/-- Read a whole expression. -/
def whole (budget : Nat) : Scan Unit := do
  advance
  let part ← alternatives budget false false
  let s ← get
  if s.clashes then throw .clashingFlags
  if s.next ≠ [] then complain "unbalanced parenthesis" 0
  checkAsked s
  match part.late with
  | some message => throw (.complaint ⟨message, none⟩)
  | none => return ()

/-- Why a regular expression is refused, if it is. -/
def problem? (pattern : String) : Option PatternProblem :=
  let all := pattern.toList
  match (whole (5 * all.length + 8)).run { all := all } with
  | .ok _ => none
  | .error problem => some problem

end Pattern

end FormGraph

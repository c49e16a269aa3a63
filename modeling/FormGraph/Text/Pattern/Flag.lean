import FormGraph.Text.Character
import FormGraph.Text.Pattern.Scan

/-!
# Flags in a regular expression

Flags change how a group is read, or, at the very front, the whole expression. Those that name a
character set exclude each other, and are never switched off.
-/

namespace FormGraph

namespace Pattern

/-- The flags that can be set within an expression. -/
def isFlag (c : Char) : Bool := ['i', 'L', 'm', 's', 'x', 'a', 't', 'u'].contains c

/-- Whether a flag names a character set. -/
def isTypeFlag (c : Char) : Bool := c = 'a' || c = 'L' || c = 'u'

/-- Complain about a token that is no flag. -/
def notAFlag {α : Type} (token : List Char) (missing : String) : Scan α :=
  let isUnknown :=
    match token with
    | [c] => Character.isLetter c
    | _ => false
  complain (if isUnknown then "unknown flag" else missing) token.length

/-- Read the flags that are switched on, from the given one up to a `)`, `-` or `:`, which is
returned with them. -/
def flagsOn : Nat → Char → List Char → Scan (List Char × Char)
  | 0, c, on => return (on, c)
  | n + 1, c, on => do
    if c = 'L' then complain "bad inline flags: cannot use 'L' flag with a str pattern" 0
    let on := c :: on
    if isTypeFlag c && on.any fun d => isTypeFlag d && d ≠ c then
      complain "bad inline flags: flags 'a', 'u' and 'L' are incompatible" 0
    match ← take with
    | [] => complain "missing -, : or )" 0
    | [d] =>
      if d = ')' || d = '-' || d = ':' then return (on, d)
      else if isFlag d then flagsOn n d on
      else notAFlag [d] "missing -, : or )"
    | token => notAFlag token "missing -, : or )"

/-- Read the flags that are switched off, from the given one up to a `:`. -/
def flagsOff : Nat → Char → List Char → Scan (List Char)
  | 0, _, off => return off
  | n + 1, c, off => do
    if isTypeFlag c then complain "bad inline flags: cannot turn off flags 'a', 'u' and 'L'" 0
    match ← take with
    | [] => complain "missing :" 0
    | [d] =>
      if d = ':' then return c :: off
      else if isFlag d then flagsOff n d (c :: off)
      else notAFlag [d] "missing :"
    | token => notAFlag token "missing :"

/-- Read flags from the first one on: those that a group switches on and off, or, with `none`, those
that are switched on for the whole expression. -/
def flags (first : Char) : Scan (Option (List Char × List Char)) := do
  let size := (← get).all.length + 1
  let (on, closing) ← if first = '-' then pure ([], '-') else flagsOn size first []
  if closing = ')' then
    modify fun s => { s with flags := on ++ s.flags }
    return none
  if on.contains 't' then complain "bad inline flags: cannot turn on global flag" 1
  let off ← if closing ≠ '-' then pure [] else do
    match ← take with
    | [] => complain "missing flag" 0
    | [c] => if isFlag c then flagsOff size c [] else notAFlag [c] "missing flag"
    | token => notAFlag token "missing flag"
  if off.contains 't' then complain "bad inline flags: cannot turn off global flag" 1
  if on.any off.contains then complain "bad inline flags: flag turned on and off" 1
  return some (on, off)

end Pattern

end FormGraph

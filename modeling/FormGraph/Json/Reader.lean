import FormGraph.Text.Integer
import FormGraph.Value.Basic

/-!
# Reading JSON

A reader for JSON text that keeps the order of members and the difference between `1` and `1.0`, and
that says where and why a text is refused. The reader walks a list of characters; the place of a
refusal is given by how many characters were left, so no position has to be carried along.

The recursion over nested values runs on a budget; every call that does not consume a character is
followed by one that does, so twice the length of the text is enough.
-/

namespace FormGraph

/-- Why a text was refused. -/
inductive JsonComplaint where
  /-- No value begins here. -/
  | noValue
  /-- No name of a member begins here. -/
  | noName
  /-- No colon follows the name of a member. -/
  | noColon
  /-- No comma follows an item or a member. -/
  | noComma
  /-- A text does not end. -/
  | endlessText
  /-- There is no such escape. -/
  | badEscape
  /-- The digits of an escaped code unit are none. -/
  | badUnit
  /-- A control character stands in a text. -/
  | controlCharacter
  /-- Something follows the value. -/
  | moreAfter
  /-- The text begins with a byte order mark. -/
  | byteOrderMark
  /-- A whole number has more digits than are read. -/
  | tooManyDigits (count : Nat)
  deriving DecidableEq, Repr

/-- What a complaint says. -/
def JsonComplaint.text : JsonComplaint → String
  | .noValue => "Expecting value"
  | .noName => "Expecting property name enclosed in double quotes"
  | .noColon => "Expecting ':' delimiter"
  | .noComma => "Expecting ',' delimiter"
  | .endlessText => "Unterminated string starting at"
  | .badEscape => "Invalid \\escape"
  | .badUnit => "Invalid \\uXXXX escape"
  | .controlCharacter => "Invalid control character at"
  | .moreAfter => "Extra data"
  | .byteOrderMark => "Unexpected UTF-8 BOM (decode using utf-8-sig)"
  | .tooManyDigits count => Integer.tooManyDigitsText count

/-- Why and where a text was refused. -/
structure JsonRefusal where
  /-- What the reader complains about. -/
  complaint : JsonComplaint
  /-- How many characters were left. -/
  left : Nat
  deriving DecidableEq, Repr

namespace Json

/-- The result of a step of the reader. -/
abbrev Reading := Except JsonRefusal

/-- Refuse a text at the place where `rest` is left. -/
def refuse {α : Type} (complaint : JsonComplaint) (rest : List Char) : Reading (α × List Char) :=
  .error ⟨complaint, rest.length⟩

/-- Whether a character may stand between tokens. -/
def isSpace (c : Char) : Bool := c = ' ' || c = '\t' || c = '\n' || c = '\r'

/-- Skip what may stand between tokens. -/
def skip (cs : List Char) : List Char := cs.dropWhile isSpace

/-- The value of a hexadecimal digit. -/
def hex? (c : Char) : Option Nat :=
  if '0' ≤ c ∧ c ≤ '9' then some (c.toNat - 48)
  else if 'a' ≤ c ∧ c ≤ 'f' then some (c.toNat - 87)
  else if 'A' ≤ c ∧ c ≤ 'F' then some (c.toNat - 55)
  else none

/-- The code unit of four hexadecimal digits. -/
def unit? (cs : List Char) : Option Nat :=
  if cs.length = 4 then
    cs.foldlM (fun n c => (hex? c).map fun d => 16 * n + d) 0
  else none

/-- The character of a code unit; a half of a pair that stands alone has none and is replaced. -/
def unitChar (unit : Nat) : Char :=
  if 0xD800 ≤ unit ∧ unit < 0xE000 then Char.ofNat 0xFFFD else Char.ofNat unit

/-- The character that a short escape stands for. -/
def shortEscape? (c : Char) : Option Char :=
  if c = '"' ∨ c = '\\' ∨ c = '/' then some c
  else if c = 'b' then some (Char.ofNat 0x08)
  else if c = 'f' then some (Char.ofNat 0x0C)
  else if c = 'n' then some '\n'
  else if c = 'r' then some '\r'
  else if c = 't' then some '\t'
  else none

/-- Read the four digits after an escaped `u`, and the second half when they are the first half of a
pair. At least one more character has to follow the digits. -/
def unitEscape (cs : List Char) : Reading (Char × List Char) :=
  let rest := cs.drop 4
  if rest.isEmpty then refuse .badUnit ('u' :: cs)
  else
    match unit? (cs.take 4) with
    | none => refuse .badUnit ('u' :: cs)
    | some high =>
      match rest with
      | '\\' :: 'u' :: more =>
        if 0xD800 ≤ high ∧ high < 0xDC00 ∧ 4 < more.length then
          match unit? (more.take 4) with
          | none => refuse .badUnit ('u' :: more)
          | some low =>
            if 0xDC00 ≤ low ∧ low < 0xE000 then
              .ok (Char.ofNat (0x10000 + (high - 0xD800) * 0x400 + (low - 0xDC00)), more.drop 4)
            else .ok (unitChar high, rest)
        else .ok (unitChar high, rest)
      | _ => .ok (unitChar high, rest)

/-- Read the rest of a text, after the opening quote. `start` is what was left at that quote. -/
def textBody (start : List Char) : Nat → List Char → Reading (List Char × List Char)
  | 0, cs => refuse .endlessText cs
  | n + 1, cs =>
    match cs with
    | [] => refuse .endlessText start
    | '"' :: rest => .ok ([], rest)
    | '\\' :: [] => refuse .endlessText start
    | '\\' :: 'u' :: rest => do
      let (c, rest) ← unitEscape rest
      let (more, rest) ← textBody start n rest
      .ok (c :: more, rest)
    | '\\' :: e :: rest =>
      match shortEscape? e with
      | none => refuse .badEscape ('\\' :: e :: rest)
      | some c => do
        let (more, rest) ← textBody start n rest
        .ok (c :: more, rest)
    | c :: rest =>
      if c.toNat ≤ 0x1F then refuse .controlCharacter cs
      else do
        let (more, rest) ← textBody start n rest
        .ok (c :: more, rest)

/-- Read a text, after the opening quote. -/
def text (cs : List Char) : Reading (String × List Char) := do
  let (s, rest) ← textBody ('"' :: cs) (cs.length + 1) cs
  .ok (String.ofList s, rest)

/-- The number that a list of ASCII digits stands for. -/
def digitsValue (cs : List Char) : Nat := cs.foldl (fun n c => 10 * n + (c.toNat - 48)) 0

/-- The whole part of a number: a zero, or digits without a zero in front. -/
def wholePart : List Char → Option (List Char × List Char)
  | '0' :: rest => some (['0'], rest)
  | cs =>
    let digits := cs.takeWhile Char.isDigit
    if digits.isEmpty then none else some (digits, cs.dropWhile Char.isDigit)

/-- The places after the point, when a point with a digit after it follows. -/
def fractionPart : List Char → List Char × List Char
  | '.' :: rest =>
    let digits := rest.takeWhile Char.isDigit
    if digits.isEmpty then ([], '.' :: rest) else (digits, rest.dropWhile Char.isDigit)
  | cs => ([], cs)

/-- The exponent, when an exponent with a digit follows. -/
def exponentPart (cs : List Char) : Option Int × List Char :=
  match cs with
  | e :: rest =>
    if e = 'e' ∨ e = 'E' then
      let (negative, body) := match rest with
        | '-' :: more => (true, more)
        | '+' :: more => (false, more)
        | _ => (false, rest)
      let digits := body.takeWhile Char.isDigit
      if digits.isEmpty then (none, cs)
      else
        let size : Int := digitsValue digits
        (some (if negative then -size else size), body.dropWhile Char.isDigit)
    else (none, cs)
  | [] => (none, [])

/-- Read a number. `start` is what was left before its sign. -/
def number (start : List Char) (negative : Bool) (cs : List Char) : Reading (Value × List Char) :=
  match wholePart cs with
  | none => refuse .noValue start
  | some (whole, rest) =>
    let (fraction, rest) := fractionPart rest
    let (exponent, rest) := exponentPart rest
    if fraction.isEmpty && exponent.isNone then
      if whole.length > Integer.maxDigits then
        refuse (.tooManyDigits whole.length) start
      else
        let n : Int := digitsValue whole
        .ok (.int (if negative then -n else n), rest)
    else
      let mantissa := digitsValue (whole ++ fraction)
      .ok (.float (Double.ofDecimal negative mantissa
        (exponent.getD 0 - (fraction.length : Int))), rest)

/-- Drop a word from the front of a text. -/
def word? (word : String) (cs : List Char) : Option (List Char) :=
  if word.toList.isPrefixOf cs then some (cs.drop word.length) else none

/-- The double that is not a number. -/
def notANumber : Double := ⟨0x7FF8000000000000⟩

/-- Read one of the words that stand for a value, or a number. -/
def scalar (cs : List Char) : Reading (Value × List Char) :=
  match cs with
  | 'n' :: _ => match word? "null" cs with
    | some rest => .ok (.null, rest)
    | none => refuse .noValue cs
  | 't' :: _ => match word? "true" cs with
    | some rest => .ok (.bool true, rest)
    | none => refuse .noValue cs
  | 'f' :: _ => match word? "false" cs with
    | some rest => .ok (.bool false, rest)
    | none => refuse .noValue cs
  | 'N' :: _ => match word? "NaN" cs with
    | some rest => .ok (.float notANumber, rest)
    | none => refuse .noValue cs
  | 'I' :: _ => match word? "Infinity" cs with
    | some rest => .ok (.float (Double.infinity false), rest)
    | none => refuse .noValue cs
  | '-' :: more => match word? "Infinity" more with
    | some rest => .ok (.float (Double.infinity true), rest)
    | none => number cs true more
  | _ => number cs false cs

mutual

/-- Read a value that starts at the front of the text. -/
def value : Nat → List Char → Reading (Value × List Char)
  | 0, cs => refuse .noValue cs
  | n + 1, cs =>
    match cs with
    | '"' :: rest => do
      let (s, rest) ← text rest
      .ok (.str s, rest)
    | '\x7b' :: rest =>
      match skip rest with
      | '\x7d' :: rest => .ok (.obj [], rest)
      | rest => do
        let (members, rest) ← members n rest
        .ok (.obj (Entries.putAll [] members), rest)
    | '[' :: rest =>
      match skip rest with
      | ']' :: rest => .ok (.list [], rest)
      | rest => do
        let (items, rest) ← items n rest
        .ok (.list items, rest)
    | _ => scalar cs

/-- Read members up to the closing brace. -/
def members : Nat → List Char → Reading (List (String × Value) × List Char)
  | 0, cs => refuse .noValue cs
  | n + 1, cs =>
    match cs with
    | '"' :: rest => do
      let (name, rest) ← text rest
      match skip rest with
      | ':' :: rest => do
        let (v, rest) ← value n (skip rest)
        match skip rest with
        | '\x7d' :: rest => .ok ([(name, v)], rest)
        | ',' :: rest => do
          let (more, rest) ← members n (skip rest)
          .ok ((name, v) :: more, rest)
        | rest => refuse .noComma rest
      | rest => refuse .noColon rest
    | _ => refuse .noName cs

/-- Read items up to the closing bracket. -/
def items : Nat → List Char → Reading (List Value × List Char)
  | 0, cs => refuse .noValue cs
  | n + 1, cs => do
    let (v, rest) ← value n cs
    match skip rest with
    | ']' :: rest => .ok ([v], rest)
    | ',' :: rest => do
      let (more, rest) ← items n (skip rest)
      .ok (v :: more, rest)
    | rest => refuse .noComma rest

end

/-- Read a whole text as one value. -/
def parse (s : String) : Except JsonRefusal Value :=
  let cs := s.toList
  match cs with
  | '\ufeff' :: _ => .error ⟨.byteOrderMark, cs.length⟩
  | _ => do
    let (v, rest) ← value (2 * cs.length + 2) (skip cs)
    match skip rest with
    | [] => .ok v
    | rest => .error ⟨.moreAfter, rest.length⟩

end Json

namespace JsonRefusal

/-- The place of a refusal, counted in characters from the front of the text. -/
def position (r : JsonRefusal) (s : String) : Nat := s.length - r.left

/-- A refusal with its line and column; a number too long to read has no place. -/
def message (r : JsonRefusal) (s : String) : String :=
  match r.complaint with
  | .tooManyDigits _ => r.complaint.text
  | _ =>
    let pos := r.position s
    let front := s.toList.take pos
    let line := front.count '\n' + 1
    let column := (front.reverse.takeWhile (· != '\n')).length + 1
    r.complaint.text ++ ": line " ++ toString line ++ " column " ++ toString column ++
      " (char " ++ toString pos ++ ")"

end JsonRefusal

end FormGraph

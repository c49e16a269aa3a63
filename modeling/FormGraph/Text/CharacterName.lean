import FormGraph.Text.Character
import FormGraph.Text.CharacterNameTable
import Std.Data.HashMap

/-!
# Characters by name

How a character is found by its name. Most names stand in the table of `Text.CharacterNameTable`;
the others follow a rule. A family of numbered names counts its characters, or gives the number of
each; a Hangul syllable is spelled by the letters it is made of. Letters of a name may be small,
except where the name is that of a Hangul syllable or of a unified ideograph.
-/

namespace FormGraph

namespace CharacterName

/-! ## The table -/

/-- What one character of the table stands for. -/
def spelled (c : Char) : List Char :=
  if c.isLower then (fragments.getD (c.toNat - 97) "").toList else [c]

/-- The value of a hexadecimal digit with capital letters. -/
def hexDigit? (c : Char) : Option Nat :=
  if c.isDigit then some (c.toNat - 48)
  else if 'A' ≤ c && c ≤ 'F' then some (c.toNat - 55)
  else none

/-- The words of a name in the table, given those of the name before it. -/
def entryWords (before : List String) (entry : String) : List String :=
  match entry.toList with
  | [] => []
  | shared :: own =>
    before.take ((hexDigit? shared).getD 0) ++ (String.ofList (own.flatMap spelled)).splitOn " "

/-- The names that follow each other from a number on, with the numbers. -/
def namesFrom : Nat → List String → List String → List (String × Nat)
  | _, _, [] => []
  | code, before, entry :: entries =>
    let words := entryWords before entry
    (" ".intercalate words, code) :: namesFrom (code + 1) words entries

/-- The names of one run, with the numbers. -/
def namesOfRun (run : NameRun) : List (String × Nat) :=
  namesFrom run.1 [] (run.2.flatMap fun line => line.splitOn ",")

/-- Every name of the table, put together when the first one is looked for. -/
def index : Thunk (Std.HashMap String Nat) :=
  .mk fun _ => Std.HashMap.ofList (otherNames ++ runs.flatMap namesOfRun)

/-! ## Numbered names -/

/-- The value of a text of decimal digits that is written with at least `width` of them. -/
def paddedNumber? (width : Nat) (cs : List Char) : Option Nat :=
  let n := cs.foldl (fun n c => 10 * n + (c.toNat - 48)) 0
  let digits := Nat.toDigits 10 n
  if cs = List.replicate (width - digits.length) '0' ++ digits then some n else none

/-- Names that count their characters. -/
structure CountedFamily where
  /-- What stands in front of the number. -/
  front : String
  /-- How many digits the number has at least. -/
  width : Nat
  /-- The first number. -/
  first : Nat
  /-- The last number. -/
  last : Nat
  /-- The number of the first character. -/
  code : Nat

/-- The families that count their characters. -/
def countedFamilies : List CountedFamily :=
  [⟨"TANGUT COMPONENT-", 3, 1, 768, 0x18800⟩, ⟨"VARIATION SELECTOR-", 1, 1, 16, 0xFE00⟩,
    ⟨"VARIATION SELECTOR-", 1, 17, 256, 0xE0100⟩, ⟨"VS", 1, 1, 16, 0xFE00⟩,
    ⟨"VS", 1, 17, 256, 0xE0100⟩]

/-- What is left of a name behind a front. -/
def behind? (front : String) (name : List Char) : Option (List Char) :=
  if front.toList.isPrefixOf name then some (name.drop front.toList.length) else none

/-- The number of the character of that name in a family that counts. -/
def CountedFamily.find? (f : CountedFamily) (name : List Char) : Option Nat := do
  let n ← paddedNumber? f.width (← behind? f.front name)
  if f.first ≤ n && n ≤ f.last then some (f.code + (n - f.first)) else none

/-- The value of a text of hexadecimal digits with capital letters. -/
def hexNumber? (cs : List Char) : Option Nat :=
  cs.foldlM (fun n c => (hexDigit? c).map fun d => 16 * n + d) 0

/-- Names that give the number of each character: what stands in front of it, and the characters. -/
def codedFamilies : List (String × List (Nat × Nat)) :=
  [("CJK COMPATIBILITY IDEOGRAPH-", [(0xF900, 0xFA6D), (0xFA70, 0xFAD9), (0x2F800, 0x2FA1D)]),
    ("KHITAN SMALL SCRIPT CHARACTER-", [(0x18B00, 0x18CD5)]),
    ("NUSHU CHARACTER-", [(0x1B170, 0x1B2FB)])]

/-- Whether a number lies in one of the ranges. -/
def lies (ranges : List (Nat × Nat)) (n : Nat) : Bool := ranges.any fun r => r.1 ≤ n && n ≤ r.2

/-- The number of the character of that name in a family that gives the numbers, which are written
without zeros in front. -/
def findCoded (family : String × List (Nat × Nat)) (name : List Char) : Option Nat := do
  let digits ← behind? family.1 name
  let n ← hexNumber? digits
  if digits.head? ≠ some '0' && lies family.2 n then some n else none

/-! ## Ideographs and syllables -/

/-- The unified ideographs. -/
def ideographRanges : List (Nat × Nat) :=
  [(0x3400, 0x4DBF), (0x4E00, 0x9FFF), (0x20000, 0x2A6DF), (0x2A700, 0x2B738), (0x2B740, 0x2B81D),
    (0x2B820, 0x2CEA1), (0x2CEB0, 0x2EBE0), (0x30000, 0x3134A)]

/-- What stands in front of the number of a unified ideograph. -/
def ideographFront : String := "CJK UNIFIED IDEOGRAPH-"

/-- The unified ideograph whose number has the given four or five digits. -/
def ideograph? (digits : List Char) : Option Nat := do
  let n ← hexNumber? digits
  if (digits.length = 4 || digits.length = 5) && lies ideographRanges n then some n else none

/-- What stands in front of the letters of a Hangul syllable. -/
def syllableFront : String := "HANGUL SYLLABLE "

/-- The letters that a Hangul syllable begins with. -/
def leadingLetters : List String :=
  ["G", "GG", "N", "D", "DD", "R", "M", "B", "BB", "S", "SS", "", "J", "JJ", "C", "K", "T", "P",
    "H"]

/-- The vowels of a Hangul syllable. -/
def vowels : List String :=
  ["A", "AE", "YA", "YAE", "EO", "E", "YEO", "YE", "O", "WA", "WAE", "OE", "YO", "U", "WEO", "WE",
    "WI", "YU", "EU", "YI", "I"]

/-- The letters that a Hangul syllable ends with. -/
def trailingLetters : List String :=
  ["", "G", "GG", "GS", "N", "NJ", "NH", "D", "L", "LG", "LM", "LB", "LS", "LT", "LP", "LH", "M",
    "B", "BS", "S", "SS", "NG", "J", "C", "K", "T", "P", "H"]

/-- The longest of the given letters that a text begins with, by its position, and what is left. -/
def longestFront? (letters : List String) (cs : List Char) : Option (Nat × List Char) :=
  (letters.zipIdx.filterMap fun l => (behind? l.1 cs).map fun rest => (l.2, rest)).foldl
    (fun best found =>
      match best with
      | none => some found
      | some b => if found.2.length < b.2.length then some found else some b)
    none

/-- The Hangul syllable that is spelled by the given letters. -/
def syllable? (letters : List Char) : Option Nat := do
  let (leading, rest) ← longestFront? leadingLetters letters
  let (vowel, rest) ← longestFront? vowels rest
  let (trailing, rest) ← longestFront? trailingLetters rest
  if rest.isEmpty then
    some (0xAC00 + (leading * vowels.length + vowel) * trailingLetters.length + trailing)
  else none

/-! ## All names -/

/-- The number of the character of that name. -/
def find? (name : String) : Option Nat :=
  let cs := name.toList
  let capitals := cs.map Char.toUpper
  match behind? syllableFront cs, behind? ideographFront cs with
  | some letters, _ => syllable? letters
  | none, some digits => ideograph? digits
  | none, none =>
    (countedFamilies.findSome? fun f => f.find? capitals).or <|
      (codedFamilies.findSome? fun f => findCoded f capitals).or <|
        index.get[String.ofList capitals]?

end CharacterName

end FormGraph

import FormGraph.Text.CharacterTable

/-!
# Classes of characters

The classes of characters that the library's rules speak of: blanks (what is trimmed at the ends of
a text), hidden characters (what a message shows by its number), decimal digits of all scripts,
letters, what a name is made of, and lower-casing as far as it reaches the ASCII letters, which is
all that a key or a keyword depends on. The long tables are in `Text.CharacterTable`.
-/

namespace FormGraph

namespace Character

/-- The ranges of blank characters. -/
def blankRanges : List (Nat × Nat) :=
  [(0x09, 0x0D), (0x1C, 0x20), (0x85, 0x85), (0xA0, 0xA0), (0x1680, 0x1680), (0x2000, 0x200A),
    (0x2028, 0x2029), (0x202F, 0x202F), (0x205F, 0x205F), (0x3000, 0x3000)]

/-- The zeros of the decimal digits of all scripts; the other nine digits follow each of them. -/
def digitZeros : List Nat :=
  [0x30, 0x660, 0x6F0, 0x7C0, 0x966, 0x9E6, 0xA66, 0xAE6, 0xB66, 0xBE6, 0xC66, 0xCE6, 0xD66, 0xDE6,
    0xE50, 0xED0, 0xF20, 0x1040, 0x1090, 0x17E0, 0x1810, 0x1946, 0x19D0, 0x1A80, 0x1A90, 0x1B50,
    0x1BB0, 0x1C40, 0x1C50, 0xA620, 0xA8D0, 0xA900, 0xA9D0, 0xA9F0, 0xAA50, 0xABF0, 0xFF10,
    0x104A0, 0x10D30, 0x11066, 0x110F0, 0x11136, 0x111D0, 0x112F0, 0x11450, 0x114D0, 0x11650,
    0x116C0, 0x11730, 0x118E0, 0x11950, 0x11C50, 0x11D50, 0x11DA0, 0x16A60, 0x16AC0, 0x16B50,
    0x1D7CE, 0x1D7D8, 0x1D7E2, 0x1D7EC, 0x1D7F6, 0x1E140, 0x1E2F0, 0x1E950, 0x1FBF0]

/-- Whether a character lies in one of the ranges. The ranges ascend, so the first one that does not
end before the character decides. -/
def inRanges (ranges : List (Nat × Nat)) (c : Char) : Bool :=
  match ranges.find? fun r => c.toNat ≤ r.2 with
  | some r => r.1 ≤ c.toNat
  | none => false

/-- Whether the character is blank. -/
def isBlank (c : Char) : Bool := inRanges blankRanges c

/-- Whether the character is a blank that may stand around a number: the four separators of files,
groups, records and units are none. -/
def isNumberBlank (c : Char) : Bool := isBlank c && !inRanges [(0x1C, 0x1F)] c

/-- Whether the character is shown by its number in messages. -/
def isHidden (c : Char) : Bool := inRanges hiddenRanges c

/-- Whether the character is a letter. -/
def isLetter (c : Char) : Bool := inRanges letterRanges c

/-- Whether a name can begin with the character. -/
def isNameFront (c : Char) : Bool :=
  (isLetter c && !inRanges nonFrontRanges c) || inRanges nameFrontRanges c

/-- Whether the character can stand in a name behind the first. -/
def isNameTail (c : Char) : Bool := isNameFront c || inRanges nameTailRanges c

/-- The value of a decimal digit of any script. -/
def digit? (c : Char) : Option Nat :=
  (digitZeros.find? fun z => z ≤ c.toNat && c.toNat < z + 10).map (c.toNat - ·)

/-- Lower case, where it is or contains an ASCII letter; the two letters outside ASCII with such a
lower case are the Kelvin sign and the dotted capital I. Other characters stay as they are. -/
def lower (c : Char) : List Char :=
  if c.toNat = 0x212A then ['k']
  else if c.toNat = 0x130 then ['i', Char.ofNat 0x307]
  else [c.toLower]

end Character

/-- Lower-case a text, see `Character.lower`. -/
def lowerCase (s : String) : String := String.ofList (s.toList.flatMap Character.lower)

/-- Drop the characters of a class from both ends of a text. -/
def trimEnds (p : Char → Bool) (cs : List Char) : List Char :=
  ((cs.dropWhile p).reverse.dropWhile p).reverse

/-- Drop the blanks from both ends of a text. -/
def trimBlanks (s : String) : String := String.ofList (trimEnds Character.isBlank s.toList)

/-- Whether `part` occurs in `s`. -/
def occursIn (part s : String) : Bool :=
  let rec go (p : List Char) : List Char → Bool
    | [] => p.isEmpty
    | c :: cs => p.isPrefixOf (c :: cs) || go p cs
  go part.toList s.toList

/-- Whether a text is a name: a character that names begin with, and others behind it. -/
def isName (s : String) : Bool :=
  match s.toList with
  | [] => false
  | c :: cs => Character.isNameFront c && cs.all Character.isNameTail

/-- Put a separator between texts. -/
def joined (separator : String) (parts : List String) : String := separator.intercalate parts

/-- Write a number with at least `width` lower-case hexadecimal digits. -/
def hexPadded (width n : Nat) : List Char :=
  let digits := Nat.toDigits 16 n
  List.replicate (width - digits.length) '0' ++ digits

end FormGraph

import FormGraph.Fault

/-!
# Attributes

What a node of each kind says beyond its title: the bounds of a number, the values of an
enumeration. An attribute has a name, under which requests speak of it, and a keyword, under which
documents do; `null` means that it is not set. Values are kept as they were given, whatever their
type: `Check.Attributes` says which are well typed.

An `AttributeSet` lists the attributes of one record with the way to read and write each, so that
reading a document, writing one and merging a change are stated once for all records.
-/

namespace FormGraph

/-- One attribute of a record. -/
structure Attribute (σ : Type) where
  /-- The name in requests. -/
  name : String
  /-- The keyword in documents. -/
  keyword : String
  /-- The value in a record. -/
  get : σ → Value
  /-- The record with another value. -/
  set : σ → Value → σ

/-- The attributes of a record. -/
structure AttributeSet (σ : Type) where
  /-- The name of the set in messages. -/
  name : String
  /-- The attributes, in the order a record is shown. -/
  fields : List (Attribute σ)
  /-- The attributes, in the order a document is written. -/
  written : List (Attribute σ) := fields
  /-- The record of a new node. -/
  initial : σ
  /-- The record that a document without any of the keywords stands for. -/
  unread : σ := initial

namespace AttributeSet

variable {σ : Type}

/-- The attributes that are set, by name. -/
def rows (s : AttributeSet σ) (a : σ) : Members :=
  (s.fields.map fun f => (f.name, f.get a)).filter fun r => !r.2.isNull

/-- The attributes that are set, by keyword. -/
def keywords (s : AttributeSet σ) (a : σ) : Members :=
  (s.written.map fun f => (f.keyword, f.get a)).filter fun r => !r.2.isNull

/-- The keywords that the set reads. -/
def vocabulary (s : AttributeSet σ) : List String := s.written.map (·.keyword)

/-- The record that a document fragment stands for. -/
def ofFragment (s : AttributeSet σ) (fragment : Members) : σ :=
  s.written.foldl
    (fun a f => match Entries.find? fragment f.keyword with
      | some v => f.set a v
      | none => a)
    s.unread

/-- The names in `changes` that are none of the set's, sorted. -/
def unknownNames (s : AttributeSet σ) (changes : Members) : List String :=
  ((Entries.names changes).filter fun n => !(s.fields.map (·.name)).contains n).mergeSort
    fun a b => a ≤ b

/-- Change attributes; an unknown name is refused. -/
def merge (s : AttributeSet σ) (a : σ) (changes : Members) : Except Fault σ :=
  match s.unknownNames changes with
  | [] =>
    .ok (s.fields.foldl
      (fun a f => match Entries.find? changes f.name with
        | some v => f.set a v
        | none => a)
      a)
  | unknown => refuse (.unknownAttributes s.name (unknown.map .str))

end AttributeSet

/-- What a text field says about its text. -/
structure StringAttributes where
  /-- The least length. -/
  minLength : Value := .null
  /-- The greatest length. -/
  maxLength : Value := .null
  /-- A regular expression that the text matches. -/
  pattern : Value := .null
  /-- The name of a format. -/
  format : Value := .null
  deriving DecidableEq, Inhabited

/-- The attributes of a text field. -/
def StringAttributes.set : AttributeSet StringAttributes where
  name := "StringAttrs"
  fields :=
    [⟨"min_length", "minLength", (·.minLength), fun a v => { a with minLength := v }⟩,
      ⟨"max_length", "maxLength", (·.maxLength), fun a v => { a with maxLength := v }⟩,
      ⟨"pattern", "pattern", (·.pattern), fun a v => { a with pattern := v }⟩,
      ⟨"format", "format", (·.format), fun a v => { a with format := v }⟩]
  initial := {}

/-- What a number field says about its number. -/
structure NumberAttributes where
  /-- The least number. -/
  minimum : Value := .null
  /-- The greatest number. -/
  maximum : Value := .null
  /-- What the number is a multiple of. -/
  multipleOf : Value := .null
  /-- A number below all. -/
  exclusiveMinimum : Value := .null
  /-- A number above all. -/
  exclusiveMaximum : Value := .null
  deriving DecidableEq, Inhabited

/-- The attributes of a number field. -/
def NumberAttributes.set : AttributeSet NumberAttributes where
  name := "NumberAttrs"
  fields :=
    [⟨"minimum", "minimum", (·.minimum), fun a v => { a with minimum := v }⟩,
      ⟨"maximum", "maximum", (·.maximum), fun a v => { a with maximum := v }⟩,
      ⟨"multiple_of", "multipleOf", (·.multipleOf), fun a v => { a with multipleOf := v }⟩,
      ⟨"exclusive_minimum", "exclusiveMinimum", (·.exclusiveMinimum),
        fun a v => { a with exclusiveMinimum := v }⟩,
      ⟨"exclusive_maximum", "exclusiveMaximum", (·.exclusiveMaximum),
        fun a v => { a with exclusiveMaximum := v }⟩]
  initial := {}

/-- What an enumeration offers. -/
structure EnumAttributes where
  /-- The values, in display order. -/
  values : Value := .list []
  /-- The names to display, one for each value. -/
  names : Value := .null
  /-- The declared type of the values. -/
  valueType : Value := .null
  deriving DecidableEq, Inhabited

/-- The attributes of an enumeration. A document writes the type first; without one it has none,
while a new enumeration is one of texts. -/
def EnumAttributes.set : AttributeSet EnumAttributes where
  name := "EnumAttrs"
  fields :=
    [⟨"values", "enum", (·.values), fun a v => { a with values := v }⟩,
      ⟨"names", "enumNames", (·.names), fun a v => { a with names := v }⟩,
      ⟨"value_type", "type", (·.valueType), fun a v => { a with valueType := v }⟩]
  written :=
    [⟨"value_type", "type", (·.valueType), fun a v => { a with valueType := v }⟩,
      ⟨"values", "enum", (·.values), fun a v => { a with values := v }⟩,
      ⟨"names", "enumNames", (·.names), fun a v => { a with names := v }⟩]
  initial := { valueType := .str "string" }
  unread := {}

/-- What an object says about its properties as a whole. -/
structure ObjectAttributes where
  /-- The least number of properties. -/
  minProperties : Value := .null
  /-- The greatest number of properties. -/
  maxProperties : Value := .null
  /-- What holds of properties that are not listed. -/
  additionalProperties : Value := .null
  deriving DecidableEq, Inhabited

/-- The attributes of an object. -/
def ObjectAttributes.set : AttributeSet ObjectAttributes where
  name := "ObjectAttrs"
  fields :=
    [⟨"min_properties", "minProperties", (·.minProperties),
        fun a v => { a with minProperties := v }⟩,
      ⟨"max_properties", "maxProperties", (·.maxProperties),
        fun a v => { a with maxProperties := v }⟩,
      ⟨"additional_properties", "additionalProperties", (·.additionalProperties),
        fun a v => { a with additionalProperties := v }⟩]
  initial := {}

/-- What an array says about its items as a whole. -/
structure ArrayAttributes where
  /-- The least number of items. -/
  minItems : Value := .null
  /-- The greatest number of items. -/
  maxItems : Value := .null
  /-- Whether no item occurs twice. -/
  uniqueItems : Value := .null
  /-- What holds of items that are not listed. -/
  additionalItems : Value := .null
  deriving DecidableEq, Inhabited

/-- The attributes of an array. -/
def ArrayAttributes.set : AttributeSet ArrayAttributes where
  name := "ArrayAttrs"
  fields :=
    [⟨"min_items", "minItems", (·.minItems), fun a v => { a with minItems := v }⟩,
      ⟨"max_items", "maxItems", (·.maxItems), fun a v => { a with maxItems := v }⟩,
      ⟨"unique_items", "uniqueItems", (·.uniqueItems), fun a v => { a with uniqueItems := v }⟩,
      ⟨"additional_items", "additionalItems", (·.additionalItems),
        fun a v => { a with additionalItems := v }⟩]
  initial := {}

end FormGraph

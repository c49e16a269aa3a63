import FormGraph.Service.PathNumber
import FormGraph.Value.Basic

/-!
# Reading what a request carries

The parts of a request are read independently of each other, so that everything that cannot be read
is reported at once: `Form α` is either a value or the places where it could not be read, and
putting two forms together keeps the places of both. A place is a dotted path such as
`body.parent_id`.
-/

namespace FormGraph

/-- Something read from a request, or the places where it could not be read. -/
inductive Form (α : Type) where
  /-- It was read. -/
  | filled (a : α)
  /-- It could not be read at these places. -/
  | invalid (places : List String)
  deriving DecidableEq, Repr

namespace Form

variable {α β : Type}

/-- The places where a form could not be read. -/
def places : Form α → List String
  | .filled _ => []
  | .invalid places => places

/-- Put two forms together. -/
def combine (f : Form (α → β)) (x : Form α) : Form β :=
  match f, x with
  | .filled f, .filled a => .filled (f a)
  | .filled _, .invalid qs => .invalid qs
  | .invalid ps, x => .invalid (ps ++ x.places)

instance : Applicative Form where
  pure := .filled
  seq f x := combine f (x ())

/-- Read the parts of something that was read itself. -/
def andThen (x : Form α) (parts : α → Form β) : Form β :=
  match x with
  | .filled a => parts a
  | .invalid places => .invalid places

@[simp] theorem places_pure (a : α) : (pure a : Form α).places = [] := rfl

theorem places_seq (f : Form (α → β)) (x : Form α) : (f <*> x).places = f.places ++ x.places := by
  cases f <;> cases x <;> rfl

end Form

/-- How the value of a field is read. -/
abbrev FieldReader (α : Type) := Value → Option α

namespace FieldReader

variable {α : Type}

/-- Any value. -/
def any : FieldReader Value := some

/-- A text. -/
def text : FieldReader String := Value.str?

/-- A truth value. -/
def truth : FieldReader Bool
  | .bool b => some b
  | _ => none

/-- A whole number. -/
def integer : FieldReader Int
  | .int n => some n
  | _ => none

/-- An object. -/
def members : FieldReader Members := Value.obj?

/-- Something or `null`. -/
def nullable (read : FieldReader α) : FieldReader (Option α)
  | .null => some none
  | v => (read v).map some

end FieldReader

namespace Form

variable {α : Type}

/-- The field of the first of the names that is there. -/
def lookup (ms : Members) (names : List String) : Option (String × Value) :=
  names.findSome? fun name => (Entries.find? ms name).map fun v => (name, v)

/-- Read a value at a place. -/
def readAt (place : String) (read : FieldReader α) (v : Value) : Form α :=
  match read v with
  | some a => .filled a
  | none => .invalid [place]

/-- A field that has to be there, under its name or another one. -/
def required (place : String) (ms : Members) (name : String) (read : FieldReader α)
    (others : List String := []) : Form α :=
  match lookup ms (name :: others) with
  | some (found, v) => readAt (place ++ "." ++ found) read v
  | none => .invalid [place ++ "." ++ name]

/-- A field that need not be there. -/
def optional (place : String) (ms : Members) (name : String) (read : FieldReader α)
    (others : List String := []) : Form (Option α) :=
  match lookup ms (name :: others) with
  | some (found, v) => some <$> readAt (place ++ "." ++ found) read v
  | none => .filled none

/-- A field that has a default. -/
def withDefault (place : String) (ms : Members) (name : String) (read : FieldReader α)
    (default : α) : Form α :=
  (·.getD default) <$> optional place ms name read

/-- A field that is `null` when it is not there. -/
def nullable (place : String) (ms : Members) (name : String) (read : FieldReader α)
    (others : List String := []) : Form (Option α) :=
  (·.join) <$> optional place ms name read.nullable others

/-- A whole number in a path. -/
def pathInteger (name text : String) : Form Int :=
  match PathNumber.ofText? text with
  | some n => .filled n
  | none => .invalid ["path." ++ name]

/-- The words for truth values in a query. -/
def truthWords : List (String × Bool) :=
  [("true", true), ("1", true), ("on", true), ("t", true), ("y", true), ("yes", true),
    ("false", false), ("0", false), ("off", false), ("f", false), ("n", false), ("no", false)]

/-- A truth value in a query; without one it is false. -/
def queryTruth (query : List (String × String)) (name : String) : Form Bool :=
  match Entries.find? query name with
  | none => .filled false
  | some text =>
    match Entries.find? truthWords (lowerCase text) with
    | some b => .filled b
    | none => .invalid ["query." ++ name]

end Form

end FormGraph

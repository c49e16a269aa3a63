import FormGraph.Fault

/-!
# Command lines

What the command is asked to do, read from its arguments: options of the whole command, then a
subcommand, then the file with the options of the subcommand in any order. A long option may be
shortened as long as no other option begins the same way, and its value may follow behind an equals
sign. `Invocation.role` says which arguments are options at all. Arguments that cannot be read give
`none`.
-/

namespace FormGraph

/-- What is to be done with a document. -/
inductive Task where
  /-- Screen it. -/
  | validate
  /-- Count what is in it. -/
  | summary
  /-- Read it and write it again, as a whole bundle if asked for, to a file if one is named. -/
  | compile (bundle : Bool) (output : Option String)
  /-- Write the UI document. -/
  | uiSchema
  /-- Check that it comes back unchanged. -/
  | check
  deriving DecidableEq, Repr

/-- A command line that was understood. -/
structure Invocation where
  /-- What is to be done. -/
  task : Task
  /-- The file that holds the document. -/
  file : String
  /-- How a list of item schemas is read, where the command line says so. -/
  tupleItems : Option TupleItems := none
  deriving DecidableEq, Repr

namespace Invocation

/-- How an argument is taken. -/
inductive Role where
  /-- As a file, or as the value of an option. -/
  | plain
  /-- As an option, with the value that the same argument holds. -/
  | option (name : String) (value : Option String)
  /-- Not at all: it begins as an option does, and stands for none or for several. -/
  | refused
  deriving DecidableEq, Repr

/-- An argument in front of its first equals sign, and what follows the sign. -/
def splitAtEquals (argument : String) : String × Option String :=
  let name := argument.toList.takeWhile (· ≠ '=')
  match argument.toList.dropWhile (· ≠ '=') with
  | [] => (argument, none)
  | _ :: value => (String.ofList name, some (String.ofList value))

/-- The options that an argument can stand for. A long one may be shortened; a short one may have
its value right behind it. -/
def candidates (options : List String) (argument : String) : List (String × Option String) :=
  if argument.startsWith "--" then
    let (name, value) := splitAtEquals argument
    (options.filter fun option => name.toList.isPrefixOf option.toList).map fun o => (o, value)
  else
    (options.filter fun option => option.toList = argument.toList.take 2).map fun o =>
      (o, some (String.ofList (argument.toList.drop 2)))

/-- Whether characters are decimal digits, and at least one. -/
def isDigits (cs : List Char) : Bool :=
  !cs.isEmpty && cs.all fun c => (Character.digit? c).isSome

/-- Whether an argument is a number behind a minus: digits, or a point with digits behind it and
perhaps in front of it. One line break at the end is overlooked. -/
def isNegativeNumber (argument : String) : Bool :=
  match argument.toList with
  | '-' :: cs =>
    let cs := if cs.getLast? = some '\n' then cs.dropLast else cs
    match cs.dropWhile fun c => (Character.digit? c).isSome with
    | [] => isDigits cs
    | c :: fraction => c = '.' && isDigits fraction
  | _ => false

/-- How an argument is taken where there are options. What begins with a minus is an option, unless
it stands for none and is a negative number or holds a space. -/
def role (options : List String) (argument : String) : Role :=
  if !argument.startsWith "-" || argument = "-" then .plain
  else if argument ∈ options then .option argument none
  else
    let (name, value) := splitAtEquals argument
    if value.isSome && options.contains name then .option name value
    else
      match candidates options argument with
      | [(name, value)] => .option name value
      | [] => if isNegativeNumber argument || argument.contains ' ' then .plain else .refused
      | _ => .refused

/-- What the arguments behind a subcommand say. -/
structure Rest where
  /-- The file, once it was met. -/
  file : Option String := none
  /-- Whether the whole bundle is asked for. -/
  bundle : Bool := false
  /-- The file to write to. -/
  output : Option String := none

/-- Take an argument as the file. -/
def takeFile (rest : Rest) (argument : String) : Option Rest :=
  if rest.file.isSome then none else some { rest with file := some argument }

/-- Whether an option names the file to write to. -/
def namesOutput (option : String) : Bool := option = "--output" || option = "-o"

/-- Read the arguments behind a subcommand that takes the given options. Two minuses end the
options: what follows them is taken as it is. They stand in front of the file or right behind it. -/
def readRest (options : List String) : Rest → List String → Option Rest
  | rest, [] => some rest
  | rest, "--" :: more => if rest.file.isSome then none else more.foldlM takeFile rest
  | rest, argument :: more =>
    match role options argument, more with
    | .plain, more => do
      let rest ← takeFile rest argument
      if more = ["--"] then return rest else readRest options rest more
    | .option "--bundle" none, more => readRest options { rest with bundle := true } more
    | .option name (some value), more =>
      if namesOutput name then readRest options { rest with output := some value } more else none
    | .option name none, value :: more =>
      if namesOutput name && role options value = .plain then
        readRest options { rest with output := some value } more
      else none
    | _, _ => none

/-- The options that are there everywhere. They ask for help instead of a task, so a command line
with one of them is none. -/
def helpOptions : List String := ["-h", "--help"]

/-- The options of a subcommand; `none` when there is no such subcommand. -/
def optionsOf? (subcommand : String) : Option (List String) :=
  match subcommand with
  | "compile" => some (helpOptions ++ ["--bundle", "--output", "-o"])
  | "validate" | "summary" | "ui-schema" | "check" => some helpOptions
  | _ => none

/-- The task of a subcommand. -/
def taskOf (subcommand : String) (rest : Rest) : Task :=
  match subcommand with
  | "validate" => .validate
  | "summary" => .summary
  | "compile" => .compile rest.bundle (rest.output.filter (· ≠ ""))
  | "ui-schema" => .uiSchema
  | _ => .check

/-- Read a subcommand and what follows it. -/
def readTask (subcommand : String) (arguments : List String) : Option (Task × String) := do
  let options ← optionsOf? subcommand
  let rest ← readRest options {} arguments
  let file ← rest.file
  return (taskOf subcommand rest, file)

/-- The options of the whole command. -/
def commonOptions : List String := helpOptions ++ ["--format", "--tuple-items"]

/-- The value of an option of the whole command is one of its choices. -/
def takeCommon (tupleItems : Option TupleItems) (option value : String) :
    Option (Option TupleItems) :=
  match option with
  | "--format" => if value = "json" then some tupleItems else none
  | "--tuple-items" => (TupleItems.vocabulary.all.find? fun t => t.name = value).map some
  | _ => none

/-- Read a command line. -/
def read (tupleItems : Option TupleItems) : List String → Option Invocation
  | [] => none
  | argument :: more =>
    match role commonOptions argument, more with
    | .plain, more => (readTask argument more).map fun (task, file) => ⟨task, file, tupleItems⟩
    | .option name (some value), more => do
      read (← takeCommon tupleItems name value) more
    | .option name none, value :: more => do
      read (← takeCommon tupleItems name value) more
    | .refused, _ | .option _ none, [] => none

/-- Read the arguments of a command line. -/
def ofArguments? (arguments : List String) : Option Invocation := read none arguments

end Invocation

end FormGraph

import FormGraph.Command.Run

/-!
# The command

The outer layer of the command: it reads the arguments, the environment and the file, has the
library say what comes of it, and prints and writes that.
-/

open FormGraph

/-- What is printed when the arguments cannot be read. -/
def usageText : String :=
  "usage: formgraph [--format json] [--tuple-items reject|first]\n" ++
  "       (validate | summary | compile [--bundle] [--output FILE] | ui-schema | check) FILE\n"

/-- The variables of the environment that a command looks at. -/
def watchedVariables : List String :=
  ["SCHEMAGRAPH_STRICT_MATCH_ELSE", "SCHEMAGRAPH_EMIT_UNREFERENCED", "SCHEMAGRAPH_TUPLE_ITEMS"]

/-- The environment, as far as a command looks at it. -/
def readEnvironment : IO Settings.Environment := do
  let found ← watchedVariables.mapM fun name => do
    let value ← IO.getEnv name
    return value.toList.map fun text => (name, text)
  return found.flatten

/-- Why a file could not be read, by what the system says. -/
def problemOf (path : String) : IO.Error → FileProblem
  | .inappropriateType _ code _ => if code = 20 then .notADirectory else .directory
  | .invalidArgument .. => if path.contains '\x00' then .nullCharacter else .nameTooLong
  | _ => .missing

/-- The text of a file, or why there is none. -/
def readText (path : String) : IO (Except FileProblem String) := do
  try
    return .ok (← IO.FS.readFile (Trail.ofText path).text)
  catch problem => return .error (problemOf path problem)

/-- Print what came of a command and write its file. -/
def deliver (outcome : Outcome) : IO UInt32 := do
  (← IO.getStderr).putStr outcome.errors
  match outcome.written with
  | some (file, text) => IO.FS.writeFile (Trail.ofText file).text text
  | none => pure ()
  (← IO.getStdout).putStr outcome.output
  return outcome.exitCode.toUInt32

/-- The command. -/
def main (arguments : List String) : IO UInt32 := do
  match Invocation.ofArguments? arguments with
  | none =>
    IO.eprint usageText
    return 2
  | some invocation =>
    match Command.run invocation (← readEnvironment) (← readText invocation.file) with
    | .ok outcome => deliver outcome
    | .error fault =>
      IO.eprintln fault.message
      return 1

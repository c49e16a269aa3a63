import FormGraph.Command.Arguments
import FormGraph.Command.Folder
import FormGraph.Document.RoundTrip
import FormGraph.Json.Reader
import FormGraph.Json.Writer
import FormGraph.Document.Bundle
import FormGraph.Settings

/-!
# Running a command

A command reads one document, plain or as the schema of a bundle, and says what came of it: what
goes to the output and to the error output, the exit code, and what is to be written to a file. It
touches no file itself: the text of the document is handed in, and what is to be written is handed
back.

A document that cannot be read as JSON ends the command with code 2, one that is rejected, or that
fails its check, with code 1.
-/

namespace FormGraph

/-- What comes of a command. -/
structure Outcome where
  /-- The exit code. -/
  exitCode : Nat := 0
  /-- What goes to the output. -/
  output : String := ""
  /-- What goes to the error output. -/
  errors : String := ""
  /-- The file to be written and its text, if there is one. -/
  written : Option (String × String) := none
  deriving DecidableEq, Repr

namespace Command

/-- A problem list with its title. -/
def problemList (title : String) (problems : List String) : String :=
  title ++ " (" ++ toString problems.length ++ "):\n" ++
    String.join (problems.map fun p => "  - " ++ p ++ "\n")

/-- The warnings, if there are any. -/
def warningList (warnings : List String) : String :=
  if warnings.isEmpty then "" else problemList "Warnings" warnings

/-- The outcome for a document that could not be read. -/
def unreadable (file reason : String) : Outcome :=
  { exitCode := 2, errors := "Cannot read " ++ file ++ ": " ++ reason ++ "\n" }

/-- Every line break as a single character. -/
def unifyLineBreaks : List Char → List Char
  | [] => []
  | '\r' :: '\n' :: cs => '\n' :: unifyLineBreaks cs
  | '\r' :: cs => '\n' :: unifyLineBreaks cs
  | c :: cs => c :: unifyLineBreaks cs

/-- Whether a document is a bundle: an object whose schema is an object. -/
def isBundle (v : Value) : Bool :=
  match v with
  | .obj ms => (Value.member ms "schema").isObj
  | _ => false

/-- The schema of a bundle, or the document itself. -/
def schemaOf (v : Value) : Value :=
  match v with
  | .obj ms => if isBundle v then Value.member ms "schema" else v
  | _ => v

/-- Screen a document or a bundle. -/
def screen (v : Value) : Screening :=
  if isBundle v then Screening.bundle v else Screening.document v

/-- Read a document or a bundle as a graph. -/
def load (v : Value) (cfg : DocumentConfig) (registry : Registry) : Edit Imported := do
  if isBundle v then return (← Graph.importBundle v cfg registry).toImported
  else Graph.importDocument v cfg

/-- What a document's round trip shows: whatever is wrong with its graph, and whether the graph
comes back unchanged. -/
def roundTripIssues (v : Value) (cfg : DocumentConfig) (registry : Registry) :
    Edit (List String) := do
  let imported ← load v cfg registry
  let problems ← Check.graph imported.graph
  let back ← imported.graph.reread cfg
  let before ← imported.graph.fingerprint
  let after ← back.graph.fingerprint
  return problems ++
    if after = before then []
    else ["Round trip changed the graph: " ++ before ++ " != " ++ after]

/-- A value as a line of output. -/
def line (v : Value) : String := v.indentedJson ++ "\n"

/-- Screen a document and say what was found. -/
def validate (v : Value) : Outcome :=
  let found := screen v
  if found.isValid then
    { output := "Schema is valid\n", errors := warningList found.warnings }
  else
    { exitCode := 1
      errors := warningList found.warnings ++ problemList "Schema validation failed" found.errors }

/-- Read a document and write it again. -/
def compile (v : Value) (bundle : Bool) (output : Option String) (cfg : DocumentConfig)
    (registry : Registry) : Edit Outcome := do
  let imported ← load v cfg registry
  let exported ← imported.graph.bundle cfg registry
  let warnings := warningList (imported.warnings ++ exported.warnings)
  let text := line (if bundle then exported.toValue else exported.schema)
  return match output with
    | none => { output := text, errors := warnings }
    | some file =>
      { errors := warnings ++ "Schema written to " ++ file ++ "\n", written := some (file, text) }

/-- Check that a document comes back unchanged. -/
def check (v : Value) (cfg : DocumentConfig) (registry : Registry) : Edit Outcome := do
  let issues ← roundTripIssues v cfg registry
  return if issues.isEmpty then { output := "Schema round-trips cleanly\n" }
    else { exitCode := 1, errors := problemList "Round trip check FAILED" issues }

/-- Do a task with a document. -/
def perform (task : Task) (v : Value) (cfg : DocumentConfig) (registry : Registry) :
    Edit Outcome := do
  match task with
  | .validate => return validate v
  | .summary => return { output := line (.obj (DocumentSummary.ofDocument (schemaOf v)).toMembers) }
  | .compile bundle output => compile v bundle output cfg registry
  | .uiSchema => do
    let imported ← load v cfg registry
    return { output := line (← imported.graph.uiSchema registry) }
  | .check => check v cfg registry

/-- Turn the refusal of a document into an outcome; other faults stay. -/
def orRejected (result : Except Fault Outcome) : Except Fault Outcome :=
  match result with
  | .error (.refused (.malformed issues _)) =>
    .ok { exitCode := 1, errors := problemList "Import rejected" (distinct issues) }
  | result => result

/-- How documents are written and read, by the environment and the command line. -/
def configOf (invocation : Invocation) (env : Settings.Environment) :
    Except Fault DocumentConfig := do
  let cfg ← Settings.documentOf env
  return { cfg with tupleItems := invocation.tupleItems.getD cfg.tupleItems }

/-- Run a command on the text of its file. -/
def run (invocation : Invocation) (env : Settings.Environment)
    (text : Except FileProblem String) : Except Fault Outcome := do
  let cfg ← configOf invocation env
  match text with
  | .error problem => return unreadable invocation.file (problem.message invocation.file)
  | .ok text =>
    let text := String.ofList (unifyLineBreaks text.toList)
    match Json.parse text with
    | .error refusal => return unreadable invocation.file (refusal.message text)
    | .ok v =>
      orRejected ((perform invocation.task v cfg Registry.standard.freeze).run' {})

end Command

end FormGraph

import FormGraph.Document.Config
import FormGraph.Fault
import FormGraph.Text.Integer

/-!
# Settings

What a service or a command is told by its environment, as a list of named texts: which removal
policy holds, how documents are written and read, where the service listens and what it accepts, and
how it logs. Everything has a default. The settings are read in the order of the fields, and only
settings that can all be read are checked for their ranges: the first thing that is wrong is the one
reported.
-/

namespace FormGraph

/-- What the environment decides. -/
structure Settings where
  /-- What happens to references when their definition goes. -/
  removal : RemovalPolicy := .allow
  /-- How documents are written and read. -/
  document : DocumentConfig := {}
  /-- The address to listen on. -/
  host : String := "0.0.0.0"
  /-- The port to listen on. -/
  port : Int := 8090
  /-- The origins that browsers may call from. -/
  corsOrigins : List String := ["*"]
  /-- The size of the largest request body that is accepted, in bytes. -/
  maxDocumentBytes : Int := 10485760
  /-- How much is logged. -/
  logLevel : String := "INFO"
  /-- How it is logged. -/
  logFormat : String := "text"
  deriving DecidableEq, Repr, Inhabited

namespace Settings

/-- The named texts that settings are read from. -/
abbrev Environment := List (String × String)

/-- The text of a setting, or its default. -/
def textOf (env : Environment) (name default : String) : String :=
  (Entries.find? env ("SCHEMAGRAPH_" ++ name)).getD default

/-- A setting that is on when it says `true`, in any case. -/
def flagOf (env : Environment) (name : String) : Bool :=
  lowerCase (textOf env name "true") = "true"

/-- Read a text as a whole number, or say why it is none. -/
def readInteger (text : String) : Except Fault Int :=
  match Integer.ofText text with
  | .ok n => .ok n
  | .error .malformed => .error (.badInteger text)
  | .error (.tooManyDigits count) => .error (.tooManyDigits count)

/-- A setting that is a whole number. -/
def integerOf (env : Environment) (name : String) (default : Int) : Except Fault Int :=
  readInteger (textOf env name (toString default))

/-- The parts between the commas of a text, without blanks around them; blank parts are dropped. -/
def listOf (text : String) : List String :=
  ((text.splitOn ",").map trimBlanks).filter (· ≠ "")

/-- How documents are written and read. -/
def documentOf (env : Environment) : Except Fault DocumentConfig := do
  let tupleItems ← TupleItems.vocabulary.read (textOf env "TUPLE_ITEMS" "reject")
  return {
    strictMatchElse := flagOf env "STRICT_MATCH_ELSE"
    emitUnreferenced := flagOf env "EMIT_UNREFERENCED"
    tupleItems := tupleItems }

/-- Refuse settings that are out of range. -/
def check (s : Settings) : Except Fault Unit := do
  if s.port ≤ 0 || 65536 ≤ s.port then throw (.badPort s.port)
  if s.maxDocumentBytes ≤ 0 then throw .badSizeLimit
  if s.logFormat ≠ "text" && s.logFormat ≠ "json" then throw (.badLogFormat s.logFormat)

/-- The settings of an environment. -/
def ofEnvironment (env : Environment) : Except Fault Settings := do
  let removal ← RemovalPolicy.vocabulary.read (textOf env "DEFINITION_REMOVAL" "allow")
  let document ← documentOf env
  let port ← integerOf env "PORT" 8090
  let maxDocumentBytes ← integerOf env "MAX_DOCUMENT_BYTES" 10485760
  let settings : Settings := {
    removal := removal
    document := document
    host := textOf env "HOST" "0.0.0.0"
    port := port
    corsOrigins := listOf (textOf env "CORS_ORIGINS" "*")
    maxDocumentBytes := maxDocumentBytes
    logLevel := textOf env "LOG_LEVEL" "INFO"
    logFormat := textOf env "LOG_FORMAT" "text" }
  settings.check
  return settings

end Settings

end FormGraph

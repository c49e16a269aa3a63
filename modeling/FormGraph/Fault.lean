import FormGraph.Kind
import FormGraph.Text.Integer
import FormGraph.Value.Display

/-!
# Faults

Why an operation gave no result. A `Refusal` is an answer of the graph: the request cannot be met,
and the refusal carries what it is about, a stable code and a message. The other faults lie in the
request itself (a name outside a vocabulary, a number that cannot be read) or say that the values
met are none the operation is made for (`Breakdown`).

A fault never comes with a changed graph: an operation returns either a new graph or a fault.
-/

namespace FormGraph

/-- Why the graph refuses a request. -/
inductive Refusal where
  /-- The parent does not exist. -/
  | unknownParent (parentId : String)
  /-- The parent is of a kind without children, or the child is a definition. -/
  | cannotHold (parentId parentKey : String) (parentKind childKind : NodeKind)
  /-- The parent does not take a child of this kind over this edge. -/
  | childRejected (parentId parentKey : String) (parentKind childKind : NodeKind) (edge : EdgeKind)
  /-- A node was to be moved below a leaf. -/
  | leafParent (parentId parentKey : String) (parentKind childKind : NodeKind)
  /-- The node is already used as the other branch of the group. -/
  | otherBranch (nodeId : String) (edge : EdgeKind) (groupId groupKey : String)
  /-- A node was to be moved below itself. -/
  | cycle (nodeId parentId : String)
  /-- A sibling already has the key. -/
  | duplicateKey (key parentId : String)
  /-- A definition already has the name. -/
  | duplicateName (name : String)
  /-- There is no such node. -/
  | unknownNode (nodeId : String)
  /-- The root was to be removed. -/
  | rootRemoval (nodeId : String)
  /-- The root was to be moved. -/
  | rootMove (nodeId : String)
  /-- The root was to be put in order among its siblings. -/
  | rootOrder (nodeId : String)
  /-- There is no definition of that name. -/
  | unknownDefinition (name : String)
  /-- The group has no clause at that position. -/
  | clauseOutOfRange (index : Int) (size : Nat) (groupId : String)
  /-- The document cannot be read as a graph. -/
  | malformed (issues warnings : List String)
  /-- The kind of node has no such attributes. -/
  | unknownAttributes (attributeSet : String) (names : List Value)
  /-- A patch names what never changes. -/
  | fixedFields (nodeId : String) (fields : List String)
  /-- A patch names the clauses of a group. -/
  | clausesInPatch (nodeId : String)
  /-- A patch names the name of a definition. -/
  | definitionNameInPatch (nodeId : String)
  /-- A reference was to point at a definition that does not exist. -/
  | unknownTarget (nodeId : String) (target : Value)
  /-- A definition was to be moved. -/
  | definitionMove (nodeId : String)
  /-- The root was to become a definition. -/
  | rootPromotion (nodeId : String)
  /-- A reference, a definition or its content was to become a definition. -/
  | alreadyDefined (nodeId key : String)
  /-- A group was to become a definition. -/
  | groupPromotion (nodeId key : String)
  /-- A definition was to have no name. -/
  | emptyDefinitionName
  /-- A group was to be made of a kind that is none. -/
  | notAGroupKind (kind : NodeKind)
  /-- The node is no group. -/
  | notAGroup (nodeId : String) (kind : NodeKind)
  /-- The clauses of an `if` block were to have different branches. -/
  | divergingBranches (nodeId key : String)
  /-- A clause has no such fields. -/
  | unknownClauseFields (fields : List String)
  /-- The key is no identifier. -/
  | invalidKey (key : Value)
  /-- The definition still has references. -/
  | definitionInUse (name : String) (references : Nat)
  /-- There is no such widget. -/
  | unknownWidget (widgetId : String)
  /-- A widget was to be registered after the registry was frozen. -/
  | frozenWidget (widgetId : String)
  /-- A rule was to be added after the registry was frozen. -/
  | frozenRule (widgetId : String)
  deriving DecidableEq

/-- The entries of a list without repetitions, each at its first place. -/
def distinct (texts : List String) : List String :=
  texts.foldl (fun seen t => if t ∈ seen then seen else seen ++ [t]) []

namespace Refusal

/-- The stable code of a refusal. -/
def code : Refusal → String
  | .unknownParent .. | .cannotHold .. => "INVALID_PARENT"
  | .childRejected .. | .leafParent .. | .otherBranch .. => "INCOMPATIBLE_PARENT"
  | .cycle .. => "CYCLE_DETECTED"
  | .duplicateKey .. => "DUPLICATE_KEY"
  | .duplicateName .. => "DUPLICATE_NAME"
  | .unknownNode .. | .rootRemoval .. | .rootMove .. | .rootOrder .. | .unknownDefinition .. =>
    "NOT_FOUND"
  | .clauseOutOfRange .. => "INDEX_OUT_OF_RANGE"
  | .malformed .. => "IMPORT_MALFORMED"
  | .invalidKey .. => "INVALID_KEY"
  | .definitionInUse .. => "DEFINITION_IN_USE"
  | .unknownWidget .. => "UNKNOWN_WIDGET"
  | .frozenWidget .. | .frozenRule .. => "REGISTRY_FROZEN"
  | _ => "INVALID_OPERATION"

/-- A text in single quotes, as it is. -/
def inQuotes (s : String) : String := "'" ++ s ++ "'"

/-- How messages name a node: its key and its kind. -/
def keyAndKind (key : String) (kind : NodeKind) : String :=
  inQuotes key ++ " (" ++ kind.name ++ ")"

/-- What a refusal says. -/
def message : Refusal → String
  | .unknownParent p => "Parent " ++ inQuotes p ++ " does not exist"
  | .cannotHold _ key kind child =>
    keyAndKind key kind ++ " cannot hold a " ++ child.name ++ " node"
  | .childRejected _ key kind child edge =>
    keyAndKind key kind ++ " does not accept a " ++ child.name ++ " node via a " ++ edge.name ++
      " edge"
  | .leafParent _ key kind _ => keyAndKind key kind ++ " cannot hold children"
  | .otherBranch n edge _ key =>
    "Node " ++ inQuotes n ++ " is already a " ++ edge.name ++ " branch of " ++ inQuotes key
  | .cycle n p => "Moving " ++ inQuotes n ++ " under " ++ inQuotes p ++ " would create a cycle"
  | .duplicateKey key p =>
    "Key " ++ inQuotes key ++ " is already used by a sibling under " ++ inQuotes p
  | .duplicateName name => "Definition " ++ inQuotes name ++ " already exists"
  | .unknownNode n => "Node " ++ inQuotes n ++ " not found"
  | .rootRemoval _ => "The root node cannot be removed"
  | .rootMove _ => "The root node cannot be moved"
  | .rootOrder _ => "The root node has no position"
  | .unknownDefinition name => "Definition " ++ inQuotes name ++ " not found"
  | .clauseOutOfRange index size group =>
    "Clause index " ++ toString index ++ " out of range for group " ++ inQuotes group ++
      " with " ++ toString size ++ " clause(s)"
  | .malformed issues _ =>
    match distinct issues with
    | [issue] => "Malformed document: " ++ issue
    | all => "Malformed document: " ++ toString all.length ++ " issues"
  | .unknownAttributes attributeSet names =>
    "Unknown attribute(s) for " ++ attributeSet ++ ": " ++ (Value.list names).quoted
  | .fixedFields n fields =>
    "Cannot change " ++ quotedTexts fields ++ " of node " ++ inQuotes n
  | .clausesInPatch _ => "Clauses are changed through the conditional operations"
  | .definitionNameInPatch _ => "Definitions are renamed with rename_definition"
  | .unknownTarget _ target => "Definition " ++ inQuotes target.plain ++ " does not exist"
  | .definitionMove _ => "Definitions cannot be moved"
  | .rootPromotion _ => "The root node cannot be promoted"
  | .alreadyDefined _ key =>
    "Node " ++ inQuotes key ++ " is already a reference or definition"
  | .groupPromotion _ key =>
    "Conditional node " ++ inQuotes key ++ " cannot become a definition"
  | .emptyDefinitionName => "Definition name must not be empty"
  | .notAGroupKind kind => kind.name ++ " is not a conditional kind"
  | .notAGroup n kind =>
    "Node " ++ inQuotes n ++ " (" ++ kind.name ++ ") is not a conditional group"
  | .divergingBranches _ key =>
    "Clauses of if block " ++ inQuotes key ++ " share one then and one else branch; " ++
      "change them with update_clause or synchronize_branches"
  | .unknownClauseFields fields => "Unknown clause field(s): " ++ quotedTexts fields
  | .invalidKey key =>
    "Invalid key " ++ inQuotes key.plain ++ ": must start with a letter or underscore " ++
      "and contain only letters, digits and underscores"
  | .definitionInUse name references =>
    "Definition " ++ inQuotes name ++ " is still referenced by " ++ toString references ++
      " node(s)"
  | .unknownWidget w => "Unknown widget " ++ inQuotes w
  | .frozenWidget w => "Cannot register widget " ++ inQuotes w ++ ": widget registry is frozen"
  | .frozenRule w => "Cannot register rule for " ++ inQuotes w ++ ": widget registry is frozen"

/-- What a refusal is about, as members of a document object. -/
def details : Refusal → Members
  | .unknownParent p => [("parent_id", .str p)]
  | .cannotHold p _ _ _ => [("parent_id", .str p)]
  | .childRejected p _ _ child _ => [("parent_id", .str p), ("child_kind", .str child.name)]
  | .leafParent p _ _ child => [("parent_id", .str p), ("child_kind", .str child.name)]
  | .otherBranch _ _ group _ => [("parent_id", .str group), ("child_kind", .null)]
  | .cycle n p => [("node_id", .str n), ("target_parent_id", .str p)]
  | .duplicateKey key p => [("key", .str key), ("parent_id", .str p)]
  | .duplicateName name => [("name", .str name)]
  | .unknownNode n | .rootRemoval n | .rootMove n | .rootOrder n | .unknownDefinition n =>
    [("node_id", .str n)]
  | .clauseOutOfRange index size group =>
    [("index", .int index), ("size", .int size), ("group_id", .str group)]
  | .malformed issues warnings =>
    [("issues", Value.ofStrings (distinct issues)), ("warnings", Value.ofStrings warnings)]
  | .unknownAttributes _ names => [("attributes", .list names)]
  | .fixedFields n fields => [("node_id", .str n), ("fields", Value.ofStrings fields)]
  | .clausesInPatch n | .definitionNameInPatch n | .definitionMove n | .rootPromotion n =>
    [("node_id", .str n)]
  | .unknownTarget n target => [("node_id", .str n), ("target", target)]
  | .alreadyDefined n _ | .groupPromotion n _ | .notAGroup n _ | .divergingBranches n _ =>
    [("node_id", .str n)]
  | .emptyDefinitionName => []
  | .notAGroupKind kind => [("kind", .str kind.name)]
  | .unknownClauseFields fields => [("fields", Value.ofStrings fields)]
  | .invalidKey key => [("key", key)]
  | .definitionInUse name references => [("name", .str name), ("reference_count", .int references)]
  | .unknownWidget w => [("widget_id", .str w)]
  | .frozenWidget _ | .frozenRule _ => []

end Refusal

/-- How an operation comes to meet values it is not made for. -/
inductive Breakdown where
  /-- A position was asked for among children that are not there. -/
  | noPosition
  /-- A value is of no use where it stands. -/
  | unusableValue
  /-- A value was asked for what only values of another sort have. -/
  | otherSort
  /-- An edge or a definition points at a node that is not there. -/
  | missingNode
  /-- Nodes contain each other without end. -/
  | endless
  /-- A number in a regular expression is beyond what is counted. -/
  | uncountable
  deriving DecidableEq, Repr

/-- Why an operation gave no result. -/
inductive Fault where
  /-- The graph refuses the request. -/
  | refused (refusal : Refusal)
  /-- The text is no name of the vocabulary. -/
  | notInVocabulary (noun plural text : String) (names : List String)
  /-- The text is no whole number. -/
  | badInteger (text : String)
  /-- The digits are more than are read as one number. -/
  | tooManyDigits (count : Nat)
  /-- A value was to be read as an object, and an item of it is no pair. -/
  | badPair (index size : Nat)
  /-- A regular expression asks for the rules of two character sets at once. -/
  | clashingFlags
  /-- The attributes belong to another kind of node. -/
  | attributesMismatch (nodeId : String) (kind : NodeKind) (needed given : String)
  /-- A widget was to be taken off the list of a kind that does not list it. -/
  | unlistedWidget
  /-- The port is outside its range. -/
  | badPort (port : Int)
  /-- The size limit is not positive. -/
  | badSizeLimit
  /-- The log format is unknown. -/
  | badLogFormat (format : String)
  /-- The operation met values it is not made for. -/
  | broken (breakdown : Breakdown)
  deriving DecidableEq

namespace Fault

/-- The first characters of a text. -/
def clipped (size : Nat) (s : String) : String := String.ofList (s.toList.take size)

/-- What a fault says; a breakdown says nothing. -/
def message : Fault → String
  | .refused r => r.message
  | .notInVocabulary noun plural text names =>
    "Invalid " ++ noun ++ " '" ++ text ++ "'. Valid " ++ plural ++ ": " ++ quotedTexts names
  | .badInteger text => "invalid literal for int() with base 10: " ++ clipped 200 (quotedText text)
  | .tooManyDigits count => Integer.tooManyDigitsText count
  | .badPair index size =>
    "dictionary update sequence element #" ++ toString index ++ " has length " ++ toString size ++
      "; 2 is required"
  | .clashingFlags => "ASCII and UNICODE flags are incompatible"
  | .attributesMismatch n kind needed given =>
    "Node '" ++ n ++ "' of kind " ++ kind.name ++ " needs " ++ needed ++ ", got " ++ given
  | .unlistedWidget => "list.remove(x): x not in list"
  | .badPort port => "SCHEMAGRAPH_PORT must be between 1 and 65535, got " ++ toString port
  | .badSizeLimit => "SCHEMAGRAPH_MAX_DOCUMENT_BYTES must be positive"
  | .badLogFormat format =>
    "SCHEMAGRAPH_LOG_FORMAT must be 'text' or 'json', got '" ++ format ++ "'"
  | .broken _ => ""

end Fault

/-- Refuse a request. -/
def refuse {α : Type} (refusal : Refusal) : Except Fault α := .error (.refused refusal)

/-- Break down. -/
def breakDown {α : Type} (breakdown : Breakdown) : Except Fault α := .error (.broken breakdown)

/-- The value of an option, or a breakdown when there is none. -/
def orBreakDown {α : Type} (o : Option α) (breakdown : Breakdown) : Except Fault α :=
  match o with
  | some a => .ok a
  | none => breakDown breakdown

namespace Vocabulary

variable {α : Type}

/-- The member of that name. -/
def find? (v : Vocabulary α) (text : String) : Option α :=
  let wanted := if v.foldsCase then lowerCase text else text
  v.all.find? fun a => v.name a = wanted

/-- The member of that name, or a fault that lists the names. -/
def read (v : Vocabulary α) (text : String) : Except Fault α :=
  match v.find? text with
  | some a => .ok a
  | none => .error (.notInVocabulary v.noun v.plural text (v.all.map v.name))

end Vocabulary

end FormGraph

import FormGraph.Value.Display
import FormGraph.Value.Entries

/-!
# The folder a command runs in

A command names files by paths. A path is read as a trail: the slashes in front of it and the steps
from there, less the empty steps and the dots. Following a trail through a `Folder` leads to a
place, which holds a file, a directory or nothing, or it fails at a step: `Folder.read` and
`Folder.write` are what a command sees of its folder. Outside the folder only what every system has
is known: the directories below the root, and the file that is always empty.
-/

namespace FormGraph

/-- A path, read. -/
structure Trail where
  /-- The slashes in front: none where the path starts in the folder, and one where it starts at the
  root; exactly two are kept as two, and mean the root as well. -/
  front : String
  /-- The steps from there. -/
  steps : List String
  deriving DecidableEq, Repr

namespace Trail

/-- Read a path. -/
def ofText (path : String) : Trail where
  front :=
    match path.toList with
    | '/' :: '/' :: '/' :: _ => "/"
    | '/' :: '/' :: _ => "//"
    | '/' :: _ => "/"
    | _ => ""
  steps := (path.splitOn "/").filter fun step => step ≠ "" && step ≠ "."

/-- A trail as a path; the folder itself is a dot. -/
def text (trail : Trail) : String :=
  let path := trail.front ++ joined "/" trail.steps
  if path = "" then "." else path

end Trail

/-- Why a file cannot be read or written. -/
inductive FileProblem where
  /-- There is no such file, or no directory to put it into. -/
  | missing
  /-- It is a directory. -/
  | directory
  /-- A step leads through a file. -/
  | notADirectory
  /-- A step, or the whole path, is too long. -/
  | nameTooLong
  /-- The path holds the character that ends paths. -/
  | nullCharacter
  deriving DecidableEq, Repr

/-- What is said about a file that cannot be read: the number and the text of the problem, and the
path without what does not matter in it. -/
def FileProblem.message (path : String) (problem : FileProblem) : String :=
  let about (reason : String) := reason ++ ": " ++ quotedText (Trail.ofText path).text
  match problem with
  | .missing => about "[Errno 2] No such file or directory"
  | .directory => about "[Errno 21] Is a directory"
  | .notADirectory => about "[Errno 20] Not a directory"
  | .nameTooLong => about "[Errno 36] File name too long"
  | .nullCharacter => "embedded null byte"

/-- Where a trail can start, and where it can get to from there by going up. -/
inductive Start where
  /-- The folder. -/
  | folder
  /-- A directory that the folder lies in, at whatever depth. -/
  | around
  /-- The root of the system. -/
  | root
  deriving DecidableEq, Repr

/-- A place: the steps down from a start. -/
structure Place where
  /-- The start. -/
  start : Start
  /-- The steps down from it. -/
  steps : List String := []
  deriving DecidableEq, Repr

namespace Place

/-- The place above a place; above the root is the root. -/
def above (place : Place) : Place :=
  match place.start, place.steps with
  | .folder, [] => ⟨.around, []⟩
  | start, steps => ⟨start, steps.dropLast⟩

/-- The place that a step leads to. -/
def follow (place : Place) (step : String) : Place :=
  if step = ".." then place.above else ⟨place.start, place.steps ++ [step]⟩

end Place

/-- What a place holds. -/
inductive FolderEntry where
  /-- A directory. -/
  | directory
  /-- A file with its text. -/
  | file (text : String)
  deriving DecidableEq, Repr

/-- A folder: the texts of its files under their paths. -/
structure Folder where
  /-- The files, each under the path that its trail has as a text. -/
  files : List (String × String)
  deriving DecidableEq, Repr

namespace Folder

/-- The folder that holds files with given paths and texts. -/
def ofFiles (files : List (String × String)) : Folder where
  files := files.map fun file => ((Trail.ofText file.1).text, file.2)

/-- The directories that every system has below its root. -/
def systemDirectories : List String :=
  ["bin", "boot", "dev", "etc", "home", "lib", "media", "mnt", "opt", "proc", "root", "run", "sbin",
    "srv", "sys", "tmp", "usr", "var"]

/-- The largest number of bytes in a step. -/
def maxStepBytes : Nat := 255

/-- The largest number of bytes in a path. -/
def maxPathBytes : Nat := 4095

/-- What is found at a place. -/
def entry? (folder : Folder) (place : Place) : Option FolderEntry :=
  match place.start, place.steps with
  | _, [] => some .directory
  | .folder, steps =>
    let path := joined "/" steps
    match Entries.find? folder.files path with
    | some text => some (.file text)
    | none =>
      if folder.files.any fun file => (path ++ "/").toList.isPrefixOf file.1.toList then
        some .directory
      else none
  | .root, ["dev", "null"] => some (.file "")
  | .root, [name] => if name ∈ systemDirectories then some .directory else none
  | _, _ => none

/-- Follow steps from a place. Each step but the last has to lead to a directory. -/
def walk (folder : Folder) : Place → List String → Except FileProblem Place
  | place, [] => .ok place
  | place, step :: steps =>
    match folder.entry? place with
    | none => .error .missing
    | some (.file _) => .error .notADirectory
    | some .directory =>
      if maxStepBytes < step.utf8ByteSize then .error .nameTooLong
      else walk folder (place.follow step) steps

/-- The place that a path leads to. -/
def locate (folder : Folder) (path : String) : Except FileProblem Place :=
  let trail := Trail.ofText path
  if path.toList.contains '\x00' then .error .nullCharacter
  else if maxPathBytes < trail.text.utf8ByteSize then .error .nameTooLong
  else folder.walk ⟨if trail.front = "" then .folder else .root, []⟩ trail.steps

/-- Read the file at a path. -/
def read (folder : Folder) (path : String) : Except FileProblem String := do
  match folder.entry? (← folder.locate path) with
  | some (.file text) => return text
  | some .directory => throw .directory
  | none => throw .missing

/-- Write the file at a path. A file outside the folder leaves the folder as it is. -/
def write (folder : Folder) (path text : String) : Except FileProblem Folder := do
  let place ← folder.locate path
  if folder.entry? place = some .directory then throw .directory
  if place.start = .folder then
    return ⟨Entries.put folder.files (joined "/" place.steps) text⟩
  return folder

/-- The files of a folder that another one does not hold. -/
def without (folder other : Folder) : List (String × String) :=
  folder.files.filter fun file => !Entries.has other.files file.1

end Folder

end FormGraph

import Coupling.Path
import Coupling.Text.Cut

/-!
# File trees

The files a compilation reads and writes, as a value:

* a `FileTree` maps locations to files and directories, and the working directory is its root;
* `read`, `write` and `makeDirectories` follow a path segment by segment and fail as a file
  system does; a step that fails changes nothing;
* `remove` takes a file away.
-/

namespace Coupling

/-- Why a file cannot be read or written. -/
inductive FileFault where
  | notFound
  | exists
  | notDirectory
  | isDirectory
  | notUtf8
  /-- A fault that no file tree has, in the words of the system. -/
  | other (text : String)
  deriving DecidableEq, Repr

def FileFault.text : FileFault → String
  | .notFound => "No such file or directory (os error 2)"
  | .exists => "File exists (os error 17)"
  | .notDirectory => "Not a directory (os error 20)"
  | .isDirectory => "Is a directory (os error 21)"
  | .notUtf8 => "stream did not contain valid UTF-8"
  | .other text => text

/-- The bytes of the file at a path. -/
abbrev FileReader := String → Except FileFault ByteArray

def FileReader.text (read : FileReader) (path : String) : Except FileFault String := do
  match String.fromUTF8? (← read path) with
  | some text => .ok text
  | none => .error .notUtf8

/-- The names on the way from the working directory. An absolute location starts with `/`. -/
abbrev Location := List String

/-- What stands at a location. -/
inductive Entry where
  | file (content : ByteArray)
  | directory

/-- Files and directories by location. -/
structure FileTree where
  entries : List (Location × Entry) := []

namespace FileTree

/-- What stands at a location. The working directory, those it stands in and the root are always
there. -/
def get? (t : FileTree) (location : Location) : Option Entry :=
  if location = ["/"] ∨ location.all (· = "..") then some .directory
  else (t.entries.find? fun e => e.1 = location).map Prod.snd

def erase (t : FileTree) (location : Location) : FileTree :=
  ⟨t.entries.filter fun e => e.1 ≠ location⟩

/-- The tree with `entry` at a location, after all others. -/
def put (t : FileTree) (location : Location) (entry : Entry) : FileTree :=
  ⟨(t.erase location).entries ++ [(location, entry)]⟩

def start (path : String) : Location := if Path.isAbsolute path then ["/"] else []

/-- The names in a path; those that stay in place are left out. -/
def segments (path : String) : List String :=
  (Text.splitAt '/' path).filter fun name => name ≠ "" ∧ name ≠ "."

/-- Whether a path can only mean a directory. -/
def meansDirectory (path : String) : Bool :=
  match (Text.splitAt '/' path).reverse with
  | last :: _ :: _ => last = "" ∨ last = "."
  | _ => false

def step (here : Location) (name : String) : Location :=
  if name = ".." ∧ ¬here.all (· = "..") then
    if here = ["/"] then here else here.dropLast
  else here ++ [name]

/-- Follows names; every location but the last has to be a directory. -/
def follow (t : FileTree) : Location → List String → Except FileFault Location
  | here, [] => .ok here
  | here, [name] => .ok (step here name)
  | here, name :: names =>
    let next := step here name
    match t.get? next with
    | none => .error .notFound
    | some (.file _) => .error .notDirectory
    | some .directory => t.follow next names

def locate (t : FileTree) (path : String) : Except FileFault Location :=
  if path = "" then .error .notFound else t.follow (start path) (segments path)

def read (t : FileTree) : FileReader := fun path => do
  match t.get? (← t.locate path) with
  | none => .error .notFound
  | some .directory => .error .isDirectory
  | some (.file content) => if meansDirectory path then .error .notDirectory else .ok content

/-- Writes the file at a path, whose directory has to be there. -/
def write (t : FileTree) (path : String) (content : ByteArray) : Except FileFault FileTree := do
  let location ← t.locate path
  match t.get? location with
  | some .directory => .error .isDirectory
  | some (.file _) =>
    if meansDirectory path then .error .notDirectory else .ok (t.put location (.file content))
  | none =>
    if meansDirectory path then .error .isDirectory else .ok (t.put location (.file content))

/-- Whether the last name in a path is `.`. -/
def endsInDot (path : String) : Bool :=
  (Text.splitAt '/' path).reverse.find? (· ≠ "") = some "."

/-- Makes the directories on the way along some names, the last of them only where it does not have
to be `there`. A file in the way exists already if something was `made` before it. -/
def descend (t : FileTree) (there made : Bool) : Location → List String → Except FileFault FileTree
  | _, [] => .ok t
  | here, name :: names =>
    let next := step here name
    match t.get? next with
    | none =>
      if there ∧ names = [] then .error .notFound
      else (t.put next .directory).descend there true next names
    | some .directory => t.descend there made next names
    | some (.file _) =>
      let known := if names = [] then !there else made
      .error (if known then .exists else .notDirectory)

/-- Makes a directory and those it stands in, as far as they are missing. A directory that is named
with a `.` at the end is not made itself. -/
def makeDirectories (t : FileTree) (path : String) : Except FileFault FileTree :=
  t.descend (endsInDot path) false (start path) (segments path)

def remove (t : FileTree) (path : String) : FileTree :=
  match t.locate path with
  | .ok location => t.erase location
  | .error _ => t

def files (t : FileTree) : List (String × ByteArray) :=
  t.entries.filterMap fun (location, entry) =>
    match entry with
    | .file content => some ("/".intercalate location, content)
    | .directory => none

end FileTree

end Coupling

import Coupling.Compiled
import Coupling.Manifest.Record

/-!
# Writing a compilation

What is written is planned before anything is touched: `Compiled.steps` lists the steps, and
`OutputStep.performAll` does them on a file tree until one fails. The steps before that one stay
done, and those after it are not begun.
-/

namespace Coupling

/-- What a step does at its path. -/
inductive OutputAction where
  | makeDirectory
  | write (content : ByteArray)

/-- One step of writing. -/
structure OutputStep where
  /-- The name of the step in errors. -/
  stage : String
  path : String
  action : OutputAction

namespace OutputStep

def perform (s : OutputStep) (t : FileTree) : Except FileFault FileTree :=
  match s.action with
  | .makeDirectory => t.makeDirectories s.path
  | .write content => t.write s.path content

def error (s : OutputStep) (fault : FileFault) : Error := fault.error s.stage s.path

/-- Does steps from first to last until one fails; the tree is the one that is left. -/
def performAll : List OutputStep → FileTree → FileTree × Except Error Unit
  | [], t => (t, .ok ())
  | s :: steps, t =>
    match s.perform t with
    | .ok t => performAll steps t
    | .error fault => (t, .error (s.error fault))

end OutputStep

/-- Where the three files of a compilation are. -/
structure OutputPaths where
  namcouple : String
  cfTable : String
  manifest : String
  deriving DecidableEq, Repr

namespace OutputPaths

def inDirectory (directory : String) : OutputPaths where
  namcouple := Path.join directory "namcouple"
  cfTable := Path.join directory "cf_name_table.txt"
  manifest := Path.join directory "namcouple.manifest.json"

/-- The paths in the order in which the files are written. -/
def toList (p : OutputPaths) : List String := [p.namcouple, p.cfTable, p.manifest]

end OutputPaths

namespace Compiled

/-- The text of the manifest's file. -/
def manifestText (c : Compiled) : String := c.manifest.toJson.text

/-- The steps that write a compilation into a directory. -/
def steps (c : Compiled) (directory : String) : List OutputStep :=
  let paths := OutputPaths.inDirectory directory
  [⟨"mkdir", directory, .makeDirectory⟩,
   ⟨"namcouple-write", paths.namcouple, .write c.rendered.namcouple.toUTF8⟩,
   ⟨"cf-table-write", paths.cfTable, .write c.rendered.cfTable.toUTF8⟩,
   ⟨"manifest-write", paths.manifest, .write c.manifestText.toUTF8⟩]

def written (directory : String) : Event := ⟨.info, "wrote namcouple outputs", [("dir", directory)]⟩

/-- Writes a compilation into a directory; the tree is the one that is left. -/
def write (c : Compiled) (directory : String) (t : FileTree) : FileTree × Logged OutputPaths :=
  let (t, outcome) := OutputStep.performAll (c.steps directory) t
  (t, do
    Logged.of outcome
    Logged.report (written directory)
    return .inDirectory directory)

end Compiled

end Coupling

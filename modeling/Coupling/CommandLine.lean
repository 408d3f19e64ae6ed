import Coupling.CommandLine.Help
import Coupling.Loading
import Coupling.Output
import Coupling.Regeneration

/-!
# The command line

What the program does with its arguments. A command is turned into a `Plan` by reading alone: the
steps that write, and what is printed once they are done. `Command.run` does the steps on a file
tree. Nothing is printed on standard output by a command that fails, and its exit code is that of
the error.
-/

namespace Coupling.CommandLine

/-- What is left to do once everything is read and compiled. -/
structure Plan where
  steps : List OutputStep := []
  /-- What is printed once the steps are done. -/
  stdout : String := ""
  /-- What is reported once the steps are done. -/
  events : List Event := []
  /-- The program that is started at the end. -/
  program : Option String := none

/-- What a run of the program shows. -/
structure Report where
  exitCode : UInt8
  stdout : String := ""
  stderr : String := ""
  events : List Event := []
  /-- The program that is to be started. -/
  program : Option String := none

/-- A text in front of which blanks fill a width. -/
def rightAligned (width : Nat) (s : List Char) : String := String.ofList (s.leftpad width ' ')

def leftAligned (width : Nat) (s : List Char) : String := String.ofList (s.rightpad width ' ')

def summaryLine (s : Summary) : String :=
  let index := rightAligned 4 (Text.decimal s.index.toNat)
  let weight := rightAligned 6 (Text.signed s.weight.toInt)
  let seq := leftAligned 2 (Text.decimal s.seq.toNat)
  let route := s!"{s.origin} -> {s.dest} {s.source} -> {s.target}"
  let levels := s.levels.toNat
  let period := s.period.toNat
  s!"{index} {weight} seq={seq} {route} {s.mapping} {s.grid}x{levels} every {period}s\n"

/-- The fields of a compilation, a line each, and their number. -/
def listing (fields : List Summary) : String :=
  let count := fields.length
  String.join (fields.map summaryLine) ++ s!"{count} fields\n"

def currentVersion : String := "0.1.0"

/-- The versions of the program and of the manifests it writes. -/
def versions : Json := .obj
  [("version", .str currentVersion), ("manifest_schema", SchemaVersion.current.toJson)]

def Inputs.compile (inputs : Inputs) (decoders : Decoders) (read : FileReader) :
    Logged Compiled := do
  let ctx ← Logged.of (RunContext.load decoders.context read inputs.context)
  let requests ← Logged.of (Request.load decoders.requests read inputs.couplings)
  Coupling.compile read ctx requests

/-- The program that a run configures, as it is found from the working directory. -/
def configuredProgram (c : Compiled) : Option String :=
  c.context.regenerator.map c.context.resolvePath

/-- Writes the compilation, and prints where. -/
def generation (directory : String) (regenerate : Bool) (c : Compiled) : Plan where
  steps := c.steps directory
  stdout := String.join ((OutputPaths.inDirectory directory).toList.map (· ++ "\n"))
  events := Compiled.written directory ::
    (if (configuredProgram c).isSome ∧ ¬regenerate then [Regeneration.skipped] else [])
  program := if regenerate then configuredProgram c else none

namespace Command

/-- What a command comes to, given the files it reads and what decodes them. -/
def plan (decoders : Decoders) (read : FileReader) : Command → Logged Plan
  | .generate inputs directory regenerate => do
    return generation directory regenerate (← inputs.compile decoders read)
  | .check inputs => do
    return { stdout := listing (← inputs.compile decoders read).rendered.fields }
  | .version long =>
    let text := if long then versions.text else currentVersion
    return { stdout := s!"{text}\n" }
  | .help topic => return { stdout := helpOn topic }

end Command

namespace Report

def errorLines (e : Error) : String :=
  let text := e.text
  s!"cpl-gen: {text}\n" ++
    (match e.hint with
      | some hint => s!"hint: {hint}\n"
      | none => "")

def failure (e : Error) (events : List Event) : Report where
  exitCode := e.exitCode
  stderr := errorLines e
  events := events

/-- The report of a run whose arguments are refused. -/
def refused : Report where
  exitCode := 2
  stderr := s!"error: the arguments are not understood\n\n{usage}\n"

end Report

/-- The report of a plan whose steps came to `outcome`, after the events before it. -/
def Plan.report (p : Plan) (before : List Event) : Except Error Unit → Report
  | .error e => .failure e before
  | .ok () =>
    { exitCode := 0, stdout := p.stdout, events := before ++ p.events, program := p.program }

/-- Runs a command on a file tree; the tree is the one that is left. -/
def Command.run (c : Command) (decoders : Decoders) (t : FileTree) : FileTree × Report :=
  let plan := c.plan decoders t.read
  match plan.result with
  | .error e => (t, .failure e plan.events)
  | .ok p =>
    let (t, outcome) := OutputStep.performAll p.steps t
    (t, p.report plan.events outcome)

/-- Runs the program with some arguments on a file tree. -/
def run (decoders : Decoders) (args : List String) (t : FileTree) : FileTree × Report :=
  match Invocation.read? args with
  | some invocation => invocation.command.run decoders t
  | none => (t, .refused)

end Coupling.CommandLine

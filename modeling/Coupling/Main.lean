import Coupling.CommandLine

/-!
# The program

Reads the files that a command needs, lets `Command.plan` decide, and does the planned steps on
the disk. All that is decided here is how a fault of the system is called. A program that is to be
started in the end is left to the caller, and reported.
-/

namespace Coupling.CommandLine

/-- The fault that an error of the system stands for. -/
def faultOf : IO.Error → FileFault
  | .noFileOrDirectory _ _ _ => .notFound
  | .alreadyExists _ _ _ => .exists
  | .inappropriateType _ code text =>
    if code = 20 then .notDirectory else if code = 21 then .isDirectory else .other text
  | .permissionDenied _ _ _ => .other "Permission denied (os error 13)"
  | e => .other e.toString

def readFile (path : String) : BaseIO (Except FileFault ByteArray) := do
  match ← (IO.FS.readBinFile path).toBaseIO with
  | .ok bytes => return .ok bytes
  | .error e => return .error (faultOf e)

/-- What has been read, by path. -/
abbrev Snapshot := List (String × Except FileFault ByteArray)

/-- Reads a path as it was when the snapshot was taken. -/
def Snapshot.read (s : Snapshot) : FileReader := fun path =>
  match s.lookup path with
  | some content => content
  | none => .error .notFound

/-- The files that a compilation of two files reads. -/
def Inputs.snapshot (inputs : Inputs) : BaseIO Snapshot := do
  let context ← readFile inputs.context
  let couplings ← readFile inputs.couplings
  let s : Snapshot := [(inputs.context, context), (inputs.couplings, couplings)]
  let ctx := RunContext.load Decoders.yaml.context s.read inputs.context
  match ctx >>= RunContext.stashmasterPath with
  | .ok path => return s ++ [(path, ← readFile path)]
  | .error _ => return s

def Command.snapshot : Command → BaseIO Snapshot
  | .generate inputs _ _ => inputs.snapshot
  | .check inputs => inputs.snapshot
  | .version _ => return []
  | .help _ => return []

/-- Does steps on the disk from first to last until one fails. -/
def performOnDisk : List OutputStep → BaseIO (Except Error Unit)
  | [] => return .ok ()
  | s :: steps => do
    let action : IO Unit := match s.action with
      | .makeDirectory => IO.FS.createDirAll s.path
      | .write content => IO.FS.writeBinFile s.path content
    match ← action.toBaseIO with
    | .ok () => performOnDisk steps
    | .error e => return .error (s.error (faultOf e))

def eventLine (e : Event) : String :=
  let level := match e.severity with
    | .info => "INFO"
    | .warning => "WARN"
  String.join (s!"{level} {e.message}" :: e.fields.map fun (key, value) => s!" {key}={value}") ++
    "\n"

/-- Prints a report; reports of the log are shown as far as they are wanted. -/
def Report.print (r : Report) (verbosity : Nat) : IO UInt32 := do
  for e in r.events do
    if e.severity = .warning ∨ 0 < verbosity then IO.eprint (eventLine e)
  IO.print r.stdout
  IO.eprint r.stderr
  match r.program with
  | some program =>
    IO.eprint (eventLine (Regeneration.report program (.notStarted "not started from here")))
  | none => pure ()
  return r.exitCode.toUInt32

def Invocation.runOnDisk (i : Invocation) : IO UInt32 := do
  let snapshot ← i.command.snapshot
  let plan := i.command.plan .yaml snapshot.read
  let report ← match plan.result with
    | .error e => pure (Report.failure e plan.events)
    | .ok p => pure (p.report plan.events (← performOnDisk p.steps))
  report.print i.verbosity

end Coupling.CommandLine

open Coupling.CommandLine in
/-- Compiles coupling requests as the arguments ask. -/
def main (args : List String) : IO UInt32 :=
  match Invocation.read? args with
  | some invocation => invocation.runOnDisk
  | none => Report.refused.print 0

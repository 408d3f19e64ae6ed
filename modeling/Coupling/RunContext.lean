import Coupling.Field
import Coupling.Path

/-!
# Run contexts

The configuration a compilation runs in: the grids and levels of the components, the coupling
periods of each direction, and the settings of the coupler. Every look-up that finds nothing is
an error of its own kind.
-/

namespace Coupling

/-- The grid of a component and the size of its columns. -/
structure ComponentSetup where
  /-- The name that grid names start with. -/
  grid : String
  /-- The horizontal resolution, columns and rows. -/
  resolution : Option (UInt32 × UInt32) := none
  modelLevels : Option UInt32 := none
  soilLevels : Option UInt32 := none
  deriving DecidableEq, Repr

/-- The coupling periods of a direction in seconds. -/
structure Schedule where
  primary : UInt32
  /-- The period of statistics coupling, where it is enabled. -/
  statistics : Option UInt32 := none
  deriving DecidableEq, Repr

namespace Schedule

/-- One or two periods; no other number of them is a schedule. -/
def ofList : List UInt32 → Except String Schedule
  | [primary] => .ok ⟨primary, none⟩
  | [primary, statistics] => .ok ⟨primary, some statistics⟩
  | periods =>
    let count := periods.length
    .error s!"a coupling frequency schedule holds one or two periods, got {count}"

def toList (s : Schedule) : List UInt32 := s.primary :: s.statistics.toList

def size (s : Schedule) : Nat := s.toList.length

/-- The period a selector picks: 0 the primary one, 1 the statistics one. -/
def select (s : Schedule) (selector : UInt64) : Option UInt32 :=
  if selector = 0 then some s.primary else if selector = 1 then s.statistics else none

end Schedule

/-- The configuration of a run. -/
structure RunContext where
  components : Table Component ComponentSetup
  schedules : Table Direction Schedule := {}
  /-- The executables, in launch order. -/
  executables : List String := []
  /-- Names of fields that are also written to files. -/
  exported : NameSet := {}
  /-- Names of fields whose remapping weights are generated during the run. -/
  remapped : NameSet := {}
  /-- Vector lengths by grid name. -/
  vectorLengths : Table String UInt32 := {}
  /-- The verbosity of the coupler. -/
  verbosity : UInt32 := 0
  /-- The length of the run in seconds. -/
  runtime : UInt64
  startDate : String
  calendar : String := "1"
  /-- The directory of the STASHmaster catalogue. -/
  stashDirectory : Option String := none
  /-- The namelist the configuration was assembled from. -/
  sharedNamelist : Option String := none
  /-- The program that regenerates what depends on the written files. -/
  regenerator : Option String := none
  /-- The directory that relative paths start from. -/
  baseDirectory : String := ""
  deriving DecidableEq

namespace RunContext

/-- The error of a look-up for an entry that is not configured. -/
def missing (what : String) : Error :=
  .wrap .missingEntry ((ErrorInfo.of Kind.missingEntry.code
    s!"run context has no entry for {what}").note "key" what)

def component (ctx : RunContext) (c : Component) : Except Error ComponentSetup :=
  match ctx.components.get? c with
  | some setup => .ok setup
  | none => .error (missing s!"component {c}")

def has (ctx : RunContext) (c : Component) : Bool := ctx.components.contains c

def schedule (ctx : RunContext) (d : Direction) : Except Error Schedule :=
  match ctx.schedules.get? d with
  | some s => .ok s
  | none => .error (missing s!"{d}_freq")

def period (ctx : RunContext) (f : Field) : Except Error UInt32 :=
  match f.period with
  | some seconds => .ok seconds
  | none => do
    let schedule ← ctx.schedule f.direction
    match schedule.select f.selector with
    | some seconds => .ok seconds
    | none =>
      let direction := f.direction
      let size := schedule.size
      let selector := f.selector.toNat
      let e := Error.of .missingFrequency
        s!"{direction} has {size} coupling frequencies, selector {selector} needs {selector + 1}"
      .error (e.note "field" f.name)

def modelLevels (ctx : RunContext) (c : Component) : Except Error UInt32 := do
  match (← ctx.component c).modelLevels with
  | some n => .ok n
  | none => .error (missing s!"{c} model_levels")

def soilLevels (ctx : RunContext) (c : Component) : Except Error UInt32 := do
  match (← ctx.component c).soilLevels with
  | some n => .ok n
  | none => .error (missing s!"{c} soil_levels")

def resolution (ctx : RunContext) (c : Component) : Except Error (UInt32 × UInt32) := do
  let setup ← ctx.component c
  match setup.resolution with
  | some size => .ok size
  | none =>
    let e := Error.of .missingResolution s!"no horizontal resolution configured for {c}"
    .error ((e.note "grid" setup.grid).advise
      "set `resolution: [nx, ny]` for the component in the run context")

/-- The name of a component's grid with a given letter. -/
def gridName (ctx : RunContext) (c : Component) (letter : Char) : Except Error String := do
  let setup ← ctx.component c
  return setup.grid.push letter

def vectorLength (ctx : RunContext) (c : Component) : Except Error UInt32 := do
  let grid := (← ctx.component c).grid
  match ctx.vectorLengths.get? grid with
  | some n => .ok n
  | none =>
    let e := Error.of .unknownVectorLength
      s!"no vector length configured for one-dimensional grid '{grid}'"
    .error (e.note "component" c.tag)

/-- A configured path, seen from the directory of the configuration. -/
def resolvePath (ctx : RunContext) (path : String) : String := Path.join ctx.baseDirectory path

def stashmasterName : String := "STASHmaster_A"

def stashmasterPath (ctx : RunContext) : Except Error String :=
  match ctx.stashDirectory with
  | some directory => .ok (Path.join (ctx.resolvePath directory) stashmasterName)
  | none =>
    let e := Error.of .missingStashmaster "no STASHmaster directory configured"
    .error (e.advise "hybrid couplings need `stashmaster_dir` in the run context")

end RunContext

end Coupling

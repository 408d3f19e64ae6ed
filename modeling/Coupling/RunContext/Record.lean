import Coupling.Field.Record
import Coupling.RunContext

/-!
# Written run contexts

The record in which a run context is kept. Settings that are not made are left out, directions
are written in their normal form, and sets as ordered lists. The base directory is no part of the
record: it is where the record was found.
-/

namespace Coupling

namespace ComponentSetup

def keys : List String := ["grid", "resolution", "model_levels", "soil_levels"]

def toJson (s : ComponentSetup) : Json := .objOfPresent
  [("grid", some (.str s.grid)),
   ("resolution", s.resolution.map fun (nx, ny) => .arr [.int nx.toNat, .int ny.toNat]),
   ("model_levels", s.modelLevels.map fun n => .int n.toNat),
   ("soil_levels", s.soilLevels.map fun n => .int n.toNat)]

def resolutionOfDoc? (d : Doc) : Option (UInt32 × UInt32) :=
  match d.asListOf? Doc.asUInt32? with
  | some [nx, ny] => some (nx, ny)
  | _ => none

def ofDoc? (d : Doc) : Option ComponentSetup := do
  let fields ← d.asFields? keys
  return {
    grid := ← Doc.required? fields "grid" Doc.asText?
    resolution := ← Doc.optional? fields "resolution" resolutionOfDoc?
    modelLevels := ← Doc.optional? fields "model_levels" Doc.asUInt32?
    soilLevels := ← Doc.optional? fields "soil_levels" Doc.asUInt32? }

end ComponentSetup

namespace Schedule

/-- A schedule is written as the list of its periods. -/
def toJson (s : Schedule) : Json := .arr (s.toList.map fun n => .int n.toNat)

/-- The schedule of one or two written periods. -/
def ofDoc? (d : Doc) : Option Schedule :=
  d.asListOf? Doc.asUInt32? >>= fun periods => (ofList periods).toOption

end Schedule

namespace NameSet

/-- A set is written as the ordered list of its names. -/
def toJson (s : NameSet) : Json := .arr (s.names.map .str)

def ofDoc? (d : Doc) : Option NameSet := (d.asListOf? Doc.asText?).map ofNames

end NameSet

namespace RunContext

def keys : List String :=
  ["components", "coupling_frequencies", "executables", "expout_fields", "create_remap_fields",
   "one_d_grid_sizes", "nlogprt", "runtime", "inidate", "caltype", "stashmaster_dir",
   "shared_namelist", "regenerate_command"]

def toJson (ctx : RunContext) : Json := .objOfPresent
  [("components", some (.obj (ctx.components.entries.map fun (c, s) => (c.tag, s.toJson)))),
   ("coupling_frequencies",
     some (.obj (ctx.schedules.entries.map fun (d, s) => (d.text, s.toJson)))),
   ("executables", some (.arr (ctx.executables.map .str))),
   ("expout_fields", some ctx.exported.toJson),
   ("create_remap_fields", some ctx.remapped.toJson),
   ("one_d_grid_sizes",
     some (.obj (ctx.vectorLengths.entries.map fun (grid, n) => (grid, .int n.toNat)))),
   ("nlogprt", some (.int ctx.verbosity.toNat)),
   ("runtime", some (.int ctx.runtime.toNat)),
   ("inidate", some (.str ctx.startDate)),
   ("caltype", some (.str ctx.calendar)),
   ("stashmaster_dir", ctx.stashDirectory.map .str),
   ("shared_namelist", ctx.sharedNamelist.map .str),
   ("regenerate_command", ctx.regenerator.map .str)]

def ofDoc? (d : Doc) : Option RunContext := do
  let fields ← d.asFields? keys
  return {
    components := ← Doc.required? fields "components"
      (Doc.asTable? Component.ofTag? ComponentSetup.ofDoc?)
    schedules := ← Doc.defaulted? fields "coupling_frequencies" {}
      (Doc.asTable? (fun text => (Direction.read text).toOption) Schedule.ofDoc?)
    executables := ← Doc.defaulted? fields "executables" [] (Doc.asListOf? Doc.asText?)
    exported := ← Doc.defaulted? fields "expout_fields" {} NameSet.ofDoc?
    remapped := ← Doc.defaulted? fields "create_remap_fields" {} NameSet.ofDoc?
    vectorLengths := ← Doc.defaulted? fields "one_d_grid_sizes" {}
      (Doc.asTable? some Doc.asUInt32?)
    verbosity := ← Doc.defaulted? fields "nlogprt" 0 Doc.asUInt32?
    runtime := ← Doc.required? fields "runtime" Doc.asUInt64?
    startDate := ← Doc.required? fields "inidate" Doc.asText?
    calendar := ← Doc.defaulted? fields "caltype" "1" Doc.asText?
    stashDirectory := ← Doc.optional? fields "stashmaster_dir" Doc.asText?
    sharedNamelist := ← Doc.optional? fields "shared_namelist" Doc.asText?
    regenerator := ← Doc.optional? fields "regenerate_command" Doc.asText?
    baseDirectory := "" }

end RunContext

end Coupling

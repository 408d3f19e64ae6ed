import Coupling.Event
import Coupling.RunContext
import Coupling.Spec

/-!
# Default couplings

A `default` declaration asks for the usual fields of every direction that the run schedules and
whose two components take part in it. Fields that are declared explicitly are not added again.
-/

namespace Coupling

namespace Direction

/-- The usual specifications of a direction, empty where there are none. -/
def defaultSpecs (d : Direction) : List String :=
  match d.origin, d.dest with
  | .ocean, .atmosphere =>
    ["OCN_SST;1;t;ATM;1;CF;500",
     "OCN_ICEFRC;2;t;ATM;1;;",
     "OCN_ICETHICK;3;t;ATM;1;;",
     "OCN_SNOWTHICK;4;t;ATM;1;;",
     "OCN_UCURR;5;u;ATM;1;Bi;",
     "OCN_VCURR;6;v;ATM;1;;"]
  | .atmosphere, .ocean =>
    ["ATM_TAUX;11;u;OCN;1;Bi;600",
     "ATM_TAUY;12;v;OCN;1;;",
     "ATM_SOLAR;13;t;OCN;1;CF;",
     "ATM_NONSOLAR;14;t;OCN;1;;",
     "ATM_TRAIN;15;t;OCN;1;;",
     "ATM_TSNOW;16;t;OCN;1;;",
     "ATM_EVAP;17;t;OCN;1;;",
     "ATM_MSLP;18;t;OCN;1;Bi;"]
  | .atmosphere, .river => ["ATM_RIVRUN;21;t;RIV;1;CF;700", "ATM_DRAIN;22;t;RIV;1;;"]
  | .river, .ocean => ["RIV_RIVOUT;31;t;OCN;1;CF;800"]
  | _, _ => []

/-- The usual fields of a direction. -/
def defaultFields (d : Direction) : Except Error (List Field) :=
  Spec.build { origin := d.origin } d.defaultSpecs

end Direction

/-- The scheduled directions whose components both take part in the run, in order. -/
def RunContext.activeDirections (ctx : RunContext) : List Direction :=
  ctx.schedules.keys.filter fun d => ctx.has d.origin && ctx.has d.dest

/-- Whether a field of this name goes to this destination already. -/
def Field.declaredIn (f : Field) (fields : List Field) : Bool :=
  fields.any fun g => g.name = f.name ∧ g.dest = f.dest

/-- The fields with their placeholders replaced by the default couplings that are not declared
explicitly, which follow all others. Without a placeholder nothing changes. -/
def expandDefaults (ctx : RunContext) (fields : List Field) : Logged (List Field) :=
  if fields.any Field.isPlaceholder then do
    let explicit := fields.filter fun f => !f.isPlaceholder
    let usual ← Logged.of (ctx.activeDirections.mapM Direction.defaultFields)
    let added := usual.flatten.filter fun f => !f.declaredIn explicit
    let count := added.length
    Logged.report ⟨.info, "expanded default couplings", [("added", s!"{count}")]⟩
    return explicit ++ added
  else pure fields

end Coupling

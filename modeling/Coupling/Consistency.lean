import Coupling.Event
import Coupling.RunContext

/-!
# Consistency of a run

Checks across components and fields, run before anything is written:

* `checkLevels`: the two atmospheres agree on the levels that both give;
* `tightening`: a primary period above the statistics period of its direction is lowered to it;
* `checkWeights`: no two written fields share a weight;
* `check` runs them in this order and returns the run context as it is afterwards.
-/

namespace Coupling

namespace RunContext

/-- Two counts that are both given have to be equal. -/
def checkAgreement (kind : Kind) (what : String) :
    Option UInt32 → Option UInt32 → Except Error Unit
  | some a, some j =>
    if a = j then .ok ()
    else
      let a := a.toNat
      let j := j.toNat
      .error (.of kind s!"ATM has {a} {what} levels but JNR has {j}")
  | _, _ => .ok ()

/-- The two atmospheres agree on model levels and on soil levels. -/
def checkLevels (ctx : RunContext) : Except Error Unit :=
  match ctx.components.get? .atmosphere, ctx.components.get? .junior with
  | some a, some j => do
    checkAgreement .differentModelLevels "model" a.modelLevels j.modelLevels
    checkAgreement .differentSoilLevels "soil" a.soilLevels j.soilLevels
  | _, _ => .ok ()

end RunContext

/-- The statistics period, if it is shorter than the primary one. -/
def Schedule.excess? (s : Schedule) : Option UInt32 := s.statistics.filter (· < s.primary)

/-- The report on a schedule whose primary period is lowered to the statistics period. -/
def Schedule.lowering (d : Direction) (s : Schedule) (statistics : UInt32) : Event :=
  let primary := s.primary.toNat
  let statistics := statistics.toNat
  ⟨.info, "tightening coupling frequency to statistics frequency",
    [("direction", d.text), ("from", s!"{primary}"), ("to", s!"{statistics}")]⟩

/-- A run context while its schedules are tightened. -/
structure Tightening where
  context : RunContext
  /-- The number of schedules that have been changed. -/
  changed : Nat := 0
  events : List Event := []
  deriving DecidableEq

/-- Lowers the primary period of one schedule, if it has to be. -/
def Tightening.step (t : Tightening) (d : Direction) (s : Schedule) : Tightening :=
  match s.excess? with
  | some statistics => {
    context := { t.context with
      schedules := t.context.schedules.insert d { s with primary := statistics } }
    changed := t.changed + 1
    events := t.events ++ [s.lowering d statistics] }
  | none => t

/-- Tightens the schedules of a run in order of direction. -/
def RunContext.tightening (ctx : RunContext) : Tightening :=
  ctx.schedules.entries.foldl (fun t e => t.step e.1 e.2) { context := ctx }

/-- The error for two written fields of one weight. -/
def clash (previous f : Field) : Error :=
  let weight := f.weight.toInt
  let user (f : Field) : String := s!"{f.name} ({f.direction})"
  let e := Error.of .duplicateWeight
    s!"weight {weight} is used by both {user previous} and {user f}"
  e.note "weight" s!"{weight}"

/-- No field shares its weight with another one or with one of the fields `seen` before. -/
def checkWeightsAfter (seen : List Field) : List Field → Except Error Unit
  | [] => .ok ()
  | f :: rest =>
    match seen.find? fun g => g.weight = f.weight with
    | some previous => .error (clash previous f)
    | none => checkWeightsAfter (f :: seen) rest

/-- The fields that are written. -/
def retained (fields : List Field) : List Field := fields.filter fun f => !f.isRemoved

/-- No two written fields share a weight. -/
def checkWeights (fields : List Field) : Except Error Unit :=
  checkWeightsAfter [] (retained fields)

/-- What the checks come to, and the run context they leave. -/
structure Check where
  outcome : Logged Unit
  context : RunContext

/-- Runs the checks. A disagreement on levels leaves the run context as it was. -/
def RunContext.check (ctx : RunContext) (fields : List Field) : Check :=
  match ctx.checkLevels with
  | .error e => ⟨⟨.error e, []⟩, ctx⟩
  | .ok () =>
    let t := ctx.tightening
    ⟨⟨checkWeights fields, t.events⟩, t.context⟩

end Coupling

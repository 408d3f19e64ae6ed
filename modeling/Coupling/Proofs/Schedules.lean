import Coupling.Consistency
import Coupling.Proofs.Tables

/-!
# Tightening the schedules of a run

The schedules of a run are tightened one after the other, each at its place in the table:

* `RunContext.tighten` tightens all of them at once, and `RunContext.tightenings` are the reports on
  those that change;
* `Tightening.Reached` says how far a pass has come. A step takes it to the next schedule
  (`Reached.step`), so a whole pass reaches the end (`Reached.foldl`);
* `tightening_eq`: the pass comes to all of this, and counts the schedules that it changes.
-/

namespace Coupling

namespace Schedule

/-- The schedule with a primary period no longer than the statistics period. -/
def tighten (s : Schedule) : Schedule := { s with primary := s.excess?.getD s.primary }

def tightening? (d : Direction) (s : Schedule) : Option Event := s.excess?.map (s.lowering d)

theorem tighten_tighten (s : Schedule) : s.tighten.tighten = s.tighten := by
  obtain ⟨primary, statistics⟩ := s
  cases statistics with
  | none => rfl
  | some period =>
    by_cases longer : period < primary
    · simp [tighten, excess?, Option.filter_some, longer]
    · simp [tighten, excess?, Option.filter_some, longer]

end Schedule

namespace RunContext

def tighten (ctx : RunContext) : RunContext :=
  { ctx with schedules := ctx.schedules.mapValues fun _ s => s.tighten }

/-- The reports of the schedules that `tighten` changes, in order of direction. -/
def tightenings (ctx : RunContext) : List Event :=
  ctx.schedules.entries.filterMap fun (d, s) => s.tightening? d

theorem tighten_tighten (ctx : RunContext) : ctx.tighten.tighten = ctx.tighten := by
  have entries : ctx.tighten.tighten.schedules = ctx.tighten.schedules := by
    apply Table.ext
    show (ctx.schedules.entries.map _).map _ = ctx.schedules.entries.map _
    rw [List.map_map]
    apply List.map_congr_left
    intro e _
    exact congrArg (Prod.mk e.1) e.2.tighten_tighten
  show { ctx with schedules := ctx.tighten.tighten.schedules } = ctx.tighten
  rw [entries]
  rfl

theorem keys_tighten (ctx : RunContext) : ctx.tighten.schedules.keys = ctx.schedules.keys := by
  show (ctx.schedules.entries.map _).map _ = ctx.schedules.entries.map _
  rw [List.map_map]
  rfl

end RunContext

namespace Tightening

/-- A pass over the schedules of a run has come so far: those in `done` are tightened, counted and
reported, and those in `rest` are as they were. -/
structure Reached (ctx : RunContext) (done rest : List (Direction × Schedule)) (t : Tightening) :
    Prop where
  frame : { t.context with schedules := ctx.schedules } = ctx
  entries : t.context.schedules.entries = done.map (fun e => (e.1, e.2.tighten)) ++ rest
  changed : t.changed = done.countP fun e => e.2.excess?.isSome
  events : t.events = done.filterMap fun e => e.2.tightening? e.1

variable {ctx : RunContext} {done rest : List (Direction × Schedule)} {d : Direction}
  {s : Schedule} {t : Tightening}

theorem Reached.step (h : t.Reached ctx done ((d, s) :: rest)) :
    (t.step d s).Reached ctx (done ++ [(d, s)]) rest := by
  obtain ⟨frame, entries, changed, events⟩ := h
  cases excess : s.excess? with
  | none =>
    have same : s.tighten = s := by rw [Schedule.tighten, excess, Option.getD_none]
    have unchanged : t.step d s = t := by rw [Tightening.step, excess]
    rw [unchanged]
    constructor
    · exact frame
    · simp [entries, same]
    · simp [changed, excess]
    · simp [events, Schedule.tightening?, excess]
  | some statistics =>
    have lowered : s.tighten = { s with primary := statistics } := by
      rw [Schedule.tighten, excess, Option.getD_some]
    have replaced := Table.entries_insert_of_split entries s.tighten
    rw [lowered] at replaced
    rw [Tightening.step, excess]
    constructor
    · exact frame
    · simp [replaced, lowered]
    · simp [changed, excess]
    · simp [events, Schedule.tightening?, excess]

theorem Reached.foldl (h : t.Reached ctx done rest) :
    (rest.foldl (fun t e => t.step e.1 e.2) t).Reached ctx (done ++ rest) [] := by
  induction rest generalizing done t with
  | nil => simpa using h
  | cons e rest ih =>
    have later := ih h.step
    rwa [List.append_assoc] at later

end Tightening

namespace RunContext

/-- A pass tightens every schedule, and counts and reports those that it changes. -/
theorem tightening_eq (ctx : RunContext) : ctx.tightening =
    ⟨ctx.tighten, ctx.schedules.entries.countP fun e => e.2.excess?.isSome, ctx.tightenings⟩ := by
  have start : Tightening.Reached ctx [] ctx.schedules.entries { context := ctx } :=
    ⟨rfl, rfl, rfl, rfl⟩
  obtain ⟨frame, entries, changed, events⟩ := start.foldl
  rw [List.append_nil] at entries
  have schedules : ctx.tightening.context.schedules = ctx.tighten.schedules := Table.ext entries
  have context : ctx.tightening.context = ctx.tighten := calc
    ctx.tightening.context
      = { ctx.tightening.context with schedules := ctx.tighten.schedules } := by rw [← schedules]
    _ = ctx.tighten :=
      congrArg (fun c : RunContext => { c with schedules := ctx.tighten.schedules }) frame
  show Tightening.mk ctx.tightening.context ctx.tightening.changed ctx.tightening.events = _
  rw [context]
  exact congr (congrArg _ changed) events

end RunContext

end Coupling

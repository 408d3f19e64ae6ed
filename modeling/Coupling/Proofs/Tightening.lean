import Coupling.Proofs.Clashes
import Coupling.Proofs.DefaultRun
import Coupling.Proofs.Provenance

/-!
# What the checks leave behind

The checks of a run compare the levels of the two atmospheres, lower primary periods and compare the
weights, in this order:

* `Schedule.lowered`: the primary period of a schedule is lowered to the statistics period where
  that is shorter (`Schedule.tighten_eq`), and nothing else happens to a run context (`Lowers`). The
  pass that does this counts the schedules that it lowers (`Tightens`);
* `Disagreement`: the error for two counts of levels that differ; `checkLevels_eq_error_iff` says
  which one is reported;
* `Leaves`: how the checks end and the run context they leave. One whose levels differ is left as it
  was, and every other one is lowered, also where the weights clash (`check_leaves`);
* `HasPeriodsOf`: what a compilation writes are the lowered periods of the run it was made from;
* `checks_lower_periods` puts this together.
-/

namespace Coupling

/-! ## Schedules -/

namespace Schedule

/-- The primary period, or the statistics period where that is shorter. -/
def lowered (s : Schedule) : UInt32 := s.statistics.elim s.primary (min s.primary)

theorem excess?_eq_some_iff {s : Schedule} {period : UInt32} :
    s.excess? = some period ↔ s.statistics = some period ∧ period < s.primary := by
  rw [excess?, Option.filter_eq_some_iff, decide_eq_true_eq]

theorem excess?_getD (s : Schedule) : s.excess?.getD s.primary = s.lowered := by
  obtain ⟨primary, statistics⟩ := s
  cases statistics with
  | none => rfl
  | some period =>
    show ((some period).filter (· < primary)).getD primary = min primary period
    rw [Option.filter_some, Std.min_eq_if]
    by_cases shorter : period < primary
    · simp [shorter]
    · simp [shorter]

/-- Lowering changes nothing but the primary period. -/
theorem tighten_eq (s : Schedule) : s.tighten = { s with primary := s.lowered } := by
  rw [tighten, excess?_getD]

theorem lowered_lt_iff {s : Schedule} : s.lowered < s.primary ↔ s.excess?.isSome = true := by
  rw [← s.excess?_getD]
  cases excess : s.excess? with
  | none => simp
  | some period => simpa using (excess?_eq_some_iff.1 excess).2

theorem lowered_le (s : Schedule) : s.lowered ≤ s.primary := by
  rw [← s.excess?_getD]
  cases excess : s.excess? with
  | none => exact UInt32.le_refl _
  | some period => exact UInt32.le_of_lt (excess?_eq_some_iff.1 excess).2

/-- A lowered schedule has nothing left to lower. -/
theorem excess?_tighten (s : Schedule) : s.tighten.excess? = none := by
  have kept : s.tighten.lowered = s.tighten.primary :=
    (congrArg Schedule.primary s.tighten.tighten_eq).symm.trans
      (congrArg Schedule.primary s.tighten_tighten)
  rw [← Option.not_isSome_iff_eq_none, ← lowered_lt_iff, kept]
  exact UInt32.lt_irrefl _

end Schedule

/-! ## Run contexts -/

/-- `after` is the run context with its primary periods lowered, and the same otherwise. -/
structure RunContext.Lowers (ctx after : RunContext) : Prop where
  frame : { after with schedules := ctx.schedules } = ctx
  schedules : ∀ d, after.schedules.get? d =
    (ctx.schedules.get? d).map fun s => { s with primary := s.lowered }
  never_raised : ∀ d s s', ctx.schedules.get? d = some s → after.schedules.get? d = some s' →
    s'.primary ≤ s.primary ∧ s'.statistics = s.statistics
  /-- Lowering once more changes nothing, counts nothing and reports nothing. -/
  again : after.tightening = { context := after, changed := 0, events := [] }

/-- A pass over the schedules lowers the run context and counts the schedules whose period is lower
now, with one report for each. -/
structure RunContext.Tightens (ctx : RunContext) (t : Tightening) : Prop extends
    ctx.Lowers t.context where
  changed : t.changed = ctx.schedules.entries.countP fun e => e.2.lowered < e.2.primary
  events : t.events.length = t.changed

/-- The error for two atmospheres that differ in a setting. -/
def RunContext.Disagreement (ctx : RunContext) (kind : Kind) (what : String)
    (setting : ComponentSetup → Option UInt32) (e : Error) : Prop :=
  ∃ a j, ctx.Gives .atmosphere setting a ∧ ctx.Gives .junior setting j ∧ a ≠ j ∧
    e = .of kind s!"ATM has {a.toNat} {what} levels but JNR has {j.toNat}"

namespace RunContext

variable {ctx : RunContext}

theorem get?_tighten (ctx : RunContext) (d : Direction) : ctx.tighten.schedules.get? d =
    (ctx.schedules.get? d).map fun s => { s with primary := s.lowered } := by
  rw [tighten, Table.get?_mapValues]
  exact congrArg (fun f => (ctx.schedules.get? d).map f) (funext Schedule.tighten_eq)

theorem length_tightenings (ctx : RunContext) :
    ctx.tightenings.length = ctx.schedules.entries.countP fun e => e.2.excess?.isSome := by
  rw [tightenings, List.length_filterMap_eq_countP]
  simp only [Schedule.tightening?, Option.isSome_map]

/-- Only a schedule that is longer than it has to be is changed. -/
theorem changed_tightening (ctx : RunContext) : ctx.tightening.changed =
    ctx.schedules.entries.countP fun e => e.2.lowered < e.2.primary := by
  rw [tightening_eq]
  simp only [Schedule.lowered_lt_iff, Bool.decide_eq_true]

theorem tightening_tighten (ctx : RunContext) :
    ctx.tighten.tightening = { context := ctx.tighten, changed := 0, events := [] } := by
  have settled : ∀ e ∈ ctx.tighten.schedules.entries, e.2.excess? = none := by
    intro e member
    obtain ⟨e, -, rfl⟩ := List.mem_map.1 member
    exact e.2.excess?_tighten
  have changed : ctx.tighten.schedules.entries.countP (fun e => e.2.excess?.isSome) = 0 := by
    rw [List.countP_eq_zero]
    intro e member
    simp [settled e member]
  have events : ctx.tighten.tightenings = [] :=
    List.length_eq_zero_iff.1 (ctx.tighten.length_tightenings.trans changed)
  rw [tightening_eq, tighten_tighten, changed, events]

theorem lowers_tighten (ctx : RunContext) : ctx.Lowers ctx.tighten where
  frame := rfl
  schedules := ctx.get?_tighten
  never_raised d s s' before after := by
    rw [get?_tighten, before, Option.map_some, Option.some.injEq] at after
    subst after
    exact ⟨s.lowered_le, rfl⟩
  again := ctx.tightening_tighten

theorem tightens_tightening (ctx : RunContext) : ctx.Tightens ctx.tightening where
  toLowers := by
    rw [tightening_eq]
    exact ctx.lowers_tighten
  changed := ctx.changed_tightening
  events := by
    rw [tightening_eq]
    exact ctx.length_tightenings

/-! ## Levels -/

section
variable {kind : Kind} {what : String} {setting : ComponentSetup → Option UInt32} {e : Error}

theorem Disagreement.kind? (h : ctx.Disagreement kind what setting e) : e.kind? = some kind := by
  obtain ⟨a, j, -, -, -, rfl⟩ := h
  exact Error.kind?_of _ _

theorem agreeOn_iff_no_disagreement (kind : Kind) (what : String) :
    ctx.AgreeOn setting ↔ ∀ e, ¬ ctx.Disagreement kind what setting e := by
  constructor
  · rintro agree e ⟨a, j, atmosphere, junior, different, -⟩
    exact different (agree a j atmosphere junior)
  · intro none_ a j atmosphere junior
    by_contra different
    exact none_ _ ⟨a, j, atmosphere, junior, different, rfl⟩

theorem checkAgreement_eq_error_iff {o o' : Option UInt32} :
    checkAgreement kind what o o' = .error e ↔ ∃ a j, o = some a ∧ o' = some j ∧ a ≠ j ∧
      e = .of kind s!"ATM has {a.toNat} {what} levels but JNR has {j.toNat}" := by
  cases o with
  | none => simp [checkAgreement]
  | some a =>
    cases o' with
    | none => simp [checkAgreement]
    | some j =>
      simp only [checkAgreement, Option.some.injEq, exists_and_left, exists_eq_left', ne_eq]
      split
      · next same => simp [same]
      · next different =>
        simp only [different, not_false_eq_true, true_and, Except.error.injEq]
        exact eq_comm

theorem disagreement_iff {a j : ComponentSetup}
    (atmosphere : ctx.components.get? .atmosphere = some a)
    (junior : ctx.components.get? .junior = some j) :
    ctx.Disagreement kind what setting e ↔
      checkAgreement kind what (setting a) (setting j) = .error e := by
  simp only [checkAgreement_eq_error_iff, Disagreement, Gives, atmosphere, junior,
    Option.some.injEq, exists_eq_left']

theorem not_disagreement_of_missing (missing : ctx.components.get? .atmosphere = none ∨
    ctx.components.get? .junior = none) : ¬ ctx.Disagreement kind what setting e :=
  (agreeOn_iff_no_disagreement kind what).1 (agreeOn_of_missing missing) e

/-- The atmospheres are compared where both are configured, model levels first. -/
theorem checkLevels_eq_error_iff : ctx.checkLevels = .error e ↔
    ctx.Disagreement .differentModelLevels "model" ComponentSetup.modelLevels e ∨
      ctx.AgreeOn ComponentSetup.modelLevels ∧
        ctx.Disagreement .differentSoilLevels "soil" ComponentSetup.soilLevels e := by
  unfold checkLevels
  cases atmosphere : ctx.components.get? .atmosphere with
  | none => simp [not_disagreement_of_missing (.inl atmosphere)]
  | some a =>
    cases junior : ctx.components.get? .junior with
    | none => simp [not_disagreement_of_missing (.inr junior)]
    | some j =>
      rw [agreeOn_iff_no_disagreement .differentModelLevels "model"]
      simp only [disagreement_iff atmosphere junior, bind_eq_error]
      cases checkAgreement .differentModelLevels "model" a.modelLevels j.modelLevels with
      | ok => simp
      | error e' => simp

theorem checkLevels_eq_ok_iff : ctx.checkLevels = .ok () ↔
    ctx.AgreeOn ComponentSetup.modelLevels ∧ ctx.AgreeOn ComponentSetup.soilLevels := by
  have single : (∃ u, ctx.checkLevels = .ok u) ↔ ctx.checkLevels = .ok () :=
    ⟨fun ⟨(), passed⟩ => passed, fun passed => ⟨(), passed⟩⟩
  rw [← single, ctx.checkLevels_checks.exists_ok_iff]
  simp

end

end RunContext

/-! ## The checks -/

theorem kind?_of_checkWeights {fields : List Field} {e : Error}
    (h : checkWeights fields = .error e) : e.kind? = some .duplicateWeight := by
  obtain ⟨_, _, f, g, -, rfl⟩ := firstClash_of_checkWeights h
  simp [clash]

/-- How the checks of a run end, and the run context that they leave. -/
structure RunContext.Leaves (ctx : RunContext) (fields : List Field) (check : Check) : Prop where
  modelLevels : ∀ e, check.outcome.result = .error e ∧ e.kind? = some .differentModelLevels ↔
    ctx.Disagreement .differentModelLevels "model" ComponentSetup.modelLevels e
  soilLevels : ∀ e, check.outcome.result = .error e ∧ e.kind? = some .differentSoilLevels ↔
    ctx.AgreeOn ComponentSetup.modelLevels ∧
      ctx.Disagreement .differentSoilLevels "soil" ComponentSetup.soilLevels e
  /-- Where the levels differ, nothing is done to the run context. -/
  untouched : ¬ (ctx.AgreeOn ComponentSetup.modelLevels ∧ ctx.AgreeOn ComponentSetup.soilLevels) →
    check.context = ctx ∧ check.outcome.events = []
  /-- Everywhere else it is lowered and reports that, whatever the check of the weights comes to. -/
  lowered : ctx.AgreeOn ComponentSetup.modelLevels ∧ ctx.AgreeOn ComponentSetup.soilLevels →
    ctx.Lowers check.context ∧ check.outcome = ⟨checkWeights fields, ctx.tightening.events⟩

theorem RunContext.check_leaves (ctx : RunContext) (fields : List Field) :
    ctx.Leaves fields (ctx.check fields) := by
  have ends {e : Error} : (ctx.check fields).outcome.result = .error e ↔
      ctx.checkLevels = .error e ∨ ctx.checkLevels = .ok () ∧ checkWeights fields = .error e := by
    rw [check_result, bind_eq_error]
    exact or_congr_right ⟨fun ⟨(), fails⟩ => fails, fun fails => ⟨(), fails⟩⟩
  refine ⟨fun e => ?_, fun e => ?_, fun differ => ?_, fun agree => ?_⟩
  · rw [ends, checkLevels_eq_error_iff]
    constructor
    · rintro ⟨(model | ⟨-, soil⟩) | ⟨-, weights⟩, kind⟩
      · exact model
      · cases soil.kind?.symm.trans kind
      · cases (kind?_of_checkWeights weights).symm.trans kind
    · intro model
      exact ⟨.inl (.inl model), model.kind?⟩
  · rw [ends, checkLevels_eq_error_iff]
    constructor
    · rintro ⟨(model | soil) | ⟨-, weights⟩, kind⟩
      · cases model.kind?.symm.trans kind
      · exact soil
      · cases (kind?_of_checkWeights weights).symm.trans kind
    · intro soil
      exact ⟨.inl (.inr soil), soil.2.kind?⟩
  · unfold check
    cases levels : ctx.checkLevels with
    | ok => exact absurd (checkLevels_eq_ok_iff.1 levels) differ
    | error e => exact ⟨rfl, rfl⟩
  · have levels := checkLevels_eq_ok_iff.2 agree
    unfold check
    rw [levels]
    exact ⟨ctx.tightens_tightening.toLowers, rfl⟩

/-! ## Written periods -/

/-- The period of every written field without one of its own is, by its selector, the lowered
primary period or the statistics period of its direction in the run. -/
structure Compiled.HasPeriodsOf (c : Compiled) (ctx : RunContext) : Prop where
  total : c.rendered.fields.length = (retained c.fields).length
  period : ∀ (i : Nat) (f : Field) (s : Summary), (retained c.fields)[i]? = some f →
    c.rendered.fields[i]? = some s → f.period = none →
    ∃ schedule, ctx.schedules.get? f.direction = some schedule ∧
      (f.selector = 0 ∧ s.period = schedule.lowered ∨
        f.selector = 1 ∧ schedule.statistics = some s.period)

/-- The period of a field in a tightened run. -/
theorem RunContext.period_tighten {ctx : RunContext} {f : Field} {seconds : UInt32}
    (h : ctx.tighten.period f = .ok seconds) (without : f.period = none) :
    ∃ schedule, ctx.schedules.get? f.direction = some schedule ∧
      (f.selector = 0 ∧ seconds = schedule.lowered ∨
        f.selector = 1 ∧ schedule.statistics = some seconds) := by
  rw [period, without] at h
  obtain ⟨_, found, picked⟩ := bind_eq_ok.1 h
  rw [(ctx.tighten.schedule_answers f.direction).eq_ok_iff, get?_tighten,
    Option.map_eq_some_iff] at found
  obtain ⟨schedule, scheduled, rfl⟩ := found
  refine ⟨schedule, scheduled, ?_⟩
  unfold Schedule.select at picked
  by_cases first : f.selector = 0
  · rw [if_pos first] at picked
    exact .inl ⟨first, (Except.ok.inj picked).symm⟩
  · rw [if_neg first] at picked
    by_cases second : f.selector = 1
    · rw [if_pos second] at picked
      cases given : schedule.statistics with
      | none => simp [given] at picked
      | some period =>
        rw [given] at picked
        exact .inr ⟨second, congrArg some (Except.ok.inj picked)⟩
    · rw [if_neg second] at picked
      cases picked

theorem Stages.hasPeriodsOf {read : FileReader} {ctx : RunContext} {requests : List Request}
    {explicit records : List Field} {c : Compiled}
    (s : Stages read ctx requests explicit records c) : c.HasPeriodsOf ctx := by
  obtain ⟨p, written, out⟩ := render_eq_ok_iff.1 s.rendered
  refine ⟨s.summary.1, fun i f t hf ht without => ?_⟩
  obtain ⟨e, -, of, place, -⟩ := written.emission hf
  rw [out] at ht
  obtain rfl : t = e.summary := Option.some.inj (ht.symm.trans place)
  have period := of.period
  rw [s.context] at period
  exact RunContext.period_tighten period without

/-- **The checks lower periods and nothing else.** Tightening lowers each primary period to the
statistics period of its direction, and returns how many it lowered. The checks of a run report the
first setting in which the atmospheres differ and then leave the run context as it was. Otherwise
they tighten it, whether or not the weights clash, and the lowered periods are those that a
compilation writes. -/
theorem checks_lower_periods (ctx : RunContext) :
    ctx.Tightens ctx.tightening ∧ (∀ fields, ctx.Leaves fields (ctx.check fields)) ∧
      ∀ read requests c, (compile read ctx requests).result = .ok c → c.HasPeriodsOf ctx := by
  refine ⟨ctx.tightens_tightening, ctx.check_leaves, fun read requests c compiled => ?_⟩
  obtain ⟨explicit, records, s⟩ := compile_eq_ok_iff.1 compiled
  exact s.hasPeriodsOf

/-- The primary period is too long in one direction of this run and short enough in the other. -/
def looseRun : RunContext :=
  { riverRun with
    schedules := Table.ofList [(⟨.river, .ocean⟩, ⟨10800, some 3600⟩),
      (⟨.ocean, .river⟩, ⟨1800, some 3600⟩)] }

def looseRequests : List Request :=
  [⟨{ origin := .river }, ["runoff;1;t;OCN;;0D;2"]⟩, ⟨{ origin := .ocean }, ["heat;5;t;RIV;;0D;4"]⟩,
   ⟨{ origin := .ocean, selector := 1 }, ["salt;6;t;RIV;;0D;6"]⟩]

theorem checks_lower_periods_loose : ∃ c, (compile noFiles looseRun looseRequests).result = .ok c ∧
    c.HasPeriodsOf looseRun ∧ c.rendered.fields.map Summary.period = [3600, 1800, 3600] := by
  obtain ⟨records, built, explicit, sorted, weights, out, rendered, periods⟩ :
      ∃ records, Request.buildAll looseRequests = .ok records ∧
        records.any Field.isPlaceholder = false ∧
        (records.Pairwise fun a b => a.weight ≤ b.weight) ∧ checkWeights records = .ok () ∧
        ∃ out, (render looseRun.tighten (catalogue noFiles looseRun.tighten) records).result =
          .ok out ∧ out.fields.map Summary.period = [3600, 1800, 3600] :=
    ⟨_, rfl, rfl, by decide, rfl, _, rfl, rfl⟩
  have compiled := compile_of_sorted built explicit sorted rfl weights rendered
  obtain ⟨-, -, written⟩ := checks_lower_periods looseRun
  exact ⟨_, compiled, written _ _ _ compiled, periods⟩

end Coupling

import Coupling.Proofs.Checking
import Coupling.RunContext

/-!
# Look-ups in a run context

What a run has to be configured with for its look-ups to succeed:

* `Configured c` and `Gives c setting a`: a component is configured, and with which value of a
  setting. Every look-up of a setting goes to the component first (`setting_checks`), so a missing
  component is reported before a missing setting;
* `period_checks`: a field has a period of its own or one in the schedule of its direction.
-/

namespace Coupling

namespace RunContext

/-- The component is configured. -/
def Configured (ctx : RunContext) (c : Component) : Prop :=
  ∃ setup, ctx.components.get? c = some setup

/-- The component is configured, with this value of a setting. -/
def Gives {α : Type} (ctx : RunContext) (c : Component) (setting : ComponentSetup → Option α)
    (a : α) : Prop :=
  ∃ setup, ctx.components.get? c = some setup ∧ setting setup = some a

/-- The vector length that is configured for the grid of a component. -/
def vectorSetting (ctx : RunContext) (setup : ComponentSetup) : Option UInt32 :=
  ctx.vectorLengths.get? setup.grid

variable {ctx : RunContext} {c : Component}

theorem Gives.unique {α : Type} {setting : ComponentSetup → Option α} {a b : α}
    (h : ctx.Gives c setting a) (h' : ctx.Gives c setting b) : a = b := by
  obtain ⟨setup, found, given⟩ := h
  obtain ⟨setup', found', given'⟩ := h'
  obtain rfl := Option.some.inj (found.symm.trans found')
  exact Option.some.inj (given.symm.trans given')

theorem component_answers (ctx : RunContext) (c : Component) :
    Answers (ctx.components.get? c) .missingEntry (ctx.component c) := by
  unfold component
  cases ctx.components.get? c with
  | some setup => rfl
  | none => exact ⟨_, rfl, by simp [missing]⟩

theorem component_checks (ctx : RunContext) (c : Component) :
    Checks (ctx.component c) [⟨.missingEntry, ctx.Configured c⟩] :=
  (ctx.component_answers c).checks

theorem schedule_answers (ctx : RunContext) (d : Direction) :
    Answers (ctx.schedules.get? d) .missingEntry (ctx.schedule d) := by
  unfold schedule
  cases ctx.schedules.get? d with
  | some s => rfl
  | none => exact ⟨_, rfl, by simp [missing]⟩

section
variable {α : Type} {setting : ComponentSetup → Option α} {kind : Kind}
  {value : ComponentSetup → Except Error α}

/-- A setting of a component is found where the component is configured with it. -/
theorem setting_eq_ok_iff (answers : ∀ setup, Answers (setting setup) kind (value setup)) {a : α} :
    ctx.component c >>= value = .ok a ↔ ctx.Gives c setting a := by
  simp only [bind_eq_ok, (ctx.component_answers c).eq_ok_iff, (answers _).eq_ok_iff, Gives]

/-- A setting is missing where its component is not configured, or not with it. -/
theorem setting_checks (answers : ∀ setup, Answers (setting setup) kind (value setup))
    (known : kind = .missingEntry ∨ ctx.Configured c) :
    Checks (ctx.component c >>= value) [⟨kind, ∃ a, ctx.Gives c setting a⟩] := by
  refine .single ?_ ?_
  · intro a found
    exact ⟨a, (setting_eq_ok_iff answers).1 found⟩
  · intro e fails
    refine ⟨?_, ?_⟩
    · rintro ⟨a, gives⟩
      exact absurd (fails.symm.trans ((setting_eq_ok_iff answers).2 gives)) nofun
    · cases outcome : ctx.component c with
      | ok setup =>
        rw [outcome] at fails
        exact (answers setup).kind?_of_error fails
      | error e' =>
        rw [outcome] at fails
        obtain rfl : e' = e := Except.error.inj fails
        rcases known with rfl | ⟨setup, configured⟩
        · exact (ctx.component_answers c).kind?_of_error outcome
        · have found := (ctx.component_answers c).eq_ok_iff.2 configured
          exact absurd (outcome.symm.trans found) nofun

end

theorem modelLevels_answers (c : Component) (setup : ComponentSetup) :
    Answers setup.modelLevels .missingEntry
      (match setup.modelLevels with
        | some n => .ok n
        | none => .error (missing s!"{c} model_levels")) := by
  cases setup.modelLevels with
  | some n => rfl
  | none => exact ⟨_, rfl, by simp [missing]⟩

theorem soilLevels_answers (c : Component) (setup : ComponentSetup) :
    Answers setup.soilLevels .missingEntry
      (match setup.soilLevels with
        | some n => .ok n
        | none => .error (missing s!"{c} soil_levels")) := by
  cases setup.soilLevels with
  | some n => rfl
  | none => exact ⟨_, rfl, by simp [missing]⟩

theorem modelLevels_eq_ok_iff {levels : UInt32} :
    ctx.modelLevels c = .ok levels ↔ ctx.Gives c ComponentSetup.modelLevels levels :=
  setting_eq_ok_iff (modelLevels_answers c)

theorem modelLevels_checks : Checks (ctx.modelLevels c)
    [⟨.missingEntry, ∃ levels, ctx.Gives c ComponentSetup.modelLevels levels⟩] :=
  setting_checks (modelLevels_answers c) (.inl rfl)

theorem soilLevels_checks : Checks (ctx.soilLevels c)
    [⟨.missingEntry, ∃ levels, ctx.Gives c ComponentSetup.soilLevels levels⟩] :=
  setting_checks (soilLevels_answers c) (.inl rfl)

theorem gridName_checks {letter : Char} :
    Checks (ctx.gridName c letter) [⟨.missingEntry, ctx.Configured c⟩] :=
  (ctx.component_checks c).map

theorem configured_of_gridName {letter : Char} {name : String}
    (h : ctx.gridName c letter = .ok name) : ctx.Configured c :=
  gridName_checks.ok name h _ (List.mem_singleton_self _)

theorem resolution_checks (configured : ctx.Configured c) : Checks (ctx.resolution c)
    [⟨.missingResolution, ∃ size, ctx.Gives c ComponentSetup.resolution size⟩] := by
  refine setting_checks ?_ (.inr configured)
  intro setup
  cases setup.resolution with
  | some size => rfl
  | none => exact ⟨_, rfl, by simp⟩

theorem vectorLength_checks (configured : ctx.Configured c) : Checks (ctx.vectorLength c)
    [⟨.unknownVectorLength, ∃ length, ctx.Gives c ctx.vectorSetting length⟩] := by
  refine setting_checks ?_ (.inr configured)
  intro setup
  dsimp only [vectorSetting]
  cases ctx.vectorLengths.get? setup.grid with
  | some length => rfl
  | none => exact ⟨_, rfl, by simp⟩

end RunContext

theorem Schedule.select_eq (s : Schedule) (selector : UInt64) :
    s.select selector = s.toList[selector.toNat]? := by
  obtain ⟨primary, statistics⟩ := s
  by_cases first : selector = 0
  · subst first
    rfl
  by_cases second : selector = 1
  · subst second
    cases statistics <;> rfl
  · have beyond : 2 ≤ selector.toNat := by
      have zero : selector.toNat ≠ 0 := fun same => first (UInt64.toNat_inj.1 same)
      have one : selector.toNat ≠ 1 := fun same => second (UInt64.toNat_inj.1 same)
      omega
    have none_ : (Schedule.mk primary statistics).toList[selector.toNat]? = none := by
      rw [List.getElem?_eq_none_iff]
      cases statistics <;> simp [toList] <;> omega
    rw [none_, select, if_neg first, if_neg second]

namespace Field

/-- A period of the field's own, or a schedule with enough periods. -/
def periodRequirements (f : Field) (ctx : RunContext) : List Requirement :=
  [⟨.missingEntry, f.period ≠ none ∨ ∃ s, ctx.schedules.get? f.direction = some s⟩,
   ⟨.missingFrequency, f.period ≠ none ∨
      ∃ s, ctx.schedules.get? f.direction = some s ∧ f.selector.toNat < s.size⟩]

end Field

theorem RunContext.period_checks (ctx : RunContext) (f : Field) :
    Checks (ctx.period f) (f.periodRequirements ctx) := by
  unfold Field.periodRequirements period
  cases own : f.period with
  | some seconds =>
    refine .passed seconds ?_
    simp
  | none =>
    simp only [ne_eq, not_true_eq_false, false_or]
    refine (ctx.schedule_answers f.direction).checks.bind ?_
    intro s found
    have known := (ctx.schedule_answers f.direction).eq_ok_iff.1 found
    have enough : (∃ s, ctx.schedules.get? f.direction = some s ∧ f.selector.toNat < s.size) ↔
        ∃ seconds, s.select f.selector = some seconds := by
      simp only [known, Option.some.injEq, exists_eq_left', s.select_eq, Schedule.size]
      rw [← Option.isSome_iff_exists, isSome_getElem?]
    refine Checks.congr (Answers.checks ?_) enough.symm
    cases s.select f.selector with
    | some seconds => rfl
    | none => exact ⟨_, rfl, by simp⟩

end Coupling

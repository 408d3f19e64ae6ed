import Coupling.Proofs.HybridFields
import Coupling.Proofs.Tables

/-!
# What a field needs to be written

Every condition that writing a field rests on, in the order in which they are looked at:

* `Field.requirements f ctx read` lists them: a period, then for a hybrid field its name, the
  catalogue and what the catalogue says, and then both grids with their sizes and weights;
* `add_checks`: a field is added exactly when it meets its requirements, and otherwise the first
  that it violates is reported, whatever was written before (`add_failAlike`);
* `renderWith_requirements`: so rendering succeeds exactly when every retained field meets its
  requirements, and otherwise reports the first field that does not, with its weight.
-/

namespace Coupling

namespace Field

section
variable (f : Field) (ctx : RunContext) (read : FileReader)

def gridRequirements : List Requirement :=
  [⟨.missingEntry, ctx.Configured f.origin⟩, ⟨.missingEntry, ctx.Configured f.dest⟩] ++
    match f.mapping with
    | .scalar => []
    | .vector =>
      [⟨.unknownVectorLength, ∃ length, ctx.Gives f.origin ctx.vectorSetting length⟩,
       ⟨.unknownVectorLength, ∃ length, ctx.Gives f.dest ctx.vectorSetting length⟩]
    | _ =>
      [⟨.missingResolution, ∃ size, ctx.Gives f.origin ComponentSetup.resolution size⟩,
       ⟨.missingResolution, ∃ size, ctx.Gives f.dest ComponentSetup.resolution size⟩,
       ⟨.missingRemapping, ¬ (f.mapping = .patch ∧ ctx.remapped.contains f.name = true)⟩]

/-- What a written field needs, in the order in which it is looked at. -/
def requirements : List Requirement :=
  f.periodRequirements ctx ++
    ((if f.hybrid then f.hybridRequirements ctx read else []) ++ f.gridRequirements ctx)

end

variable {f : Field} {ctx : RunContext} {read : FileReader}

theorem dimensions_checks {c : Component} (configured : ctx.Configured c) :
    Checks (f.dimensions ctx c)
      [⟨.missingResolution, ∃ size, ctx.Gives c ComponentSetup.resolution size⟩] :=
  (RunContext.resolution_checks configured).map

theorem remappingLines_checks {source target : String} (kept : f.isRemoved = false)
    (plane : f.isGridless = false) : Checks (f.remappingLines ctx source target)
      [⟨.missingRemapping, ¬ (f.mapping = .patch ∧ ctx.remapped.contains f.name = true)⟩] := by
  unfold remappingLines
  by_cases listed : f.isRemapped ctx = true
  · rw [if_pos listed]
    have listed : ctx.remapped.contains f.name = true := listed
    obtain ⟨notScalar, notVector⟩ := isGridless_eq_false_iff.1 plane
    have notRemoved : f.mapping ≠ .remove := by simpa [isRemoved] using kept
    refine Checks.map (Checks.noting ?_)
    cases mapping : f.mapping with
    | patch => exact .failed (by simp [listed]) (by simp)
    | scalar => exact absurd mapping notScalar
    | vector => exact absurd mapping notVector
    | remove => exact absurd mapping notRemoved
    | _ => exact .passed _ (by simp)
  · rw [if_neg listed]
    have unlisted : ctx.remapped.contains f.name = false := by simpa [isRemapped] using listed
    exact .passed _ (by simp [unlisted])

/-- Both grids are looked up first, whatever the mapping. -/
theorem gridLines_checks (kept : f.isRemoved = false) (seq : UInt32) :
    Checks (f.gridLines ctx seq) (f.gridRequirements ctx) := by
  by_cases scalar : f.mapping = .scalar
  · simp only [gridLines, gridRequirements, scalar]
    exact RunContext.gridName_checks.bind fun _ _ => RunContext.gridName_checks.map
  by_cases vector : f.mapping = .vector
  · simp only [gridLines, gridRequirements, vector]
    refine RunContext.gridName_checks.bind ?_
    intro source from_
    refine RunContext.gridName_checks.bind ?_
    intro target to_
    have sender := RunContext.configured_of_gridName from_
    have receiver := RunContext.configured_of_gridName to_
    exact (RunContext.vectorLength_checks sender).bind fun _ _ =>
      (RunContext.vectorLength_checks receiver).map
  · have plane : f.isGridless = false := isGridless_eq_false_iff.2 ⟨scalar, vector⟩
    have requirements : f.gridRequirements ctx =
        [⟨.missingEntry, ctx.Configured f.origin⟩, ⟨.missingEntry, ctx.Configured f.dest⟩,
         ⟨.missingResolution, ∃ size, ctx.Gives f.origin ComponentSetup.resolution size⟩,
         ⟨.missingResolution, ∃ size, ctx.Gives f.dest ComponentSetup.resolution size⟩,
         ⟨.missingRemapping, ¬ (f.mapping = .patch ∧ ctx.remapped.contains f.name = true)⟩] := by
      unfold gridRequirements
      cases mapping : f.mapping <;> simp_all
    rw [gridLines_plane plane, requirements]
    refine RunContext.gridName_checks.bind ?_
    intro source from_
    refine RunContext.gridName_checks.bind ?_
    intro target to_
    have sender := RunContext.configured_of_gridName from_
    have receiver := RunContext.configured_of_gridName to_
    refine (dimensions_checks sender).bind ?_
    intro sent _
    refine (dimensions_checks receiver).bind ?_
    intro received _
    exact (remappingLines_checks kept plane).map

/-- A field is added when it has everything it needs, and otherwise the first thing that it lacks
is reported. -/
theorem add_checks (kept : f.isRemoved = false) (p : Progress) :
    Checks (p.add ctx (catalogue read ctx) f).result (f.requirements ctx read) := by
  simp only [Progress.add, Logged.result_noting, Logged.result_bind, Logged.result_of]
  refine Checks.noting ((ctx.period_checks f).bind ?_)
  intro period _
  refine Checks.bind ?_ ?_
  · by_cases hybrid : f.hybrid = true
    · rw [resolveWith, if_pos hybrid, if_pos hybrid, Logged.result_of]
      exact resolveHybrid_checks
    · rw [resolveWith, if_neg hybrid, if_neg hybrid, resolveTagged_result]
      exact .passed _ (List.forall_mem_nil _)
  · intro r resolved
    obtain ⟨-, _, _, _, filled⟩ := fills_of_resolveWith resolved
    have kept' : r.field.isRemoved = false := by rw [filled]; exact kept
    have same : r.field.gridRequirements ctx = f.gridRequirements ctx := by rw [filled]; rfl
    exact same ▸ (gridLines_checks kept' _).map.map

/-- What has been written before has no part in what is wrong with a field. -/
theorem gridLines_failAlike (f : Field) (ctx : RunContext) (seq seq' : UInt32) :
    FailAlike (f.gridLines ctx seq) (f.gridLines ctx seq') := by
  unfold gridLines
  refine .bind _ fun _ => .bind _ fun _ => ?_
  cases f.mapping with
  | scalar => exact .ok _ _
  | vector => exact .bind _ fun _ => .bind _ fun _ => .ok _ _
  | _ => exact .bind _ fun _ => .bind _ fun _ => .bind _ fun _ => .ok _ _

theorem add_failAlike (f : Field) (ctx : RunContext)
    (lookup : StashCode → Except Error StashEntry) (p q : Progress) :
    FailAlike (p.add ctx lookup f).result (q.add ctx lookup f).result := by
  simp only [Progress.add, Logged.result_noting, Logged.result_bind, Logged.result_of]
  refine FailAlike.noting _ _ (.bind _ fun _ => .bind _ fun r => ?_)
  exact (r.field.gridLines_failAlike ctx _ _).map.map

end Field

/-- The field meets everything that writing it needs. -/
def Field.Writable (f : Field) (ctx : RunContext) (read : FileReader) : Prop :=
  ∀ q ∈ f.requirements ctx read, q.holds

section
variable {ctx : RunContext} {read : FileReader}

/-- Fields are added until the first one that cannot be written. -/
theorem addAll_stops {fields : List Field} (kept : ∀ f ∈ fields, f.isRemoved = false)
    (p : Progress) :
    (∀ q, (p.addAll ctx (catalogue read ctx) fields).result = .ok q →
      ∀ f ∈ fields, f.Writable ctx read) ∧
    ∀ e, (p.addAll ctx (catalogue read ctx) fields).result = .error e →
      ∃ f, FirstFailing (Field.Writable · ctx read) fields f ∧
        (Progress.add ctx (catalogue read ctx) {} f).result = .error e := by
  induction fields generalizing p with
  | nil =>
    refine ⟨by simp, ?_⟩
    rintro e ⟨⟩
  | cons f fields ih =>
    have checks : Checks (p.add ctx (catalogue read ctx) f).result (f.requirements ctx read) :=
      Field.add_checks (kept f List.mem_cons_self) p
    simp only [Progress.addAll, Logged.result_bind]
    cases outcome : (p.add ctx (catalogue read ctx) f).result with
    | error e' =>
      refine ⟨by rintro q ⟨⟩, ?_⟩
      intro e he
      obtain rfl : e' = e := Except.error.inj he
      obtain ⟨q, first, -⟩ := checks.error e' outcome
      have bad : ¬ f.Writable ctx read := fun fine => first.bad (fine q first.mem)
      exact ⟨f, .head bad, (f.add_failAlike ctx (catalogue read ctx) {} p e').2 outcome⟩
    | ok p' =>
      have fine : f.Writable ctx read := checks.ok p' outcome
      obtain ⟨succeeds, fails⟩ := ih (fun g hg => kept g (List.mem_cons_of_mem f hg)) p'
      refine ⟨?_, ?_⟩
      · intro q hq
        exact List.forall_mem_cons.2 ⟨fine, succeeds q hq⟩
      · intro e he
        obtain ⟨g, first, alone⟩ := fails e he
        exact ⟨g, first.cons fine, alone⟩

/-- An error in adding a field tells the weight of the field. -/
theorem weight_of_add {lookup : StashCode → Except Error StashEntry} {p : Progress} {f : Field}
    {e : Error} (h : (p.add ctx lookup f).result = .error e) :
    e.context.get? "weight" = some s!"{f.weight.toInt}" := by
  rw [Progress.add, Logged.result_noting] at h
  unfold noting at h
  split at h
  · cases h
  · cases h
    exact Table.get?_insert _ _ _

theorem render_error_iff {lookup : StashCode → Except Error StashEntry} {fields : List Field}
    {e : Error} : (render ctx lookup fields).result = .error e ↔
      (Progress.addAll ctx lookup {} (retained fields)).result = .error e := by
  rw [render, Logged.result_bind]
  cases (Progress.addAll ctx lookup {} (retained fields)).result with
  | ok p => simp [bind, Except.bind]
  | error e' => exact FailAlike.error e' e

/-- Rendering succeeds exactly when every retained field has everything that writing it needs. When
it fails, the error is the one of the first field that has not: it would be the same without the
other fields, it tells the field's weight, and its kind is that of the first thing that the field
lacks. -/
theorem renderWith_requirements (read : FileReader) (ctx : RunContext) (fields : List Field) :
    ((∃ out, (renderWith read ctx fields).result = .ok out) ↔
        ∀ f ∈ retained fields, f.Writable ctx read) ∧
      ∀ e, (renderWith read ctx fields).result = .error e →
        ∃ f, FirstFailing (Field.Writable · ctx read) (retained fields) f ∧
          (renderWith read ctx [f]).result = .error e ∧
          e.context.get? "weight" = some s!"{f.weight.toInt}" ∧
          ∃ q, FirstFailing Requirement.holds (f.requirements ctx read) q ∧
            e.kind? = some q.kind := by
  have kept : ∀ f ∈ retained fields, f.isRemoved = false := by
    intro f hf
    simpa using (List.mem_filter.1 hf).2
  obtain ⟨succeeds, fails⟩ := addAll_stops kept {}
  have report : ∀ e, (renderWith read ctx fields).result = .error e →
      ∃ f, FirstFailing (Field.Writable · ctx read) (retained fields) f ∧
        (Progress.add ctx (catalogue read ctx) {} f).result = .error e := by
    intro e he
    rw [renderWith_eq, render_error_iff] at he
    exact fails e he
  refine ⟨⟨?_, ?_⟩, ?_⟩
  · rintro ⟨out, rendered⟩
    obtain ⟨p, written, -⟩ := render_eq_ok_iff.1 rendered
    exact succeeds p written.addAll
  · intro all
    cases outcome : (renderWith read ctx fields).result with
    | ok out => exact ⟨out, rfl⟩
    | error e =>
      obtain ⟨f, first, -⟩ := report e outcome
      exact absurd (all f first.mem) first.bad
  · intro e he
    obtain ⟨f, first, alone⟩ := report e he
    have single : retained [f] = [f] := by
      simp [retained, kept f first.mem]
    have lacks := (Field.add_checks (kept f first.mem) {}).error e alone
    refine ⟨f, first, ?_, weight_of_add alone, lacks⟩
    rw [renderWith_eq, render_error_iff, single, Progress.addAll, Logged.result_bind, alone]
    rfl

end

/-- The wind stress twice, once with a mapping for which no weights can be generated, and then the
surface temperature by a code that its name does not hold. -/
def unwritableFields : List Field :=
  [windStress, { windStress with mapping := .patch, weight := 4 },
    { surfaceTemperature with hybrid := true }]

theorem renderWith_requirements_patch :
    ∃ e, (renderWith noFiles exchangeRun unwritableFields).result = .error e ∧
      e.kind? = some .missingRemapping ∧ e.context.get? "weight" = some "4" ∧
      ∃ f q, FirstFailing (Field.Writable · exchangeRun noFiles) unwritableFields f ∧
        (renderWith noFiles exchangeRun [f]).result = .error e ∧
        FirstFailing Requirement.holds (f.requirements exchangeRun noFiles) q ∧
        q.kind = .missingRemapping := by
  obtain ⟨e, fails, kind, weight⟩ :
      ∃ e, (renderWith noFiles exchangeRun unwritableFields).result = .error e ∧
        e.kind? = some .missingRemapping ∧ e.context.get? "weight" = some "4" :=
    ⟨_, rfl, by decide, by decide⟩
  obtain ⟨-, report⟩ := renderWith_requirements noFiles exchangeRun unwritableFields
  obtain ⟨f, first, alone, -, q, lacks, reported⟩ := report e fails
  refine ⟨e, fails, kind, weight, f, q, first, alone, lacks, ?_⟩
  exact Option.some.inj (reported.symm.trans kind)

end Coupling

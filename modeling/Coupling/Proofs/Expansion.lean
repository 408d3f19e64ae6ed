import Coupling.Proofs.Declaration

/-!
# Expansion of the defaults

* `expandDefaults_eq_ok_iff`: without a placeholder the fields stay as they are; with one, every
  placeholder goes, and the usual fields that are not declared already follow the rest;
* `expandDefaults_resolved`: either way no placeholder is left;
* `expandDefaults_agree`: the order of the fields decides nothing but the order of the result.
-/

namespace Coupling

/-- The fields without their placeholders, followed by the usual ones not declared among them. -/
def withUsual (fields usual : List Field) : List Field :=
  let explicit := fields.filter fun f => !f.isPlaceholder
  explicit ++ usual.filter fun f => !f.declaredIn explicit

theorem expandDefaults_result (ctx : RunContext) (fields : List Field) :
    (expandDefaults ctx fields).result =
      if fields.any Field.isPlaceholder then do
        let usual ← ctx.activeDirections.mapM Direction.defaultFields
        return withUsual fields usual.flatten
      else .ok fields := by
  unfold expandDefaults
  by_cases present : fields.any Field.isPlaceholder = true
  · rw [if_pos present, if_pos present]
    simp only [Logged.result_bind, Logged.result_of]
    rfl
  · rw [if_neg present, if_neg present]
    rfl

theorem expandDefaults_eq_ok_iff {ctx : RunContext} {fields out : List Field} :
    (expandDefaults ctx fields).result = .ok out ↔
      if fields.any Field.isPlaceholder then
        ∃ usual, ctx.activeDirections.mapM Direction.defaultFields = .ok usual ∧
          withUsual fields usual.flatten = out
      else fields = out := by
  rw [expandDefaults_result]
  by_cases present : fields.any Field.isPlaceholder = true
  · rw [if_pos present, if_pos present]
    simp only [bind_eq_ok, pure_eq_ok]
  · rw [if_neg present, if_neg present, Except.ok.injEq]

/-- What holds of the declared fields and of every usual field holds of the result. -/
theorem forall_mem_expandDefaults {ctx : RunContext} {fields out : List Field}
    {P : Field → Prop} (h : (expandDefaults ctx fields).result = .ok out)
    (declared : ∀ f ∈ fields, f.isPlaceholder = false → P f)
    (usual : ∀ (d : Direction) (group : List Field), d.defaultFields = .ok group →
      ∀ f ∈ group, P f) : ∀ f ∈ out, P f := by
  rw [expandDefaults_eq_ok_iff] at h
  intro f hf
  by_cases present : fields.any Field.isPlaceholder = true
  · rw [if_pos present] at h
    obtain ⟨groups, built, rfl⟩ := h
    rcases List.mem_append.1 hf with hf | hf
    · simp only [List.mem_filter, Bool.not_eq_true'] at hf
      exact declared f hf.1 hf.2
    · obtain ⟨group, member, hf⟩ := List.mem_flatten.1 (List.mem_filter.1 hf).1
      have each : ∀ group ∈ groups, ∀ f ∈ group, P f :=
        forall_mem_of_mapM built fun d _ => usual d
      exact each group member f hf
  · rw [if_neg present] at h
    subst h
    refine declared f hf ?_
    cases placeholder : f.isPlaceholder with
    | false => rfl
    | true => exact absurd (List.any_eq_true.2 ⟨f, hf, placeholder⟩) present

theorem expandDefaults_resolved {ctx : RunContext} {fields out : List Field}
    (h : (expandDefaults ctx fields).result = .ok out) : ∀ f ∈ out, f.isPlaceholder = false :=
  forall_mem_expandDefaults h (fun _ _ resolved => resolved)
    fun _ _ built f hf => (Direction.resolved_of_defaultFields built f hf).1

theorem expandDefaults_declared {ctx : RunContext} {fields out : List Field}
    (h : (expandDefaults ctx fields).result = .ok out) (declared : ∀ f ∈ fields, f.Declared) :
    ∀ f ∈ out, f.Declared :=
  forall_mem_expandDefaults h (fun f hf _ => declared f hf)
    fun _ _ built f hf => (Direction.resolved_of_defaultFields built f hf).2

theorem declaredIn_eq_of_perm {fields others : List Field} (h : fields.Perm others) (f : Field) :
    f.declaredIn fields = f.declaredIn others :=
  h.any_eq

theorem withUsual_perm {fields others : List Field} (h : fields.Perm others)
    (usual : List Field) : (withUsual fields usual).Perm (withUsual others usual) := by
  have explicit := h.filter fun f => !f.isPlaceholder
  unfold withUsual
  simp only [declaredIn_eq_of_perm explicit]
  exact explicit.append_right _

/-- The defaults are chosen by what is declared, not by where it is declared. -/
theorem expandDefaults_agree (ctx : RunContext) {fields others : List Field}
    (h : fields.Perm others) :
    Agree List.Perm (expandDefaults ctx fields).result (expandDefaults ctx others).result := by
  rw [expandDefaults_result, expandDefaults_result, h.any_eq]
  by_cases present : others.any Field.isPlaceholder = true
  · rw [if_pos present, if_pos present]
    refine Agree.bind_same _ ?_
    intro usual
    exact withUsual_perm h usual.flatten
  · rw [if_neg present, if_neg present]
    exact h

end Coupling

import Coupling.Proofs.Placeholders

/-!
# Filling in the defaults

What the expansion of the defaults makes of some fields, whatever they are:

* `declaredFields`: the fields that are no placeholders. A usual field is left out exactly when one
  of them has its `target`, the same name and destination (`declaredIn_iff`);
* the usual fields of a run have targets of their own (`targets_nodup`), so behind the declared
  fields there is one field for each target that is not declared (`filter_withUsual`);
* `FilledIn`: all that the result has to do with the fields it was made from;
* `expandDefaults_filledIn`: there always is such a result.
-/

namespace Coupling

/-- What tells apart the fields that the defaults are not to add again: a name and a destination. -/
def Field.target (f : Field) : String × Component := (f.name, f.dest)

/-- The fields that are no placeholders, removed ones included. -/
def declaredFields (fields : List Field) : List Field := fields.filter fun f => !f.isPlaceholder

section
variable {fields others : List Field} {f : Field}

theorem declaredIn_iff : f.declaredIn fields = true ↔ f.target ∈ fields.map Field.target := by
  simp [Field.declaredIn, Field.target]

theorem any_isPlaceholder_eq_false_iff :
    fields.any Field.isPlaceholder = false ↔ ∀ f ∈ fields, f.isPlaceholder = false := by
  simp [List.any_eq_false]

theorem declaredFields_eq_self (h : ∀ f ∈ fields, f.isPlaceholder = false) :
    declaredFields fields = fields :=
  List.filter_eq_self.2 fun f hf => by simp [h f hf]

theorem withUsual_eq_append (fields usual : List Field) : withUsual fields usual =
    declaredFields fields ++ usual.filter fun f => !f.declaredIn (declaredFields fields) := rfl

/-- The result depends on the declared fields, and on whether there is any placeholder. -/
theorem expandDefaults_alike (ctx : RunContext)
    (declared : declaredFields others = declaredFields fields)
    (asked : others.any Field.isPlaceholder = fields.any Field.isPlaceholder) :
    (expandDefaults ctx others).result = (expandDefaults ctx fields).result := by
  rw [expandDefaults_eq, expandDefaults_eq, asked, withUsual_eq_append, withUsual_eq_append,
    declared]
  cases none_ : fields.any Field.isPlaceholder with
  | true => rfl
  | false =>
    have same := declared
    rw [declaredFields_eq_self (any_isPlaceholder_eq_false_iff.1 none_),
      declaredFields_eq_self (any_isPlaceholder_eq_false_iff.1 (asked.trans none_))] at same
    rw [same]

/-! ## One field for each target -/

theorem Direction.targets_nodup : (allUsual.map Field.target).Nodup := by decide

/-- In a list without repeated labels, each label stands for one element. -/
theorem filter_label_eq_singleton {α β : Type} [DecidableEq β] {label : α → β} {as : List α} {a : α}
    (apart : (as.map label).Nodup) (member : a ∈ as) :
    as.filter (fun b => label b = label a) = [a] := by
  classical
  have same : as.filter (fun b => label b = label a) = as.filter (· == a) := by
    refine List.filter_congr fun b hb => ?_
    rw [Bool.eq_iff_iff, decide_eq_true_iff, beq_iff_eq]
    exact ⟨List.inj_on_of_nodup_map apart hb member, congrArg label⟩
  rw [same, List.filter_beq, List.count_eq_one_of_mem apart.of_map member, List.replicate_one]

theorem withUsual_eq (ctx : RunContext) (fields : List Field) : withUsual fields ctx.usualFields =
    declaredFields fields ++ ctx.activeDirections.flatMap fun d =>
      d.usualFields.filter fun f => f.target ∉ (declaredFields fields).map Field.target := by
  have left (f : Field) : (!f.declaredIn (declaredFields fields)) =
      decide (f.target ∉ (declaredFields fields).map Field.target) := by
    rw [decide_not, Bool.not_inj_iff, Bool.eq_iff_iff, declaredIn_iff, decide_eq_true_iff]
  rw [← List.filter_flatMap, withUsual_eq_append]
  simp only [← left]
  rfl

/-- Where the target of a usual field is declared, the declared fields are all there is for it, and
otherwise the usual field is. -/
theorem filter_withUsual {ctx : RunContext} (usual : f ∈ ctx.usualFields) :
    (withUsual fields ctx.usualFields).filter (fun g => g.target = f.target) =
      if f.target ∈ (declaredFields fields).map Field.target then
        (declaredFields fields).filter fun g => g.target = f.target
      else [f] := by
  have single : ctx.usualFields.filter (fun g => g.target = f.target) = [f] :=
    filter_label_eq_singleton
      (Direction.nodup_map_usual Direction.targets_nodup ctx.activeDirections_nodup) usual
  rw [withUsual_eq_append, List.filter_append, List.filter_comm, single]
  split
  · next declared =>
    have known := declaredIn_iff.2 declared
    rw [List.filter_cons_of_neg (by simp [known]), List.filter_nil, List.append_nil]
  · next undeclared =>
    have unknown : f.declaredIn (declaredFields fields) = false :=
      Bool.eq_false_iff.2 (mt declaredIn_iff.1 undeclared)
    have none_ : (declaredFields fields).filter (fun g => g.target = f.target) = [] := by
      refine List.filter_eq_nil_iff.2 fun g hg same => undeclared ?_
      exact List.mem_map.2 ⟨g, hg, of_decide_eq_true same⟩
    rw [none_, List.nil_append, List.filter_cons_of_pos (by simp [unknown]), List.filter_nil]

end

/-! ## The result -/

/-- `out` is what `fields` come to in the run. -/
structure FilledIn (ctx : RunContext) (fields out : List Field) : Prop where
  /-- Without a placeholder nothing happens. -/
  unchanged : (∀ f ∈ fields, f.isPlaceholder = false) → out = fields
  /-- With one, the usual fields whose target is not declared follow the declared fields,
  direction by direction. -/
  added : (∃ f ∈ fields, f.isPlaceholder = true) →
    out = declaredFields fields ++ ctx.activeDirections.flatMap fun d =>
      d.usualFields.filter fun f => f.target ∉ (declaredFields fields).map Field.target
  /-- Each usual field is there itself, as the tables have it, or what is declared in its place. -/
  once : (∃ f ∈ fields, f.isPlaceholder = true) → ∀ f ∈ ctx.usualFields,
    out.filter (fun g => g.target = f.target) =
      if f.target ∈ (declaredFields fields).map Field.target then
        (declaredFields fields).filter fun g => g.target = f.target
      else [f]
  resolved : ∀ f ∈ out, f.isPlaceholder = false
  again : (expandDefaults ctx out).result = .ok out
  /-- How many placeholders there are and where they stand makes no difference. -/
  alike : ∀ others, declaredFields others = declaredFields fields →
    ((∃ f ∈ others, f.isPlaceholder = true) ↔ ∃ f ∈ fields, f.isPlaceholder = true) →
    (expandDefaults ctx others).result = .ok out

/-- The directions that the defaults are added for: the scheduled ones between components that take
part in the run, in order, with what their tables say. -/
structure RunContext.DefaultsFrom (ctx : RunContext) (ds : List Direction) : Prop where
  mem_iff : ∀ d, d ∈ ds ↔ (∃ s, ctx.schedules.get? d = some s) ∧ ctx.Configured d.origin ∧
    ctx.Configured d.dest
  order : ds.Pairwise fun d d' => compare d d' = .lt
  tables : ∀ d ∈ ds, Spec.build { origin := d.origin } d.defaultSpecs = .ok d.usualFields

theorem RunContext.defaultsFrom_activeDirections (ctx : RunContext) :
    ctx.DefaultsFrom ctx.activeDirections where
  mem_iff d := by
    rw [activeDirections, List.mem_filter, Table.mem_keys_iff, Bool.and_eq_true, has_iff, has_iff]
  order := by
    have keys : ctx.schedules.keys.Pairwise fun d d' => compare d d' = .lt :=
      List.pairwise_map.2 ctx.schedules.sorted
    exact keys.filter _
  tables d _ := d.defaultFields_eq

/-- **Defaults fill gaps.** The defaults can always be expanded. The result keeps what is declared
and has, for each usual field of an active direction, either that field or the declared ones of its
name and destination; it has no placeholder, and expanding it again changes nothing. -/
theorem expandDefaults_filledIn (ctx : RunContext) (fields : List Field) :
    ctx.DefaultsFrom ctx.activeDirections ∧
      ∃ out, (expandDefaults ctx fields).result = .ok out ∧ FilledIn ctx fields out := by
  have expands := expandDefaults_eq ctx fields
  refine ⟨ctx.defaultsFrom_activeDirections, _, expands, ?_, ?_, ?_,
    expandDefaults_resolved expands, ?_, ?_⟩
  · intro none_
    rw [any_isPlaceholder_eq_false_iff.2 none_]
    rfl
  · intro some_
    rw [if_pos (List.any_eq_true.2 some_), withUsual_eq]
  · intro some_ f usual
    rw [if_pos (List.any_eq_true.2 some_), filter_withUsual usual]
  · have resolved := any_isPlaceholder_eq_false_iff.2 (expandDefaults_resolved expands)
    rw [expandDefaults_eq, resolved]
    rfl
  · intro others declared asked
    rw [← expands]
    refine expandDefaults_alike ctx declared ?_
    rw [Bool.eq_iff_iff, List.any_eq_true, List.any_eq_true]
    exact asked

/-- A wind stress that is not exchanged, between two placeholders, and a field of its own. -/
def gappyFields : List Field :=
  let d : Direction := ⟨.atmosphere, .ocean⟩
  [.placeholder, d.usualField "ATM_TAUY" 99 'v' .remove 7, .placeholder,
    d.usualField "heat" 5 't' .bilinear 9]

/-- Of the eight usual fields of the ocean the removed one is missing, with the others as ever. -/
theorem expandDefaults_filledIn_ocean :
    ∃ out, (expandDefaults oceanRun gappyFields).result = .ok out ∧
      FilledIn oceanRun gappyFields out ∧
      out.map (fun f => (f.name, f.weight)) =
        [("ATM_TAUY", 7), ("heat", 9), ("ATM_TAUX", 600), ("ATM_SOLAR", 604),
         ("ATM_NONSOLAR", 606), ("ATM_TRAIN", 608), ("ATM_TSNOW", 610), ("ATM_EVAP", 612),
         ("ATM_MSLP", 614)] := by
  obtain ⟨-, out, expanded, filled⟩ := expandDefaults_filledIn oceanRun gappyFields
  refine ⟨out, expanded, filled, ?_⟩
  rw [filled.added ⟨.placeholder, List.mem_cons_self, rfl⟩]
  decide

end Coupling

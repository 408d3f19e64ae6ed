import Coupling.Proofs.Appending
import Coupling.Proofs.Reports
import Coupling.Proofs.Requirements
import Coupling.Proofs.UsualFields

/-!
# Runs of the usual fields

What becomes of requests that ask for nothing but the usual fields:

* `checkLevels_checks`: the two atmospheres are only checked for counts that both give;
* `Field.Usual.add_checks`: a usual field of an active direction lacks nothing but resolutions, so
  nothing else can be wrong with the compilation (`compile_defaults_checks`);
* `Compiled.WritesUsual`: the output consists of the usual fields of the active directions, once
  each, and each with a row of metadata of its own (`OnlyDefaults.writesUsual`);
* `compile_defaults` puts this together.
-/

namespace Coupling

/-! ## Levels -/

/-- The two atmospheres do not disagree on a setting. -/
def RunContext.AgreeOn (ctx : RunContext) (setting : ComponentSetup → Option UInt32) : Prop :=
  ∀ a j, ctx.Gives .atmosphere setting a → ctx.Gives .junior setting j → a = j

namespace RunContext

theorem checkAgreement_checks (kind : Kind) (what : String) (o o' : Option UInt32) :
    Checks (checkAgreement kind what o o') [⟨kind, ∀ a ∈ o, ∀ j ∈ o', a = j⟩] := by
  cases o with
  | none => exact .passed () (by simp)
  | some a =>
    cases o' with
    | none => exact .passed () (by simp)
    | some j =>
      unfold checkAgreement
      by_cases same : a = j
      · simp only [same, if_true]
        exact .passed () (by simp)
      · simp only [same, if_false]
        exact .failed (by simpa using same) (by simp)

variable {ctx : RunContext}

theorem agreeOn_iff {a j : ComponentSetup} {setting : ComponentSetup → Option UInt32}
    (atmosphere : ctx.components.get? .atmosphere = some a)
    (junior : ctx.components.get? .junior = some j) :
    ctx.AgreeOn setting ↔ ∀ m ∈ setting a, ∀ n ∈ setting j, m = n := by
  simp only [AgreeOn, Gives, atmosphere, junior, Option.some.injEq, exists_eq_left',
    Option.mem_def]
  constructor
  · intro agree m hm n hn
    exact agree m n hm hn
  · intro agree m n hm hn
    exact agree m hm n hn

theorem agreeOn_of_missing {setting : ComponentSetup → Option UInt32}
    (missing : ctx.components.get? .atmosphere = none ∨ ctx.components.get? .junior = none) :
    ctx.AgreeOn setting := by
  rintro m n ⟨a, atmosphere, -⟩ ⟨j, junior, -⟩
  rcases missing with missing | missing
  · exact absurd (missing.symm.trans atmosphere) nofun
  · exact absurd (missing.symm.trans junior) nofun

/-- The atmospheres are compared where both are configured, model levels first. -/
theorem checkLevels_checks (ctx : RunContext) : Checks ctx.checkLevels
    [⟨.differentModelLevels, ctx.AgreeOn ComponentSetup.modelLevels⟩,
     ⟨.differentSoilLevels, ctx.AgreeOn ComponentSetup.soilLevels⟩] := by
  unfold checkLevels
  cases atmosphere : ctx.components.get? .atmosphere with
  | none =>
    exact .passed () (by simp [agreeOn_of_missing (.inl atmosphere)])
  | some a =>
    cases junior : ctx.components.get? .junior with
    | none => exact .passed () (by simp [agreeOn_of_missing (.inr junior)])
    | some j =>
      simp only [agreeOn_iff atmosphere junior]
      exact (checkAgreement_checks _ _ _ _).bind fun _ _ => checkAgreement_checks _ _ _ _

/-! ## What usual fields lack -/

/-- Both ends of the direction have a resolution. -/
def Resolves (ctx : RunContext) (d : Direction) : Prop :=
  (∃ size, ctx.Gives d.origin ComponentSetup.resolution size) ∧
    ∃ size, ctx.Gives d.dest ComponentSetup.resolution size

/-- Tightening keeps the active directions. -/
theorem Active.tighten {d : Direction} (h : ctx.Active d) : ctx.tighten.Active d := by
  obtain ⟨s, scheduled⟩ := h.scheduled
  refine ⟨h.usual, ⟨s.tighten, ?_⟩, h.origin, h.dest⟩
  rw [RunContext.tighten, Table.get?_mapValues, scheduled]
  rfl

end RunContext

namespace Field.Usual

variable {ctx : RunContext} {read : FileReader} {d : Direction} {f : Field}

theorem isRemoved (h : f.Usual d) : f.isRemoved = false := by
  rcases h.mapping with mapping | mapping <;> simp [Field.isRemoved, mapping]

theorem requirements (h : f.Usual d) : f.requirements ctx read =
    [⟨.missingEntry, ∃ s, ctx.schedules.get? d = some s⟩,
     ⟨.missingFrequency, ∃ s, ctx.schedules.get? d = some s ∧ 0 < s.size⟩,
     ⟨.missingEntry, ctx.Configured d.origin⟩, ⟨.missingEntry, ctx.Configured d.dest⟩,
     ⟨.missingResolution, ∃ size, ctx.Gives d.origin ComponentSetup.resolution size⟩,
     ⟨.missingResolution, ∃ size, ctx.Gives d.dest ComponentSetup.resolution size⟩,
     ⟨.missingRemapping, True⟩] := by
  obtain rfl := h.direction
  have plane : f.gridRequirements ctx =
      [⟨.missingEntry, ctx.Configured f.origin⟩, ⟨.missingEntry, ctx.Configured f.dest⟩,
       ⟨.missingResolution, ∃ size, ctx.Gives f.origin ComponentSetup.resolution size⟩,
       ⟨.missingResolution, ∃ size, ctx.Gives f.dest ComponentSetup.resolution size⟩,
       ⟨.missingRemapping, True⟩] := by
    rcases h.mapping with mapping | mapping <;> simp [gridRequirements, mapping]
  simp [Field.requirements, periodRequirements, plane, h.plain, h.selector, h.period,
    Field.direction]

/-- A usual field of an active direction lacks nothing but resolutions. -/
theorem add_checks (h : f.Usual d) (active : ctx.Active d) (p : Progress) :
    Checks (p.add ctx (catalogue read ctx) f).result [⟨.missingResolution, ctx.Resolves d⟩] := by
  obtain ⟨s, scheduled⟩ := active.scheduled
  have enough : 0 < s.size := Nat.succ_pos _
  refine (Field.add_checks h.isRemoved p).only ?_ ?_
  · rw [h.requirements]
    simp only [List.forall_mem_cons]
    rintro ⟨-, -, -, -, origin, dest, -⟩
    exact ⟨origin, dest⟩
  · rw [h.requirements]
    simp only [List.forall_mem_cons]
    exact ⟨.inl ⟨s, scheduled⟩, .inl ⟨s, scheduled, enough⟩, .inl active.origin, .inl active.dest,
      .inr ⟨trivial, And.left⟩, .inr ⟨trivial, And.right⟩, .inl trivial, List.forall_mem_nil _⟩

theorem named (h : f.Usual d) : f.Named := by
  obtain ⟨name, found, -⟩ := h.known
  exact fun _ => ⟨name, found⟩

end Field.Usual

/-- Where each field can lack one thing only, so can all of them together. -/
theorem addAll_checks {ctx : RunContext} {lookup : StashCode → Except Error StashEntry}
    {kind : Kind} {good : Field → Prop} {fields : List Field}
    (each : ∀ f ∈ fields, ∀ p : Progress, Checks (p.add ctx lookup f).result [⟨kind, good f⟩])
    (p : Progress) :
    Checks (p.addAll ctx lookup fields).result [⟨kind, ∀ f ∈ fields, good f⟩] := by
  induction fields generalizing p with
  | nil => exact .passed _ (by simp)
  | cons f fields ih =>
    obtain ⟨first, others⟩ := List.forall_mem_cons.1 each
    rw [Progress.addAll, Logged.result_bind]
    refine ((first p).bind fun q _ => ih others q).only ?_ ?_
    · simp only [List.cons_append, List.nil_append, List.forall_mem_cons]
      rintro ⟨head, tail, -⟩
      exact ⟨head, tail⟩
    · simp only [List.cons_append, List.nil_append, List.forall_mem_cons]
      exact ⟨.inr ⟨trivial, And.left⟩, .inr ⟨trivial, And.right⟩, List.forall_mem_nil _⟩

/-! ## Compilations -/

namespace RunContext

variable {ctx : RunContext}

theorem usual_of_mem {f : Field} (h : f ∈ ctx.usualFields) :
    ∃ d, ctx.Active d ∧ f.Usual d := by
  obtain ⟨d, active, member⟩ := mem_usualFields_iff.1 h
  exact ⟨d, active, Direction.usual_of_mem member⟩

/-- All usual fields of a run are written. -/
theorem retained_of_perm {fields : List Field} (same : fields.Perm ctx.usualFields) :
    retained fields = fields := by
  refine List.filter_eq_self.2 ?_
  intro f hf
  obtain ⟨d, -, usual⟩ := usual_of_mem (same.mem_iff.1 hf)
  simp [usual.isRemoved]

theorem checkWeights_usualFields (ctx : RunContext) : checkWeights ctx.usualFields = .ok () := by
  rw [checkWeights_eq_ok_iff, retained_of_perm (.refl _)]
  exact Direction.nodup_map_usual Direction.weights_nodup ctx.activeDirections_nodup

/-- The usual fields resolve exactly when every active direction does, as none is without any. -/
theorem resolves_iff : (∀ f ∈ ctx.usualFields, ctx.Resolves f.direction) ↔
    ∀ d, ctx.Active d → ctx.Resolves d := by
  constructor
  · intro each d active
    have some_ := Direction.usualFields_ne_nil_iff.2 active.usual
    obtain ⟨f, member⟩ := List.exists_mem_of_ne_nil _ some_
    exact (Direction.usual_of_mem member).direction ▸
      each f (mem_usualFields_iff.2 ⟨d, active, member⟩)
  · intro each f hf
    obtain ⟨d, active, usual⟩ := usual_of_mem hf
    exact usual.direction.symm ▸ each d active

theorem render_checks {read : FileReader} {fields : List Field}
    (same : fields.Perm ctx.usualFields) :
    Checks (render ctx.tighten (catalogue read ctx.tighten) fields).result
      [⟨.missingResolution, ∀ d, ctx.Active d → ctx.Resolves d⟩] := by
  have each : ∀ f ∈ fields, ∀ p : Progress,
      Checks (p.add ctx.tighten (catalogue read ctx.tighten) f).result
        [⟨.missingResolution, ctx.Resolves f.direction⟩] := by
    intro f hf p
    obtain ⟨d, active, usual⟩ := usual_of_mem (same.mem_iff.1 hf)
    exact usual.direction.symm ▸ usual.add_checks active.tighten p
  have all : (∀ f ∈ fields, ctx.Resolves f.direction) ↔ ∀ d, ctx.Active d → ctx.Resolves d := by
    rw [← resolves_iff]
    exact forall_congr' fun f => imp_congr_left same.mem_iff
  rw [render, retained_of_perm same, Logged.result_bind]
  exact ((addAll_checks each {}).congr all).map

end RunContext

/-- A compilation of the usual fields checks the levels of the atmospheres and the resolutions of
the active directions, and nothing else can be wrong with it. -/
theorem compile_defaults_checks {requests : List Request} (h : OnlyDefaults requests)
    (read : FileReader) (ctx : RunContext) : Checks (compile read ctx requests).result
      [⟨.differentModelLevels, ctx.AgreeOn ComponentSetup.modelLevels⟩,
       ⟨.differentSoilLevels, ctx.AgreeOn ComponentSetup.soilLevels⟩,
       ⟨.missingResolution, ∀ d, ctx.Active d → ctx.Resolves d⟩] := by
  obtain ⟨explicit, built, expanded⟩ := h.expanded ctx
  rw [compile_result, built]
  show Checks ((expandDefaults ctx explicit).result >>= _) _
  rw [expanded]
  -- The weights are checked after the levels, and no two usual fields share one.
  refine ctx.checkLevels_checks.bind fun _ _ => ?_
  show Checks (checkWeights ctx.usualFields >>= _) _
  rw [ctx.checkWeights_usualFields]
  exact (RunContext.render_checks (orderByWeight_perm ctx.usualFields)).map

/-- What is written are the usual fields of the active directions, each once, with its own number
and its own row of known metadata. -/
structure Compiled.WritesUsual (c : Compiled) (read : FileReader) (ctx : RunContext) : Prop where
  fields : ∀ f, f ∈ c.fields ↔
    ∃ d group, ctx.Active d ∧ d.defaultFields = .ok group ∧ f ∈ group
  once : c.fields.Nodup
  written : ∃ blocks, c.rendered.Writes c.context (catalogue read c.context) c.fields blocks
  total : c.rendered.fields.length = c.fields.length
  summary : ∀ (i : Nat) (f : Field) (s : Summary), c.fields[i]? = some f →
    c.rendered.fields[i]? = some s →
    s.Describes f ∧ s.index.toNat = i + 1 ∧ s.cfIndex.toNat = i + 1
  rows : ∃ rows, c.rendered.HasRows rows ∧ List.Forall₂
    (fun f row => CfName.lookup? f.key = some row ∧ row.isUnknown = false) c.fields rows

section
variable {read : FileReader} {ctx : RunContext} {requests : List Request} {c : Compiled}

theorem OnlyDefaults.fields_perm {explicit records : List Field} (h : OnlyDefaults requests)
    (s : Stages read ctx requests explicit records c) : c.fields.Perm ctx.usualFields :=
  h.records_eq s.built s.expanded ▸ s.fields_perm

/-- Fields without the hybrid flag resolve to what their names say. -/
theorem resolved_eq_tagged {lookup : StashCode → Except Error StashEntry} {fields : List Field}
    {resolved : List Resolved} (plain : ∀ f ∈ fields, f.hybrid = false)
    (each : List.Forall₂ (fun f r => (f.resolveWith ctx lookup).result = .ok r) fields resolved) :
    resolved = fields.map Field.tagged := by
  induction each with
  | nil => rfl
  | @cons f r fields resolved first _ ih =>
    obtain ⟨tagged, others⟩ := List.forall_mem_cons.1 plain
    rw [Field.resolveWith, if_neg (by simp [tagged]), Field.resolveTagged_result] at first
    rw [List.map_cons, ih others, Except.ok.inj first]

theorem Field.tagged_cf (f : Field) :
    f.tagged.names.cf = (CfName.lookup? f.key).getD .unknown := by
  rw [tagged, key]

/-- Fields of distinct keys stand in rows of their own, in their order. -/
theorem Written.ownRows {lookup : StashCode → Except Error StashEntry} {fields : List Field}
    {p : Progress} (h : Written ctx lookup fields p) (plain : ∀ f ∈ fields, f.hybrid = false)
    (apart : (fields.map Field.key).Nodup) :
    p.table.rows.map Prod.snd = fields.map (fun f => f.tagged.names.cf) ∧
      ∀ (i : Nat) (s : Summary), p.summaries[i]? = some s → s.cfIndex = UInt64.ofNat (i + 1) := by
  obtain ⟨resolved, each, table, indices⟩ := h.numbersKeys
  obtain rfl := resolved_eq_tagged plain each
  have keys : (fields.map Field.tagged).map Resolved.key = fields.map Field.key := by
    rw [List.map_map]
    rfl
  rw [keys] at indices
  refine ⟨?_, ?_⟩
  · simp only [table.rows_eq (keys ▸ apart), List.map_map, Function.comp_def]
  · intro i s hs
    have inside : i < fields.length := h.lengths.1 ▸ (List.getElem?_eq_some_iff.1 hs).1
    have row : rowOf (fields.map Field.key) fields[i].key = i + 1 :=
      rowOf_getElem? apart (by simp [inside])
    have here := congrArg (·[i]?) indices
    rw [List.getElem?_map, hs, List.getElem?_map, List.getElem?_map,
      List.getElem?_eq_getElem inside] at here
    rw [Option.some.inj here]
    exact congrArg UInt64.ofNat row

theorem OnlyDefaults.writesUsual (h : OnlyDefaults requests)
    (compiled : (compile read ctx requests).result = .ok c) : c.WritesUsual read ctx := by
  obtain ⟨explicit, records, stages⟩ := compile_eq_ok_iff.1 compiled
  have perm := h.fields_perm stages
  have usual : ∀ f ∈ c.fields, ∃ d, ctx.Active d ∧ f.Usual d :=
    fun f hf => RunContext.usual_of_mem (perm.mem_iff.1 hf)
  have plain : ∀ f ∈ c.fields, f.hybrid = false := by
    intro f hf
    obtain ⟨d, -, usual⟩ := usual f hf
    exact usual.plain
  have apart : (c.fields.map Field.key).Nodup := (perm.map Field.key).nodup_iff.2
    (Direction.nodup_map_usual Direction.keys_nodup ctx.activeDirections_nodup)
  obtain ⟨p, written, out⟩ := render_eq_ok_iff.1 stages.rendered
  obtain ⟨total, summary⟩ := stages.summary
  have bound := stages.retained_lt
  rw [RunContext.retained_of_perm perm] at written total summary bound
  obtain ⟨rows, indices⟩ := written.ownRows plain apart
  refine ⟨?_, List.Nodup.of_map Field.key apart, ⟨p.blocks, out ▸ written.writes⟩, total, ?_,
    p.table.rows.map Prod.snd, out ▸ p.hasRows c.context, ?_⟩
  · intro f
    rw [perm.mem_iff, RunContext.mem_usualFields_iff]
    simp [Direction.defaultFields_eq]
  · intro i f s hf hs
    obtain ⟨index, describes⟩ := summary i f s hf hs
    have inside : i < c.fields.length := (List.getElem?_eq_some_iff.1 hf).1
    have cfIndex := indices i s (by rwa [out] at hs)
    exact ⟨describes, index, by rw [cfIndex, UInt64.toNat_ofNat_of_lt' (by omega)]⟩
  · rw [rows, List.forall₂_map_right_iff, List.forall₂_same]
    intro f hf
    obtain ⟨d, -, usual⟩ := usual f hf
    obtain ⟨name, found, known⟩ := usual.known
    rw [f.tagged_cf, found]
    exact ⟨rfl, known⟩

theorem OnlyDefaults.quiet (h : OnlyDefaults requests) : (compile read ctx requests).Quiet := by
  refine compile_quiet fun explicit records built expanded => ?_
  rw [h.records_eq built expanded]
  intro f hf
  obtain ⟨d, -, usual⟩ := RunContext.usual_of_mem hf
  exact usual.named

end

/-- Requests for the usual fields compile exactly when the atmospheres do not disagree on their
levels and the ends of every active direction have a resolution. The output is the usual fields of
the active directions, each with metadata of its own, and nothing is warned of. -/
theorem compile_defaults {requests : List Request} (h : OnlyDefaults requests) (read : FileReader)
    (ctx : RunContext) :
    ((∃ c, (compile read ctx requests).result = .ok c) ↔
        ctx.AgreeOn ComponentSetup.modelLevels ∧ ctx.AgreeOn ComponentSetup.soilLevels ∧
          ∀ d, ctx.Active d → ctx.Resolves d) ∧
      (∀ e, (compile read ctx requests).result = .error e →
        e.kind? = some .differentModelLevels ∨ e.kind? = some .differentSoilLevels ∨
          e.kind? = some .missingResolution) ∧
      (∀ c, (compile read ctx requests).result = .ok c → c.WritesUsual read ctx) ∧
      (compile read ctx requests).Quiet := by
  have checks := compile_defaults_checks h read ctx
  refine ⟨?_, ?_, fun c => h.writesUsual, h.quiet⟩
  · rw [checks.exists_ok_iff]
    simp
  · intro e fails
    obtain ⟨q, first, reported⟩ := checks.error e fails
    have member := first.mem
    simp only [List.mem_cons, List.not_mem_nil, or_false] at member
    rcases member with rfl | rfl | rfl
    · exact .inl reported
    · exact .inr (.inl reported)
    · exact .inr (.inr reported)

/-- The usual fields, asked for twice in a request for hybrid fields. -/
def usualRequests : List Request :=
  [⟨{ origin := .junior, hybrid := true, selector := 7 }, [" default\t", "default"]⟩,
   ⟨{ origin := .river }, []⟩]

/-- The ocean of this run has no resolution. -/
def boundlessRun : RunContext :=
  { exchangeRun with components := exchangeRun.components.insert .ocean { grid := "orca1" } }

/-- Both directions of the run are active. Without the resolution of the ocean there is no
output. -/
theorem compile_defaults_exchange :
    (∃ c, (compile noFiles exchangeRun usualRequests).result = .ok c ∧
      c.WritesUsual noFiles exchangeRun ∧ (compile noFiles exchangeRun usualRequests).Quiet) ∧
    ¬ ∃ c, (compile noFiles boundlessRun usualRequests).result = .ok c := by
  have only : OnlyDefaults usualRequests := ⟨⟨_, List.mem_cons_self, by decide⟩, by decide⟩
  refine ⟨?_, ?_⟩
  · obtain ⟨success, -, written, quiet⟩ := compile_defaults only noFiles exchangeRun
    have alone (setting : ComponentSetup → Option UInt32) : exchangeRun.AgreeOn setting :=
      RunContext.agreeOn_of_missing (.inr (by decide))
    have resolved : ∀ d, exchangeRun.Active d → exchangeRun.Resolves d := by
      intro d active
      have keys : exchangeRun.schedules.keys =
          [⟨.atmosphere, .ocean⟩, ⟨.ocean, .atmosphere⟩] := by decide
      have listed := Table.mem_keys_iff.2 active.scheduled
      simp only [keys, List.mem_cons, List.not_mem_nil, or_false] at listed
      rcases listed with rfl | rfl
      all_goals exact ⟨⟨_, _, rfl, rfl⟩, ⟨_, _, rfl, rfl⟩⟩
    obtain ⟨c, compiled⟩ := success.2 ⟨alone _, alone _, resolved⟩
    exact ⟨c, compiled, written c compiled, quiet⟩
  · obtain ⟨success, -⟩ := compile_defaults only noFiles boundlessRun
    intro compiled
    obtain ⟨-, -, resolved⟩ := success.1 compiled
    have active : boundlessRun.Active ⟨.ocean, .atmosphere⟩ :=
      ⟨by decide, ⟨_, rfl⟩, ⟨_, rfl⟩, ⟨_, rfl⟩⟩
    obtain ⟨⟨size, setup, found, given⟩, -⟩ := resolved _ active
    obtain rfl : { grid := "orca1" } = setup := Option.some.inj found
    cases given

end Coupling

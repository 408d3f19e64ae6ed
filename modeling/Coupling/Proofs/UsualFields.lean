import Coupling.CfName
import Coupling.Proofs.Expansion
import Coupling.Proofs.Lookups
import Coupling.Proofs.Tables
import Coupling.Resolution
import Mathlib.Data.List.Nodup

/-!
# Usual fields

The fields that a `default` declaration stands for:

* `Direction.usualFields` lists them. The usual specifications of every direction read as these
  (`Direction.defaultFields_eq`), so the defaults can always be expanded (`expandDefaults_eq`);
* `Field.Usual d f`: what the usual fields have in common. None is removed or hybrid, each is
  remapped conservatively or bilinearly, is sent at the first period of its direction, and has
  metadata (`Direction.usual_of_mem`);
* no two of them share a weight or a key of the table of CF names, whatever directions they are
  taken from (`nodup_map_usual`);
* `OnlyDefaults requests`: the requests ask for the usual fields and for nothing else, so that the
  usual fields of the active directions are all there is (`OnlyDefaults.expanded`).
-/

namespace Coupling

namespace Direction

/-- A usual field: a single level, at the first period of its direction. -/
def usualField (d : Direction) (name : String) (number : Int64) (grid : Char) (mapping : Mapping)
    (weight : Int64) : Field where
  name := name
  number := number
  grid := grid
  origin := d.origin
  dest := d.dest
  levels := some 1
  soil := none
  mapping := mapping
  order := none
  weight := weight
  hybrid := false
  selector := 0
  period := none

/-- The usual fields of a direction, empty where there are none. -/
def usualFields (d : Direction) : List Field :=
  match d.origin, d.dest with
  | .ocean, .atmosphere =>
    [d.usualField "OCN_SST" 1 't' .conserveFraction 500,
     d.usualField "OCN_ICEFRC" 2 't' .conserveFraction 502,
     d.usualField "OCN_ICETHICK" 3 't' .conserveFraction 504,
     d.usualField "OCN_SNOWTHICK" 4 't' .conserveFraction 506,
     d.usualField "OCN_UCURR" 5 'u' .bilinear 508,
     d.usualField "OCN_VCURR" 6 'v' .bilinear 510]
  | .atmosphere, .ocean =>
    [d.usualField "ATM_TAUX" 11 'u' .bilinear 600,
     d.usualField "ATM_TAUY" 12 'v' .bilinear 602,
     d.usualField "ATM_SOLAR" 13 't' .conserveFraction 604,
     d.usualField "ATM_NONSOLAR" 14 't' .conserveFraction 606,
     d.usualField "ATM_TRAIN" 15 't' .conserveFraction 608,
     d.usualField "ATM_TSNOW" 16 't' .conserveFraction 610,
     d.usualField "ATM_EVAP" 17 't' .conserveFraction 612,
     d.usualField "ATM_MSLP" 18 't' .bilinear 614]
  | .atmosphere, .river =>
    [d.usualField "ATM_RIVRUN" 21 't' .conserveFraction 700,
     d.usualField "ATM_DRAIN" 22 't' .conserveFraction 702]
  | .river, .ocean => [d.usualField "RIV_RIVOUT" 31 't' .conserveFraction 800]
  | _, _ => []

/-- The usual specifications of every direction read as its usual fields. -/
theorem defaultFields_eq (d : Direction) : d.defaultFields = .ok d.usualFields := by
  obtain ⟨origin, dest⟩ := d
  cases origin <;> cases dest <;> rfl

/-- The directions that have usual fields. -/
def usual : List Direction :=
  [⟨.ocean, .atmosphere⟩, ⟨.atmosphere, .ocean⟩, ⟨.atmosphere, .river⟩, ⟨.river, .ocean⟩]

theorem usualFields_ne_nil_iff {d : Direction} : d.usualFields ≠ [] ↔ d ∈ usual := by
  obtain ⟨origin, dest⟩ := d
  cases origin <;> cases dest <;> decide

theorem mem_usual {d : Direction} {f : Field} (h : f ∈ d.usualFields) : d ∈ usual :=
  usualFields_ne_nil_iff.1 (List.ne_nil_of_mem h)

end Direction

/-- The key under which the metadata of a field without the hybrid flag stands. -/
def Field.key (f : Field) : String := cfKey f.name f.origin

/-- What the usual fields of a direction have in common. -/
structure Field.Usual (d : Direction) (f : Field) : Prop where
  direction : f.direction = d
  mapping : f.mapping = .conserveFraction ∨ f.mapping = .bilinear
  plain : f.hybrid = false
  selector : f.selector = 0
  period : f.period = none
  known : ∃ name, CfName.lookup? f.key = some name ∧ name.isUnknown = false

namespace Direction

theorem usual_of_mem {d : Direction} {f : Field} (h : f ∈ d.usualFields) : f.Usual d := by
  -- Over the directions that have usual fields, as these are few enough to go through.
  have common : ∀ d ∈ usual, ∀ f ∈ d.usualFields,
      f.direction = d ∧ (f.mapping = .conserveFraction ∨ f.mapping = .bilinear) ∧
        f.hybrid = false ∧ f.selector = 0 ∧ f.period = none ∧
        (CfName.lookup? f.key).any (fun name => !name.isUnknown) = true := by
    decide
  obtain ⟨direction, mapping, plain, selector, period, known⟩ := common d (mem_usual h) f h
  obtain ⟨name, found, known⟩ := (Option.any_eq_true _ _).1 known
  exact ⟨direction, mapping, plain, selector, period, name, found, by simpa using known⟩

/-- All usual fields there are. -/
def allUsual : List Field := usual.flatMap usualFields

theorem mem_allUsual {d : Direction} {f : Field} (h : f ∈ d.usualFields) : f ∈ allUsual :=
  List.mem_flatMap.2 ⟨d, mem_usual h, h⟩

theorem weights_nodup : (allUsual.map Field.weight).Nodup := by decide

theorem keys_nodup : (allUsual.map Field.key).Nodup := by decide

/-- What tells all usual fields apart tells those of some directions apart. -/
theorem nodup_map_usual {α : Type} {label : Field → α}
    (apart : (allUsual.map label).Nodup) {ds : List Direction} (distinct : ds.Nodup) :
    ((ds.flatMap usualFields).map label).Nodup := by
  have each : ∀ d ∈ ds, d.usualFields.Nodup := by
    intro d _
    by_cases listed : d ∈ usual
    · exact (List.nodup_flatMap.1 (List.Nodup.of_map label apart)).1 d listed
    · rw [not_not.1 (mt usualFields_ne_nil_iff.1 listed)]
      exact List.nodup_nil
  have disjoint : ds.Pairwise (Function.onFun List.Disjoint usualFields) := by
    refine distinct.imp ?_
    intro d d' different f hf hf'
    exact different ((usual_of_mem hf).direction.symm.trans (usual_of_mem hf').direction)
  -- No two of all usual fields share a label, so two of these that do are one.
  refine (List.nodup_flatMap.2 ⟨each, disjoint⟩).map_on ?_
  intro f hf g hg same
  obtain ⟨d, -, hf⟩ := List.mem_flatMap.1 hf
  obtain ⟨d', -, hg⟩ := List.mem_flatMap.1 hg
  exact List.inj_on_of_nodup_map apart (mem_allUsual hf) (mem_allUsual hg) same

end Direction

/-! ## Requests for nothing else -/

/-- The requests ask for the usual fields, and for nothing else. -/
structure OnlyDefaults (requests : List Request) : Prop where
  asked : ∃ r ∈ requests, r.specs ≠ []
  each : ∀ r ∈ requests, ∀ text ∈ r.specs, Text.trim text = defaultWord

theorem Spec.buildFrom_defaults (sender : Sender) (inherited : Inherited) {texts : List String}
    (each : ∀ text ∈ texts, Text.trim text = defaultWord) :
    buildFrom sender inherited texts = .ok (texts.map fun _ => .placeholder) := by
  induction texts with
  | nil => rfl
  | cons text texts ih =>
    obtain ⟨word, others⟩ := List.forall_mem_cons.1 each
    rw [buildFrom, if_pos word, ih others]
    rfl

theorem Request.build_defaults {r : Request}
    (each : ∀ text ∈ r.specs, Text.trim text = defaultWord) :
    r.build = .ok (r.specs.map fun _ => .placeholder) := by
  rw [build, noting_eq_ok]
  exact Spec.buildFrom_defaults r.sender {} each

theorem Request.buildAll_defaults {requests : List Request}
    (each : ∀ r ∈ requests, ∀ text ∈ r.specs, Text.trim text = defaultWord) :
    buildAll requests = .ok (requests.flatMap fun r => r.specs.map fun _ => .placeholder) := by
  refine buildAll_eq_ok_iff.2 ⟨requests.map fun r => r.specs.map fun _ => .placeholder, ?_, ?_⟩
  · induction requests with
    | nil => rfl
    | cons r requests ih =>
      obtain ⟨first, others⟩ := List.forall_mem_cons.1 each
      exact mapM_cons_eq_ok.2 ⟨_, _, build_defaults first, ih others, rfl⟩
  · rw [List.flatMap_def]

/-- The usual fields of the active directions. -/
def RunContext.usualFields (ctx : RunContext) : List Field :=
  ctx.activeDirections.flatMap Direction.usualFields

theorem activeDirections_defaultFields (ctx : RunContext) :
    ctx.activeDirections.mapM Direction.defaultFields =
      .ok (ctx.activeDirections.map Direction.usualFields) := by
  have each : Direction.defaultFields = fun d => pure d.usualFields :=
    funext Direction.defaultFields_eq
  rw [each, List.mapM_pure]
  rfl

/-- The defaults can always be expanded. -/
theorem expandDefaults_eq (ctx : RunContext) (fields : List Field) :
    (expandDefaults ctx fields).result =
      .ok (if fields.any Field.isPlaceholder then withUsual fields ctx.usualFields
        else fields) := by
  rw [expandDefaults_eq_ok_iff]
  split
  · exact ⟨_, activeDirections_defaultFields ctx, by rw [RunContext.usualFields, List.flatMap_def]⟩
  · rfl

/-- Where nothing is declared, the defaults are all there is. -/
theorem expandDefaults_placeholders (ctx : RunContext) {fields : List Field}
    (some_ : fields.any Field.isPlaceholder = true)
    (all : ∀ f ∈ fields, f.isPlaceholder = true) :
    (expandDefaults ctx fields).result = .ok ctx.usualFields := by
  have explicit : (fields.filter fun f => !f.isPlaceholder) = [] := by
    rw [List.filter_eq_nil_iff]
    intro f hf
    simp [all f hf]
  have every : (ctx.usualFields.filter fun f => !f.declaredIn []) = ctx.usualFields :=
    List.filter_eq_self.2 fun _ _ => rfl
  rw [expandDefaults_eq, if_pos some_, withUsual, explicit, List.nil_append, every]

namespace OnlyDefaults

variable {requests : List Request}

/-- Every request is built, to nothing but placeholders. -/
theorem built (h : OnlyDefaults requests) : ∃ fields, Request.buildAll requests = .ok fields ∧
    fields.any Field.isPlaceholder = true ∧ ∀ f ∈ fields, f.isPlaceholder = true := by
  have all : ∀ f ∈ requests.flatMap fun r => r.specs.map fun _ => Field.placeholder,
      f.isPlaceholder = true := by
    intro f hf
    obtain ⟨r, -, hf⟩ := List.mem_flatMap.1 hf
    obtain ⟨text, -, rfl⟩ := List.mem_map.1 hf
    rfl
  obtain ⟨r, member, asked⟩ := h.asked
  obtain ⟨text, written⟩ := List.exists_mem_of_ne_nil _ asked
  refine ⟨_, Request.buildAll_defaults h.each, List.any_eq_true.2 ⟨.placeholder, ?_, rfl⟩, all⟩
  exact List.mem_flatMap.2 ⟨r, member, List.mem_map.2 ⟨text, written, rfl⟩⟩

variable {ctx : RunContext}

/-- The usual fields of the active directions are all that the requests stand for. -/
theorem expanded (h : OnlyDefaults requests) (ctx : RunContext) :
    ∃ explicit, Request.buildAll requests = .ok explicit ∧
      (expandDefaults ctx explicit).result = .ok ctx.usualFields := by
  obtain ⟨explicit, built, some_, all⟩ := h.built
  exact ⟨explicit, built, expandDefaults_placeholders ctx some_ all⟩

theorem records_eq (h : OnlyDefaults requests) {explicit records : List Field}
    (built : Request.buildAll requests = .ok explicit)
    (expanded : (expandDefaults ctx explicit).result = .ok records) :
    records = ctx.usualFields := by
  obtain ⟨_, built', usual⟩ := h.expanded ctx
  obtain rfl := Except.ok.inj (built'.symm.trans built)
  exact Except.ok.inj (expanded.symm.trans usual)

end OnlyDefaults

/-! ## Active directions -/

/-- The direction has usual fields, is scheduled, and both of its components take part. -/
structure RunContext.Active (ctx : RunContext) (d : Direction) : Prop where
  usual : d ∈ Direction.usual
  scheduled : ∃ s, ctx.schedules.get? d = some s
  origin : ctx.Configured d.origin
  dest : ctx.Configured d.dest

namespace RunContext

variable {ctx : RunContext}

theorem has_iff {c : Component} : ctx.has c = true ↔ ctx.Configured c :=
  Option.isSome_iff_exists

theorem active_iff {d : Direction} :
    ctx.Active d ↔ d ∈ Direction.usual ∧ d ∈ ctx.activeDirections := by
  rw [activeDirections, List.mem_filter, Table.mem_keys_iff, Bool.and_eq_true, has_iff, has_iff]
  constructor
  · rintro ⟨usual, scheduled, origin, dest⟩
    exact ⟨usual, scheduled, origin, dest⟩
  · rintro ⟨usual, scheduled, origin, dest⟩
    exact ⟨usual, scheduled, origin, dest⟩

theorem mem_usualFields_iff {f : Field} :
    f ∈ ctx.usualFields ↔ ∃ d, ctx.Active d ∧ f ∈ d.usualFields := by
  rw [usualFields, List.mem_flatMap]
  constructor
  · rintro ⟨d, active, member⟩
    exact ⟨d, active_iff.2 ⟨Direction.mem_usual member, active⟩, member⟩
  · rintro ⟨d, active, member⟩
    exact ⟨d, (active_iff.1 active).2, member⟩

theorem activeDirections_nodup (ctx : RunContext) : ctx.activeDirections.Nodup :=
  ctx.schedules.keys_nodup.filter _

end RunContext

end Coupling

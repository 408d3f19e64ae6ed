import Coupling.Proofs.Appending
import Coupling.Proofs.Attempts
import Coupling.Proofs.RowNames
import Coupling.Proofs.Tightening

/-!
# The way back of a hybrid field

A hybrid field that one atmosphere sends the other has a mirror, the field of the same code that is
sent the other way:

* `Names.mirrored` and `Field.Mirrors`: the names with the two ends exchanged, and the field back;
* `StashEntry.count?` and `RunContext.Lacks`: the count of levels that the sender of a field is
  asked for, and what the run context has no entry for if it is not there;
* `Extents.elsewhere`: atmospheres that do not disagree on levels give a field the same extent,
  unless one of them lacks the count;
* `mirror_agrees`: so a field and its mirror resolve to the same code, metadata, grid and levels.
-/

namespace Coupling

/-! ## Counts of levels -/

/-- A count of levels that a component can be configured with. -/
inductive LevelCount where
  | model | soil
  deriving DecidableEq, Repr

namespace LevelCount

def setting : LevelCount → ComponentSetup → Option UInt32
  | .model => ComponentSetup.modelLevels
  | .soil => ComponentSetup.soilLevels

/-- The entry that is missing where `c` is not configured with the count. -/
def key (c : Component) : LevelCount → String
  | .model => s!"{c} model_levels"
  | .soil => s!"{c} soil_levels"

def find (ctx : RunContext) (c : Component) : LevelCount → Except Error UInt32
  | .model => ctx.modelLevels c
  | .soil => ctx.soilLevels c

end LevelCount

/-- The count that the sender of a field is asked for. A land field at the surface needs none. -/
def StashEntry.count? (entry : StashEntry) : Option LevelCount :=
  if entry.grid ≠ 21 then some .model
  else if entry.firstLevel = 8 ∧ entry.lastLevel = 9 then some .soil
  else none

/-- The run context has no entry `key`: not for the component, or not for a count of its levels. -/
inductive RunContext.Lacks (ctx : RunContext) (c : Component) (count : LevelCount) :
    String → Prop
  | component (absent : ctx.components.get? c = none) : ctx.Lacks c count s!"component {c}"
  | setting {setup : ComponentSetup} (found : ctx.components.get? c = some setup)
      (absent : count.setting setup = none) : ctx.Lacks c count (count.key c)

theorem RunContext.soilLevels_eq_ok_iff {ctx : RunContext} {c : Component} {levels : UInt32} :
    ctx.soilLevels c = .ok levels ↔ ctx.Gives c ComponentSetup.soilLevels levels :=
  setting_eq_ok_iff (soilLevels_answers c)

namespace RunContext

variable {ctx : RunContext}

/-- A count is there, or the entry that is reported is missing. -/
theorem gives_or_lacks (ctx : RunContext) (c : Component) (count : LevelCount) :
    (∃ n, ctx.Gives c count.setting n) ∨
      ∃ key, ctx.Lacks c count key ∧ count.find ctx c = .error (missing key) := by
  cases found : ctx.components.get? c with
  | none =>
    refine .inr ⟨_, .component found, ?_⟩
    cases count <;> simp only [LevelCount.find, modelLevels, soilLevels, component, found] <;> rfl
  | some setup =>
    cases given : count.setting setup with
    | some n => exact .inl ⟨n, setup, found, given⟩
    | none =>
      refine .inr ⟨_, .setting found given, ?_⟩
      cases count with
      | model =>
        have absent : setup.modelLevels = none := given
        simp only [LevelCount.find, modelLevels, component, found, bind, Except.bind, absent]
        rfl
      | soil =>
        have absent : setup.soilLevels = none := given
        simp only [LevelCount.find, soilLevels, component, found, bind, Except.bind, absent]
        rfl

/-- Atmospheres that do not disagree on a setting give the same value for it. -/
theorem AgreeOn.eq {setting : ComponentSetup → Option UInt32} (agree : ctx.AgreeOn setting)
    {a b : Component} (ha : a.isAtmosphere = true) (hb : b.isAtmosphere = true) {m n : UInt32}
    (h : ctx.Gives a setting m) (h' : ctx.Gives b setting n) : m = n := by
  have either {c : Component} (hc : c.isAtmosphere = true) : c = .atmosphere ∨ c = .junior := by
    cases c <;> simp [Component.isAtmosphere] at hc ⊢
  rcases either ha with rfl | rfl <;> rcases either hb with rfl | rfl
  · exact h.unique h'
  · exact agree m n h h'
  · exact (agree n m h' h).symm
  · exact h.unique h'

end RunContext

/-- What one atmosphere sends on some levels, the other sends on the same levels, or it lacks the
count of them. -/
theorem Extent.Extents.elsewhere {ctx : RunContext} {entry : StashEntry} {kind : GridKind}
    {extent : Extent} {a b : Component} (agree : ctx.checkLevels = .ok ())
    (ha : a.isAtmosphere = true) (hb : b.isAtmosphere = true)
    (grid : GridKind.ofCode entry.grid = .ok kind)
    (h : Extents ctx a entry.firstLevel entry.lastLevel kind extent) :
    resolve kind entry.firstLevel entry.lastLevel b ctx = .ok extent ∨
      ∃ count key, entry.count? = some count ∧ ctx.Lacks b count key ∧
        resolve kind entry.firstLevel entry.lastLevel b ctx = .error (RunContext.missing key) := by
  have land_iff : kind = .land ↔ entry.grid = 21 := by
    rw [← GridKind.ofCode_land_iff, grid, Except.ok.injEq]
  obtain ⟨modelLevels, soilLevels⟩ := RunContext.checkLevels_eq_ok_iff.1 agree
  cases h with
  | atmosphere above configured spans =>
    rcases ctx.gives_or_lacks b .model with ⟨n, gives⟩ | ⟨key, lacks, missing⟩
    · obtain rfl := modelLevels.eq ha hb (RunContext.modelLevels_eq_ok_iff.1 configured) gives
      have found := RunContext.modelLevels_eq_ok_iff.2 gives
      exact .inl (resolve_eq_ok_iff.2 (.atmosphere above found spans))
    · have air : entry.grid ≠ 21 := fun same => above (land_iff.2 same)
      refine .inr ⟨.model, key, if_pos air, lacks, ?_⟩
      have missing : ctx.modelLevels b = .error (RunContext.missing key) := missing
      rw [resolve, if_neg above, missing]
      rfl
  | surface from_ to_ => exact .inl (resolve_eq_ok_iff.2 (.surface from_ to_))
  | soil from_ to_ configured =>
    rcases ctx.gives_or_lacks b .soil with ⟨n, gives⟩ | ⟨key, lacks, missing⟩
    · obtain rfl := soilLevels.eq ha hb (RunContext.soilLevels_eq_ok_iff.1 configured) gives
      have found := RunContext.soilLevels_eq_ok_iff.2 gives
      exact .inl (resolve_eq_ok_iff.2 (.soil from_ to_ found))
    · have column : entry.count? = some .soil := by
        simp [StashEntry.count?, land_iff.1 rfl, from_, to_]
      refine .inr ⟨.soil, key, column, lacks, ?_⟩
      have missing : ctx.soilLevels b = .error (RunContext.missing key) := missing
      rw [resolve, if_pos rfl, ofLand, from_, to_, missing]
      rfl

/-! ## The field back -/

/-- The names of the field back. -/
def Names.mirrored (names : Names) : Names :=
  { names with source := names.target, target := names.source }

namespace Field

/-- `g` is sent back what `f` sends under these names: a hybrid field under the name on the
receiving side, with the two ends exchanged. -/
structure Mirrors (g f : Field) (names : Names) : Prop where
  hybrid : g.hybrid = true
  name : g.name = names.target
  origin : g.origin = f.dest
  dest : g.dest = f.origin

/-- The record of the field back that keeps all else of `f`. -/
def back (f : Field) (names : Names) : Field :=
  { f with name := names.target, origin := f.dest, dest := f.origin }

variable {f g : Field} {ctx : RunContext}

theorem back_mirrors (names : Names) (hybrid : f.hybrid = true) :
    (f.back names).Mirrors f names :=
  ⟨hybrid, rfl, rfl, rfl⟩

theorem hybridParts_eq_ok_iff {dest : Char} {code : StashCode} :
    f.hybridParts = .ok (dest, code) ↔ f.dest.hybridMarker = some dest ∧ f.NamesCode code := by
  simp only [hybridParts, bind_eq_ok, pure_eq_ok]
  constructor
  · rintro ⟨⟨origin, dest'⟩, ends, code', named, parts⟩
    obtain ⟨rfl, rfl⟩ := Prod.mk.inj parts
    obtain ⟨sender, receiver⟩ := hybridEnds_eq_ok_iff.1 ends
    exact ⟨receiver, (hybridCode_eq_ok_iff sender).1 named⟩
  · rintro ⟨receiver, marker, digits, sender, named⟩
    exact ⟨(marker, dest), hybridEnds_eq_ok_iff.2 ⟨sender, receiver⟩, code,
      (hybridCode_eq_ok_iff sender).2 ⟨marker, digits, sender, named⟩, rfl⟩

/-- The field back holds the same code, and its name on the receiving side is the name of `f`. -/
theorem Mirrors.hybridParts {dest : Char} {code : StashCode} {entry : StashEntry}
    {kind : GridKind} {extent : Extent}
    (mirrors : g.Mirrors f (f.catalogued dest code entry kind extent).names)
    (parts : f.hybridParts = .ok (dest, code)) :
    ∃ marker, g.hybridParts = .ok (marker, code) ∧
      (g.catalogued marker code entry kind extent).names =
        (f.catalogued dest code entry kind extent).names.mirrored := by
  obtain ⟨receiver, marker, digits, sender, name, parsed⟩ := hybridParts_eq_ok_iff.1 parts
  have written : code.text.toList = digits := by
    rw [StashCode.text_of_parse? parsed, String.toList_ofList]
  have back : g.name.toList = dest :: digits := by
    rw [mirrors.name, ← written]
    exact String.toList_ofList
  have target : String.ofList (marker :: code.text.toList) = f.name := by
    rw [written, ← name, String.ofList_toList]
  refine ⟨marker, hybridParts_eq_ok_iff.2 ⟨?_, dest, digits, ?_, back, parsed⟩, ?_⟩
  · rw [mirrors.dest, sender]
  · rw [mirrors.origin, receiver]
  · simp only [catalogued, Names.mirrored, target, mirrors.name]

end Field

/-- Where the levels of the atmospheres do not disagree, a hybrid field and the field back agree:
they resolve to each other's names, under one key, to one name and one code, on the same grid and
levels. Nothing but a count of levels that the other atmosphere is not configured with can be in the
way. -/
theorem mirror_agrees {f g : Field} {ctx : RunContext} {m : Stashmaster} {read read' : FileReader}
    {c c' : StashCatalogue} {names : Names} (levels : ctx.checkLevels = .ok ())
    (hybrid : f.hybrid = true) (uses : c.Uses read ctx m) (uses' : c'.Uses read' ctx m)
    (resolves : (f.resolve ctx read c).names.result = .ok names) (mirrors : g.Mirrors f names) :
    let there := f.resolve ctx read c
    let back := g.resolve ctx read' c'
    (back.names.result = .ok names.mirrored ∧ back.field.grid = there.field.grid ∧
      back.field.levels = there.field.levels ∧ back.field.soil = there.field.soil) ∨
    ∃ code entry count key, names.stash = some code ∧ m.entries.get? code = some entry ∧
      entry.count? = some count ∧ ctx.Lacks g.origin count key ∧
      back.names.result = .error ((RunContext.missing key).note "stash" code.text) := by
  obtain ⟨dest, code, m', entry, kind, extent, parts, used, found, grid, extentOf, attempt⟩ :=
    Field.exists_of_resolve hybrid resolves
  obtain rfl := uses.unique used
  obtain rfl : (f.catalogued dest code entry kind extent).names = names := by
    rw [attempt] at resolves
    exact Except.ok.inj resolves
  obtain ⟨marker, parts', mirrored⟩ := mirrors.hybridParts parts
  obtain ⟨receiver, sender⟩ := Field.hybridParts_eq_ok_iff.1 parts
  obtain ⟨origin, -, sender, -⟩ := sender
  have ends : f.origin.isAtmosphere = true ∧ g.origin.isAtmosphere = true :=
    ⟨Component.isAtmosphere_iff.2 ⟨origin, sender⟩,
      Component.isAtmosphere_iff.2 ⟨dest, mirrors.origin ▸ receiver⟩⟩
  rcases (Extent.resolve_eq_ok_iff.1 extentOf).elsewhere levels ends.1 ends.2 grid with
    same | ⟨count, key, asked, lacks, missing⟩
  · have back := Field.resolve_of_hybrid mirrors.hybrid parts' uses' found grid same
    refine .inl ?_
    rw [back, attempt]
    exact ⟨congrArg Except.ok mirrored, rfl, rfl, rfl⟩
  · refine .inr ⟨code, entry, count, key, rfl, Stashmaster.find_eq_ok_iff.1 found, asked, lacks, ?_⟩
    rw [Field.names_of_hybrid mirrors.hybrid uses']
    simp only [Field.resolveHybrid, parts', found, Field.resolveEntry, grid, missing, noting, bind,
      Except.bind, Except.map]

/-- Both atmospheres are configured with model levels, and only one of them with soil levels. -/
theorem mirror_agrees_temperature :
    (∃ names, (airTemperature.resolve temperatureRun noFiles
        ⟨some (Stashmaster.parse temperatureMaster)⟩).names.result = .ok names ∧
      ((airTemperature.back names).resolve temperatureRun noFiles
        ⟨some (Stashmaster.parse temperatureMaster)⟩).names.result = .ok names.mirrored ∧
      names.mirrored.source = "J03236" ∧ names.mirrored.target = "A03236") ∧
    ∃ names e, (soilMoisture.resolve (soilRun 4) soilFiles {}).names.result = .ok names ∧
      ((soilMoisture.back names).resolve (soilRun 4) soilFiles {}).names.result = .error e ∧
      e.message = "run context has no entry for JNR soil_levels" := by
  refine ⟨?_, ?_⟩
  · obtain ⟨names, resolves, source, target, r, back⟩ :
        ∃ names, (airTemperature.resolve temperatureRun noFiles
            ⟨some (Stashmaster.parse temperatureMaster)⟩).names.result = .ok names ∧
          names.mirrored.source = "J03236" ∧ names.mirrored.target = "A03236" ∧
          ∃ r, ((airTemperature.back names).resolve temperatureRun noFiles
            ⟨some (Stashmaster.parse temperatureMaster)⟩).names.result = .ok r :=
      ⟨_, rfl, rfl, rfl, _, rfl⟩
    refine ⟨names, resolves, ?_, source, target⟩
    rcases mirror_agrees rfl rfl (.inl rfl) (.inl rfl) resolves
      (Field.back_mirrors names rfl) with same | ⟨_, _, _, _, -, -, -, -, fails⟩
    · exact same.1
    · cases back.symm.trans fails
  · obtain ⟨names, resolves, e, back, message⟩ :
        ∃ names, (soilMoisture.resolve (soilRun 4) soilFiles {}).names.result = .ok names ∧
          ∃ e, ((soilMoisture.back names).resolve (soilRun 4) soilFiles {}).names.result =
            .error e ∧ e.message = "run context has no entry for JNR soil_levels" :=
      ⟨_, rfl, _, rfl, by decide⟩
    have onFile : StashCatalogue.Uses {} soilFiles (soilRun 4) (Stashmaster.parse soilMaster) :=
      .inr ⟨rfl, Stashmaster.load_eq_ok_iff_hasMaster.2 ⟨_, soilRun_hasMaster 4, rfl⟩⟩
    rcases mirror_agrees rfl rfl onFile onFile resolves (Field.back_mirrors names rfl) with
      same | ⟨_, _, _, _, -, -, -, -, fails⟩
    · cases back.symm.trans same.1
    · obtain rfl := Except.error.inj (fails.symm.trans back)
      exact ⟨names, _, resolves, back, message⟩

end Coupling

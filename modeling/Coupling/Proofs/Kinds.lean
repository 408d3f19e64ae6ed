import Coupling.CommandLine
import Coupling.Proofs.Requirements

/-!
# Every error has a kind

Whatever stops a computation is one of the conditions that `Kind` lists:

* `Error.OfKind`: an error has the code of a kind and stands in the family that owns it. Notes and
  hints change neither. An error that is put together from a payload and a kind is of the kind if
  the payload has its code (`ofKind_wrap`), which is checked wherever one is;
* `Owned x`: the computation `x` fails, if at all, with an error of a kind. Notes and sequences keep
  this up, so there is one lemma for each function that can fail;
* `Reported e`: an operation of the library has ended with `e`, and `Extended e e'`: notes and
  hints were added to `e` since. `exitCode_of_reported`: whatever is reported keeps its kind on the
  way up, and the exit code is that of the kind;
* `Classified x`: what is left of this when only the code is looked at.
-/

namespace Coupling

/-- The error has the code of the kind and stands in the family that owns it. -/
structure Error.OfKind (e : Error) (kind : Kind) : Prop where
  code : e.code = kind.code
  family : e.family = kind.family

namespace Error

/-- What is said with the code of a kind makes an error of the kind. -/
theorem ofKind_wrap {kind : Kind} {i : ErrorInfo} (agrees : i.code = kind.code) :
    (wrap kind i).OfKind kind :=
  ⟨agrees, rfl⟩

@[simp] theorem exists_ofKind_of (kind : Kind) (message : String) :
    ∃ k, (of kind message).OfKind k :=
  ⟨kind, ofKind_wrap rfl⟩

@[simp] theorem ofKind_note {e : Error} {kind : Kind} {key value : String} :
    (e.note key value).OfKind kind ↔ e.OfKind kind :=
  ⟨fun h => ⟨h.code, h.family⟩, fun h => ⟨h.code, h.family⟩⟩

@[simp] theorem ofKind_advise {e : Error} {kind : Kind} {hint : String} :
    (e.advise hint).OfKind kind ↔ e.OfKind kind :=
  ⟨fun h => ⟨h.code, h.family⟩, fun h => ⟨h.code, h.family⟩⟩

theorem OfKind.kind? {e : Error} {kind : Kind} (h : e.OfKind kind) : e.kind? = some kind := by
  rw [Error.kind?, h.code]
  exact kind.ofCode?_code

/-- An error of a known kind has the exit code of the kind, which no other outcome has. -/
theorem exitCode_of_kind {e : Error} {kind : Kind} (h : e.kind? = some kind) :
    e.exitCode = kind.exitCode ∧ kind.exitCode ≠ 0 ∧ kind.exitCode ≠ 1 := by
  refine ⟨by rw [exitCode, h]; rfl, ?_⟩
  cases kind <;> decide

end Error

/-- An error of the computation is of a kind. -/
def Owned {α : Type} (x : Except Error α) : Prop :=
  ∀ e, x = .error e → ∃ kind, e.OfKind kind

namespace Owned

variable {α β : Type}

@[simp] theorem ok (a : α) : Owned (.ok a : Except Error α) := nofun

@[simp] theorem error_iff {e : Error} :
    Owned (.error e : Except Error α) ↔ ∃ kind, e.OfKind kind := by
  constructor
  · exact fun h => h e rfl
  · rintro known _ ⟨⟩
    exact known

theorem bind {x : Except Error α} {next : α → Except Error β} (h : Owned x)
    (then_ : ∀ a, Owned (next a)) : Owned (x >>= next) := by
  cases x with
  | ok a => exact then_ a
  | error e => exact error_iff.2 (h e rfl)

theorem map {x : Except Error α} (f : α → β) (h : Owned x) :
    Owned (x >>= fun a => pure (f a)) :=
  h.bind fun a => ok (f a)

theorem noting {key value : String} {x : Except Error α} (h : Owned x) :
    Owned (Coupling.noting key value x) := by
  cases x with
  | ok a => exact ok a
  | error e =>
    obtain ⟨kind, known⟩ := h e rfl
    exact error_iff.2 ⟨kind, Error.ofKind_note.2 known⟩

theorem mapM {f : α → Except Error β} (h : ∀ a, Owned (f a)) (as : List α) :
    Owned (as.mapM f) := by
  induction as with
  | nil => exact ok []
  | cons a as ih =>
    rw [List.mapM_cons]
    exact (h a).bind fun _ => ih.map _

end Owned

/-! ## Declarations -/

theorem Component.read_owned (text : String) : Owned (read text) := by
  unfold read
  dsimp only
  split <;> simp

theorem Direction.read_owned (text : String) : Owned (read text) := by
  have end_ (whole part : String) : Owned (readEnd whole part) := by
    unfold readEnd
    split <;> simp
  unfold read
  split
  · simp
  · exact (end_ _ _).bind fun _ => (end_ _ _).map _

namespace Spec

theorem readNumber_owned {α : Type} (number? : String → Option α) (what raw : String) :
    Owned (readNumber number? what raw) := by
  unfold readNumber
  split <;> simp

theorem readGrid_owned (raw : String) : Owned (readGrid raw) := by
  unfold readGrid
  split
  · split <;> simp
  · simp

theorem readDest_owned (origin : Component) (raw : String) :
    Owned (readDest origin raw) := by
  refine (Component.read_owned raw).bind ?_
  intro dest
  split <;> simp

theorem readLevels_owned (raw : String) : Owned (readLevels raw) := by
  unfold readLevels
  split
  · simp
  · refine (readNumber_owned _ _ _).bind ?_
    intro levels
    split <;> simp

theorem readMapping_owned (raw : String) : Owned (readMapping raw) := by
  have token (word : String) : Owned (readToken word) := by
    unfold readToken
    split <;> simp
  have order (word : String) : Owned (readOrder word) := by
    unfold readOrder
    split <;> simp
  unfold readMapping
  split
  · exact (token raw).map _
  · exact (token _).bind fun _ => (order _).map _

theorem chooseMapping_owned (inherited : Inherited) (raw : String) :
    Owned (chooseMapping inherited raw) := by
  unfold chooseMapping
  split
  · split <;> simp
  · exact readMapping_owned raw

theorem chooseWeight_owned (inherited : Inherited) (raw : String) :
    Owned (chooseWeight inherited raw) := by
  unfold chooseWeight
  split
  · split <;> simp
  · exact readNumber_owned _ _ _

theorem readPeriod_owned (raw : String) : Owned (readPeriod raw) := by
  unfold readPeriod
  split
  · simp
  · exact (readNumber_owned Text.uint32? "freq" raw).map some

theorem read_owned (origin : Component) (inherited : Inherited) (text : String) :
    Owned (read origin inherited text) := by
  unfold read
  split
  · simp
  · split
    · split
      · simp
      · split
        · simp
        · refine (readNumber_owned _ _ _).bind fun _ => ?_
          refine (readGrid_owned _).bind fun _ => ?_
          refine (Owned.mapM (readDest_owned origin) _).bind fun _ => ?_
          refine (readLevels_owned _).bind fun _ => ?_
          refine (chooseMapping_owned _ _).bind fun _ => ?_
          refine (chooseWeight_owned _ _).bind fun _ => ?_
          exact (readPeriod_owned _).map _
    · simp

theorem place_owned (make : Component → Int64 → Field) (dests : List Component)
    (weight : Int64) : Owned (place make dests weight) := by
  induction dests generalizing weight with
  | nil => simp [place]
  | cons dest dests ih =>
    have next : Owned (nextWeight weight) := by
      unfold nextWeight
      split <;> simp
    exact next.bind fun later => (ih later).map _

theorem buildFrom_owned (sender : Sender) (inherited : Inherited) (texts : List String) :
    Owned (buildFrom sender inherited texts) := by
  induction texts generalizing inherited with
  | nil => simp [buildFrom]
  | cons text texts ih =>
    rw [buildFrom]
    dsimp only
    split
    · exact (ih inherited).map _
    · have expanded : Owned (expand sender inherited (Text.trim text)) :=
        (read_owned _ _ _).bind fun _ => (place_owned _ _ _).map _
      exact expanded.noting.bind fun made => (ih made.2).map _

end Spec

/-! ## Look-ups -/

namespace RunContext

variable (ctx : RunContext) (c : Component)

@[simp] theorem exists_ofKind_missing (what : String) : ∃ kind, (missing what).OfKind kind :=
  ⟨.missingEntry, Error.ofKind_wrap rfl⟩

theorem component_owned : Owned (ctx.component c) := by
  unfold component
  split <;> simp

theorem schedule_owned (d : Direction) : Owned (ctx.schedule d) := by
  unfold schedule
  split <;> simp

theorem period_owned (f : Field) : Owned (ctx.period f) := by
  unfold period
  split
  · simp
  · refine (ctx.schedule_owned f.direction).bind fun schedule => ?_
    split <;> simp

/-- A setting is read once its component is known. -/
theorem setting_owned {α : Type} {value : ComponentSetup → Except Error α}
    (h : ∀ setup, Owned (value setup)) : Owned (ctx.component c >>= value) :=
  (ctx.component_owned c).bind h

theorem modelLevels_owned : Owned (ctx.modelLevels c) := by
  refine ctx.setting_owned c fun setup => ?_
  split <;> simp

theorem soilLevels_owned : Owned (ctx.soilLevels c) := by
  refine ctx.setting_owned c fun setup => ?_
  split <;> simp

theorem resolution_owned : Owned (ctx.resolution c) := by
  refine ctx.setting_owned c fun setup => ?_
  split <;> simp

theorem gridName_owned (letter : Char) : Owned (ctx.gridName c letter) :=
  ctx.setting_owned c fun _ => Owned.ok _

theorem vectorLength_owned : Owned (ctx.vectorLength c) := by
  refine ctx.setting_owned c fun setup => ?_
  dsimp only
  split <;> simp

theorem stashmasterPath_owned : Owned ctx.stashmasterPath := by
  unfold stashmasterPath
  split <;> simp

end RunContext

namespace Stashmaster

theorem find_owned (m : Stashmaster) (code : StashCode) : Owned (m.find code) := by
  unfold find
  split <;> simp

theorem load_owned (read : FileReader) (ctx : RunContext) : Owned (load read ctx) := by
  refine ctx.stashmasterPath_owned.bind fun path => ?_
  split
  · simp
  · exact Owned.error_iff.2 ⟨.missingStashmaster, Error.ofKind_wrap rfl⟩

end Stashmaster

theorem StashCatalogue.lookup_owned (c : StashCatalogue) (read : FileReader) (ctx : RunContext)
    (code : StashCode) : Owned (c.lookup read ctx code).1 := by
  unfold lookup
  split
  · exact Stashmaster.find_owned _ code
  · split
    · exact Stashmaster.find_owned _ code
    · next fails =>
      rw [Owned.error_iff]
      exact Stashmaster.load_owned read ctx _ fails

/-! ## Fields -/

theorem GridKind.ofCode_owned (code : Int) : Owned (ofCode code) := by
  unfold ofCode
  repeat' split
  all_goals simp

namespace Extent

theorem ofLand_owned (first last : Int) {soilLevels : Except Error UInt32}
    (h : Owned soilLevels) : Owned (ofLand first last soilLevels) := by
  unfold ofLand
  split
  · simp
  · split
    · exact h.map _
    · simp [unrecognised]

theorem resolve_owned (kind : GridKind) (first last : Int) (c : Component) (ctx : RunContext) :
    Owned (resolve kind first last c ctx) := by
  unfold resolve
  split
  · exact ofLand_owned first last (ctx.soilLevels_owned c)
  · refine (ctx.modelLevels_owned c).bind fun modelLevels => ?_
    split <;> simp [unrecognised]

end Extent

theorem remappingArguments_owned (mapping : Mapping) (order : Option UInt8) :
    Owned (remappingArguments mapping order) := by
  cases mapping <;> simp [remappingArguments]

namespace Field

variable (f : Field) (ctx : RunContext)

theorem hybridParts_owned : Owned f.hybridParts := by
  have ends : Owned f.hybridEnds := by
    unfold hybridEnds
    split <;> simp
  have code (marker : Char) : Owned (f.hybridCode marker) := by
    unfold hybridCode
    dsimp only
    split <;> simp
  exact ends.bind fun _ => (code _).map _

/-- Resolving a field adds nothing that has no kind to what the catalogue reports. -/
theorem resolveWith_owned {lookup : StashCode → Except Error StashEntry}
    (known : ∀ code, Owned (lookup code)) : Owned (f.resolveWith ctx lookup).result := by
  unfold resolveWith
  split
  · refine f.hybridParts_owned.bind fun parts => (known parts.2).noting.bind fun entry => ?_
    refine (GridKind.ofCode_owned entry.grid).noting.bind fun kind => ?_
    exact (Extent.resolve_owned kind _ _ _ ctx).noting.map _
  · rw [resolveTagged_result]
    exact Owned.ok _

theorem names_owned (read : FileReader) (c : StashCatalogue) :
    Owned (f.resolve ctx read c).names.result := by
  have resolved := f.resolveWith_owned ctx fun code => c.lookup_owned read ctx code
  intro e fails
  refine resolved e ?_
  revert fails
  simp only [resolve]
  cases (f.resolveWith ctx fun code => (c.lookup read ctx code).1).result <;> simp [Except.map]

theorem gridLines_owned (seq : UInt32) : Owned (f.gridLines ctx seq) := by
  have dimensions (c : Component) : Owned (f.dimensions ctx c) :=
    (ctx.resolution_owned c).map _
  have remapping (source target : String) : Owned (f.remappingLines ctx source target) := by
    unfold remappingLines
    split
    · exact (remappingArguments_owned _ _).noting.map _
    · simp
  refine (ctx.gridName_owned f.origin f.grid).bind fun source => ?_
  refine (ctx.gridName_owned f.dest f.grid).bind fun target => ?_
  split
  · exact Owned.ok _
  · exact (ctx.vectorLength_owned f.origin).bind fun _ => (ctx.vectorLength_owned f.dest).map _
  · exact (dimensions f.origin).bind fun _ => (dimensions f.dest).bind fun _ =>
      (remapping _ _).map _

end Field

theorem Progress.addAll_owned {ctx : RunContext} {lookup : StashCode → Except Error StashEntry}
    (known : ∀ code, Owned (lookup code)) (p : Progress) (fields : List Field) :
    Owned (p.addAll ctx lookup fields).result := by
  induction fields generalizing p with
  | nil => exact Owned.ok p
  | cons f fields ih =>
    have added : Owned (p.add ctx lookup f).result := by
      simp only [Progress.add, Logged.result_noting, Logged.result_bind, Logged.result_of]
      refine Owned.noting ((ctx.period_owned f).bind fun period => ?_)
      refine (f.resolveWith_owned ctx known).bind fun r => ?_
      exact ((r.field.gridLines_owned ctx _).map _).map _
    rw [Progress.addAll, Logged.result_bind]
    exact added.bind fun later => ih later

/-! ## Stages -/

theorem Request.build_owned (r : Request) : Owned r.build :=
  (Spec.buildFrom_owned r.sender {} r.specs).noting

theorem Request.buildAll_owned (requests : List Request) : Owned (buildAll requests) :=
  (Owned.mapM build_owned requests).map _

theorem expandDefaults_owned (ctx : RunContext) (fields : List Field) :
    Owned (expandDefaults ctx fields).result := by
  have each (d : Direction) : Owned d.defaultFields :=
    Spec.buildFrom_owned { origin := d.origin } {} d.defaultSpecs
  rw [expandDefaults_result]
  split
  · exact (Owned.mapM each _).map _
  · simp

theorem RunContext.checkLevels_owned (ctx : RunContext) : Owned ctx.checkLevels := by
  have agreement (kind : Kind) (what : String) (a j : Option UInt32) :
      Owned (checkAgreement kind what a j) := by
    unfold checkAgreement
    split
    · split <;> simp
    · simp
  unfold checkLevels
  split
  · exact (agreement _ _ _ _).bind fun _ => agreement _ _ _ _
  · simp

theorem checkWeights_owned (fields : List Field) : Owned (checkWeights fields) := by
  have after (seen rest : List Field) : Owned (checkWeightsAfter seen rest) := by
    induction rest generalizing seen with
    | nil => simp [checkWeightsAfter]
    | cons f rest ih =>
      rw [checkWeightsAfter]
      split
      · simp [clash]
      · exact ih (f :: seen)
  exact after [] (retained fields)

theorem RunContext.check_owned (ctx : RunContext) (fields : List Field) :
    Owned (ctx.check fields).outcome.result := by
  unfold check
  split
  · next fails =>
    rw [Owned.error_iff]
    exact ctx.checkLevels_owned _ fails
  · exact checkWeights_owned fields

theorem renderWith_owned (read : FileReader) (ctx : RunContext) (fields : List Field) :
    Owned (renderWith read ctx fields).result := by
  have known (code : StashCode) : Owned (catalogue read ctx code) :=
    (Stashmaster.load_owned read ctx).bind fun m => m.find_owned code
  rw [renderWith_eq, render, Logged.result_bind]
  exact (Progress.addAll_owned known {} (retained fields)).map _

theorem compile_owned (read : FileReader) (ctx : RunContext) (requests : List Request) :
    Owned (compile read ctx requests).result := by
  rw [compile_result]
  refine (Request.buildAll_owned requests).bind fun explicit => ?_
  refine (expandDefaults_owned ctx explicit).bind fun records => ?_
  refine ctx.checkLevels_owned.bind fun _ => ?_
  refine (checkWeights_owned records).bind fun _ => ?_
  exact (renderWith_owned read _ _).map _

/-! ## Files -/

@[simp] theorem FileFault.exists_ofKind_error (fault : FileFault) (stage path : String) :
    ∃ kind, (fault.error stage path).OfKind kind :=
  ⟨.output, Error.ofKind_wrap rfl⟩

@[simp] theorem Format.exists_ofKind_undecodable (f : Format) (complaint : String) :
    ∃ kind, (f.undecodable complaint).OfKind kind :=
  ⟨.invalidInput, Error.ofKind_wrap rfl⟩

section
variable {α : Type} (read : FileReader) (path : String)

theorem Format.decode_owned (f : Format) (decoder : Decoder α) (bytes : ByteArray) :
    Owned (f.decode decoder bytes) := by
  unfold decode
  cases decoder bytes with
  | ok a => exact Owned.ok a
  | error complaint => simp [Except.mapError]

theorem loadYaml_owned (decoder : Decoder α) : Owned (loadYaml decoder read path) := by
  unfold loadYaml
  split
  · exact (Format.decode_owned _ _ _).noting
  · exact Owned.error_iff.2 ⟨.invalidInput, Error.ofKind_wrap rfl⟩

theorem RunContext.load_owned (decoder : Decoder RunContext) : Owned (load decoder read path) :=
  (loadYaml_owned read path decoder).map _

theorem Request.load_owned (decoder : Decoder (List Request)) : Owned (load decoder read path) :=
  loadYaml_owned read path decoder

theorem Manifest.load_owned (decoder : Decoder Manifest) : Owned (load decoder read path) := by
  unfold load
  split
  · exact (Format.decode_owned _ _ _).noting
  · simp

end

theorem OutputStep.performAll_owned (steps : List OutputStep) (t : FileTree) :
    Owned (performAll steps t).2 := by
  induction steps generalizing t with
  | nil => exact Owned.ok ()
  | cons s steps ih =>
    rw [performAll]
    split
    · exact ih _
    · simp [error]

theorem Compiled.write_owned (c : Compiled) (directory : String) (t : FileTree) :
    Owned (c.write directory t).2.result := by
  have steps := OutputStep.performAll_owned (c.steps directory) t
  simp only [write, Logged.result_bind, Logged.result_of]
  exact steps.bind fun _ => Owned.ok _

/-! ## All operations -/

/-- An operation of the library has ended with this error. -/
inductive Reported : Error → Prop
  | component {text : String} {e : Error} (fails : Component.read text = .error e) : Reported e
  | direction {text : String} {e : Error} (fails : Direction.read text = .error e) : Reported e
  | specifications {sender : Sender} {texts : List String} {e : Error}
      (fails : Spec.build sender texts = .error e) : Reported e
  | request {r : Request} {e : Error} (fails : r.build = .error e) : Reported e
  | defaults {ctx : RunContext} {fields : List Field} {e : Error}
      (fails : (expandDefaults ctx fields).result = .error e) : Reported e
  | levels {ctx : RunContext} {e : Error} (fails : ctx.checkLevels = .error e) : Reported e
  | weights {fields : List Field} {e : Error} (fails : checkWeights fields = .error e) : Reported e
  | check {ctx : RunContext} {fields : List Field} {e : Error}
      (fails : (ctx.check fields).outcome.result = .error e) : Reported e
  | setup {ctx : RunContext} {c : Component} {e : Error} (fails : ctx.component c = .error e) :
      Reported e
  | schedule {ctx : RunContext} {d : Direction} {e : Error} (fails : ctx.schedule d = .error e) :
      Reported e
  | period {ctx : RunContext} {f : Field} {e : Error} (fails : ctx.period f = .error e) :
      Reported e
  | modelLevels {ctx : RunContext} {c : Component} {e : Error}
      (fails : ctx.modelLevels c = .error e) : Reported e
  | soilLevels {ctx : RunContext} {c : Component} {e : Error}
      (fails : ctx.soilLevels c = .error e) : Reported e
  | resolution {ctx : RunContext} {c : Component} {e : Error}
      (fails : ctx.resolution c = .error e) : Reported e
  | gridName {ctx : RunContext} {c : Component} {letter : Char} {e : Error}
      (fails : ctx.gridName c letter = .error e) : Reported e
  | vectorLength {ctx : RunContext} {c : Component} {e : Error}
      (fails : ctx.vectorLength c = .error e) : Reported e
  | stashmasterPath {ctx : RunContext} {e : Error} (fails : ctx.stashmasterPath = .error e) :
      Reported e
  | grid {code : Int} {e : Error} (fails : GridKind.ofCode code = .error e) : Reported e
  | extent {kind : GridKind} {first last : Int} {c : Component} {ctx : RunContext} {e : Error}
      (fails : Extent.resolve kind first last c ctx = .error e) : Reported e
  | master {read : FileReader} {ctx : RunContext} {e : Error}
      (fails : Stashmaster.load read ctx = .error e) : Reported e
  | entry {m : Stashmaster} {code : StashCode} {e : Error} (fails : m.find code = .error e) :
      Reported e
  | catalogue {c : StashCatalogue} {read : FileReader} {ctx : RunContext} {code : StashCode}
      {e : Error} (fails : (c.lookup read ctx code).1 = .error e) : Reported e
  | names {f : Field} {ctx : RunContext} {read : FileReader} {c : StashCatalogue} {e : Error}
      (fails : (f.resolve ctx read c).names.result = .error e) : Reported e
  | remapping {mapping : Mapping} {order : Option UInt8} {e : Error}
      (fails : remappingArguments mapping order = .error e) : Reported e
  | rendering {read : FileReader} {ctx : RunContext} {fields : List Field} {e : Error}
      (fails : (renderWith read ctx fields).result = .error e) : Reported e
  | compilation {read : FileReader} {ctx : RunContext} {requests : List Request} {e : Error}
      (fails : (compile read ctx requests).result = .error e) : Reported e
  | writing {c : Compiled} {directory : String} {t : FileTree} {e : Error}
      (fails : (c.write directory t).2.result = .error e) : Reported e
  | decoding {α : Type} {format : Format} {decoder : Decoder α} {bytes : ByteArray} {e : Error}
      (fails : format.decode decoder bytes = .error e) : Reported e
  | contextFile {decoder : Decoder RunContext} {read : FileReader} {path : String} {e : Error}
      (fails : RunContext.load decoder read path = .error e) : Reported e
  | requestsFile {decoder : Decoder (List Request)} {read : FileReader} {path : String} {e : Error}
      (fails : Request.load decoder read path = .error e) : Reported e
  | manifestFile {decoder : Decoder Manifest} {read : FileReader} {path : String} {e : Error}
      (fails : Manifest.load decoder read path = .error e) : Reported e

theorem ofKind_of_reported {e : Error} (h : Reported e) : ∃ kind, e.OfKind kind := by
  cases h with
  | component fails => exact Component.read_owned _ e fails
  | direction fails => exact Direction.read_owned _ e fails
  | specifications fails => exact Spec.buildFrom_owned _ {} _ e fails
  | request fails => exact Request.build_owned _ e fails
  | defaults fails => exact expandDefaults_owned _ _ e fails
  | levels fails => exact RunContext.checkLevels_owned _ e fails
  | weights fails => exact checkWeights_owned _ e fails
  | check fails => exact RunContext.check_owned _ _ e fails
  | setup fails => exact RunContext.component_owned _ _ e fails
  | schedule fails => exact RunContext.schedule_owned _ _ e fails
  | period fails => exact RunContext.period_owned _ _ e fails
  | modelLevels fails => exact RunContext.modelLevels_owned _ _ e fails
  | soilLevels fails => exact RunContext.soilLevels_owned _ _ e fails
  | resolution fails => exact RunContext.resolution_owned _ _ e fails
  | gridName fails => exact RunContext.gridName_owned _ _ _ e fails
  | vectorLength fails => exact RunContext.vectorLength_owned _ _ e fails
  | stashmasterPath fails => exact RunContext.stashmasterPath_owned _ e fails
  | grid fails => exact GridKind.ofCode_owned _ e fails
  | extent fails => exact Extent.resolve_owned _ _ _ _ _ e fails
  | master fails => exact Stashmaster.load_owned _ _ e fails
  | entry fails => exact Stashmaster.find_owned _ _ e fails
  | catalogue fails => exact StashCatalogue.lookup_owned _ _ _ _ e fails
  | names fails => exact Field.names_owned _ _ _ _ e fails
  | remapping fails => exact remappingArguments_owned _ _ e fails
  | rendering fails => exact renderWith_owned _ _ _ e fails
  | compilation fails => exact compile_owned _ _ _ e fails
  | writing fails => exact Compiled.write_owned _ _ _ e fails
  | decoding fails => exact Format.decode_owned _ _ _ e fails
  | contextFile fails => exact RunContext.load_owned _ _ _ e fails
  | requestsFile fails => exact Request.load_owned _ _ _ e fails
  | manifestFile fails => exact Manifest.load_owned _ _ _ e fails

/-- Notes and hints were added to an error. -/
inductive Error.Extended (e : Error) : Error → Prop
  | same : Extended e e
  | note {e' : Error} (h : Extended e e') (key value : String) : Extended e (e'.note key value)
  | advise {e' : Error} (h : Extended e e') (hint : String) : Extended e (e'.advise hint)

theorem Error.Extended.ofKind {e e' : Error} {kind : Kind} (h : e.Extended e')
    (known : e.OfKind kind) : e'.OfKind kind := by
  induction h with
  | same => exact known
  | note _ key value ih => exact ofKind_note.2 ih
  | advise _ hint ih => exact ofKind_advise.2 ih

/-- Whatever an operation reports, with whatever decoders it reads files, has the code of a kind
and stands in the family of the kind. It keeps both under all notes and hints that are added on the
way up, and so the exit code is the one of the kind: neither that of a success nor that of an
unknown code. -/
theorem exitCode_of_reported {e : Error} (h : Reported e) :
    ∃ kind, ∀ e', e.Extended e' → e'.OfKind kind ∧
      e'.exitCode = kind.exitCode ∧ e'.exitCode ≠ 0 ∧ e'.exitCode ≠ 1 := by
  obtain ⟨kind, known⟩ := ofKind_of_reported h
  refine ⟨kind, ?_⟩
  intro e' later
  have kept := later.ofKind known
  obtain ⟨code, failure⟩ := Error.exitCode_of_kind kept.kind?
  rw [← code] at failure
  exact ⟨kept, code, failure⟩

/-- A direction with an unknown end, as the loader of a file would report it. -/
theorem exitCode_of_reported_direction :
    ∃ e, Direction.read "ATM2ICE" = .error e ∧
      ((e.note "path" "run_info.yaml").advise "known components: ATM, JNR, OCN, RIV").OfKind
        .invalidInput ∧
      ((e.note "path" "run_info.yaml").advise "known components: ATM, JNR, OCN, RIV").exitCode =
        51 := by
  obtain ⟨e, fails, code⟩ : ∃ e, Direction.read "ATM2ICE" = .error e ∧
      e.code = Kind.invalidInput.code := ⟨_, rfl, by decide⟩
  obtain ⟨kind, all⟩ := exitCode_of_reported (.direction fails)
  obtain ⟨kept, exit, -⟩ := all _ ((Error.Extended.same.note "path" "run_info.yaml").advise
    "known components: ATM, JNR, OCN, RIV")
  have same : kind = .invalidInput := by
    have listed := (all e .same).1.kind?
    rw [Error.kind?, code, Kind.ofCode?_code] at listed
    exact (Option.some.inj listed).symm
  subst same
  exact ⟨e, fails, kept, exit⟩

/-! ## Codes alone -/

/-- An error of the computation is of a known kind. -/
def Classified {α : Type} (x : Except Error α) : Prop :=
  ∀ e, x = .error e → ∃ kind, e.kind? = some kind

theorem Owned.classified {α : Type} {x : Except Error α} (h : Owned x) : Classified x := by
  intro e fails
  obtain ⟨kind, known⟩ := h e fails
  exact ⟨kind, known.kind?⟩

theorem CommandLine.Inputs.compile_result (inputs : Inputs) (decoders : Decoders)
    (read : FileReader) : (inputs.compile decoders read).result =
      RunContext.load decoders.context read inputs.context >>= fun ctx =>
        Request.load decoders.requests read inputs.couplings >>= fun requests =>
          (Coupling.compile read ctx requests).result := by
  simp only [compile, Logged.result_bind, Logged.result_of]

theorem CommandLine.Inputs.compile_classified (inputs : Inputs) (decoders : Decoders)
    (read : FileReader) : Classified (inputs.compile decoders read).result := by
  rw [compile_result]
  refine Owned.classified ((RunContext.load_owned read _ _).bind fun ctx => ?_)
  refine (Request.load_owned read _ _).bind fun requests => ?_
  exact compile_owned read ctx requests

end Coupling

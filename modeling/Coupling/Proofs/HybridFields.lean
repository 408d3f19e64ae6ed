import Coupling.Proofs.Catalogue
import Coupling.Proofs.Compilation
import Coupling.Proofs.Extent
import Coupling.Proofs.Lookups

/-!
# What a hybrid field needs

A hybrid field is resolved by the code in its name and the catalogue on file:

* `Field.NamesCode` and `Field.HasEntry`: the code that the name holds, and what the catalogue says
  about it. There is at most one of each;
* `StashEntry.OnKnownGrid` and the conditions after it: what the entry has to say, and what the
  sender has to be configured with for it;
* `Field.hybridRequirements` lists all this in the order in which it is looked at, and
  `resolveHybrid_checks` says that resolving a hybrid field checks nothing else.
-/

namespace Coupling

/-- The directory of the catalogue is configured, and the file there is this text. -/
def RunContext.HasMaster (ctx : RunContext) (read : FileReader) (text : String) : Prop :=
  ∃ path, ctx.stashmasterPath = .ok path ∧ read path = .ok text.toUTF8

namespace StashEntry

variable (entry : StashEntry) (ctx : RunContext) (origin : Component)

def OnKnownGrid : Prop := entry.grid ∈ ([1, 2, 3, 18, 19, 21] : List Int)

/-- Fields of the air count their levels within the model levels of the sender. -/
def HasModelLevels : Prop :=
  entry.grid ≠ 21 → ∃ levels, ctx.Gives origin ComponentSetup.modelLevels levels

/-- The level markers of a land field are known, and those of a field of the air enclose some
levels. -/
def HasMarkers : Prop :=
  if entry.grid = 21 then
    (entry.firstLevel = -1 ∧ entry.lastLevel = -1) ∨ (entry.firstLevel = 8 ∧ entry.lastLevel = 9)
  else ∃ levels count : UInt32, ctx.Gives origin ComponentSetup.modelLevels levels ∧
    Extent.Spans entry.firstLevel entry.lastLevel levels count.toNat

/-- The soil column is as deep as the sender has soil levels. -/
def HasSoilLevels : Prop :=
  entry.grid = 21 ∧ entry.firstLevel = 8 ∧ entry.lastLevel = 9 →
    ∃ levels, ctx.Gives origin ComponentSetup.soilLevels levels

end StashEntry

namespace Field

variable (f : Field) (ctx : RunContext) (read : FileReader)

/-- The name is the marker of the sender and the five digits of the code. -/
def NamesCode (code : StashCode) : Prop :=
  ∃ marker digits, f.origin.hybridMarker = some marker ∧ f.name.toList = marker :: digits ∧
    StashCode.parse? (String.ofList digits) = some code

/-- The catalogue has the entry under the code in the name. -/
def HasEntry (entry : StashEntry) : Prop :=
  ∃ code text, f.NamesCode code ∧ ctx.HasMaster read text ∧
    (Stashmaster.parse text).entries.get? code = some entry

def hybridRequirements : List Requirement :=
  [⟨.wrongFormat, f.origin.isAtmosphere = true ∧ f.dest.isAtmosphere = true⟩,
   ⟨.unknownStashCode, ∃ marker digits, f.origin.hybridMarker = some marker ∧
      f.name.toList = marker :: digits ∧ digits.length = 5 ∧ ∀ c ∈ digits, c.isDigit = true⟩,
   ⟨.missingStashmaster, ∃ text, ctx.HasMaster read text⟩,
   ⟨.unknownStashCode, ∃ entry, f.HasEntry ctx read entry⟩,
   ⟨.unrecognisedGrid, ∃ entry, f.HasEntry ctx read entry ∧ entry.OnKnownGrid⟩,
   ⟨.missingEntry, ∃ entry, f.HasEntry ctx read entry ∧ entry.HasModelLevels ctx f.origin⟩,
   ⟨.unrecognisedLevel, ∃ entry, f.HasEntry ctx read entry ∧ entry.HasMarkers ctx f.origin⟩,
   ⟨.missingEntry, ∃ entry, f.HasEntry ctx read entry ∧ entry.HasSoilLevels ctx f.origin⟩]

end Field

theorem Text.exists_digits?_iff {s : List Char} :
    (∃ n, digits? s = some n) ↔ s ≠ [] ∧ s.all Char.isDigit = true := by
  unfold digits?
  split
  · next shape => exact ⟨fun _ => shape, fun _ => ⟨_, rfl⟩⟩
  · next shape => exact ⟨nofun, fun h => absurd h shape⟩

theorem StashCode.exists_parse?_iff {digits : List Char} :
    (∃ code, parse? (String.ofList digits) = some code) ↔
      digits.length = 5 ∧ ∀ c ∈ digits, c.isDigit = true := by
  rw [parse?, String.toList_ofList]
  constructor
  · rintro ⟨code, h⟩
    split at h
    · next a b c d e =>
      obtain ⟨sectionNo, hsection, itemNo, hitem, -⟩ := by
        simpa only [Option.bind_eq_bind, Option.bind_eq_some_iff] using h
      have first := (Text.exists_digits?_iff.1 ⟨sectionNo, hsection⟩).2
      have second := (Text.exists_digits?_iff.1 ⟨itemNo, hitem⟩).2
      refine ⟨rfl, ?_⟩
      simp only [List.all_cons, Bool.and_eq_true] at first second
      simp [first, second]
    · cases h
  · rintro ⟨five, all⟩
    match digits, five with
    | [a, b, c, d, e], _ =>
      have first : ∃ n, Text.digits? [a, b] = some n :=
        Text.exists_digits?_iff.2 ⟨nofun, by simp [all]⟩
      have second : ∃ n, Text.digits? [c, d, e] = some n :=
        Text.exists_digits?_iff.2 ⟨nofun, by simp [all]⟩
      obtain ⟨sectionNo, hsection⟩ := first
      obtain ⟨itemNo, hitem⟩ := second
      exact ⟨_, by simp only [hsection, hitem]; rfl⟩

theorem Component.isAtmosphere_iff {c : Component} :
    c.isAtmosphere = true ↔ ∃ marker, c.hybridMarker = some marker := by
  cases c <;> simp [isAtmosphere, hybridMarker]

theorem Stashmaster.find_answers (m : Stashmaster) (code : StashCode) :
    Answers (m.entries.get? code) .unknownStashCode (m.find code) := by
  unfold find
  cases m.entries.get? code with
  | some entry => rfl
  | none => exact ⟨_, rfl, by simp⟩

section
variable {ctx : RunContext} {read : FileReader}

theorem Stashmaster.load_eq_ok_iff_hasMaster {m : Stashmaster} :
    load read ctx = .ok m ↔ ∃ text, ctx.HasMaster read text ∧ m = parse text := by
  simp only [load_eq_ok_iff, FileReader.text_eq_ok_iff, RunContext.HasMaster]
  constructor
  · rintro ⟨path, text, configured, content, rfl⟩
    exact ⟨text, ⟨path, configured, content⟩, rfl⟩
  · rintro ⟨text, ⟨path, configured, content⟩, rfl⟩
    exact ⟨path, text, configured, content, rfl⟩

/-- A catalogue is its text. -/
theorem catalogue_of_hasMaster {text : String} (h : ctx.HasMaster read text) :
    catalogue read ctx = (Stashmaster.parse text).find := by
  have loaded := Stashmaster.load_eq_ok_iff_hasMaster.2 ⟨text, h, rfl⟩
  funext code
  rw [catalogue, loaded]
  rfl

/-- Nothing but the catalogue itself can be missing when it is read. -/
theorem Stashmaster.load_checks :
    Checks (load read ctx) [⟨.missingStashmaster, ∃ text, ctx.HasMaster read text⟩] := by
  refine .single ?_ ?_
  · intro m loaded
    obtain ⟨text, master, -⟩ := load_eq_ok_iff_hasMaster.1 loaded
    exact ⟨text, master⟩
  · intro e fails
    refine ⟨?_, ?_⟩
    · rintro ⟨text, master⟩
      exact absurd (fails.symm.trans (load_eq_ok_iff_hasMaster.2 ⟨text, master, rfl⟩)) nofun
    · unfold load RunContext.stashmasterPath at fails
      cases directory : ctx.stashDirectory with
      | none =>
        rw [directory] at fails
        cases fails
        simp
      | some directory =>
        simp only [directory, bind, Except.bind] at fails
        split at fails
        · cases fails
        · cases fails
          simp

/-- The catalogue stays where it is. -/
theorem RunContext.hasMaster_tighten {text : String} :
    ctx.tighten.HasMaster read text ↔ ctx.HasMaster read text := Iff.rfl

/-- The file system says at most one thing about the text of the catalogue. -/
theorem RunContext.HasMaster.unique {text other : String} (h : ctx.HasMaster read text)
    (h' : ctx.HasMaster read other) : text = other := by
  obtain ⟨path, configured, content⟩ := h
  obtain ⟨path', configured', content'⟩ := h'
  obtain rfl : path = path' := Except.ok.inj (configured.symm.trans configured')
  have read := FileReader.text_eq_ok_iff.2 content
  exact Except.ok.inj (read.symm.trans (FileReader.text_eq_ok_iff.2 content'))

end

namespace Field

variable {f : Field} {ctx : RunContext} {read : FileReader}

theorem hybridEnds_answers (f : Field) :
    Answers (do
      let origin ← f.origin.hybridMarker
      let dest ← f.dest.hybridMarker
      return (origin, dest)) .wrongFormat f.hybridEnds := by
  unfold hybridEnds
  cases f.origin.hybridMarker with
  | none => exact ⟨_, rfl, by simp⟩
  | some origin =>
    cases f.dest.hybridMarker with
    | none => exact ⟨_, rfl, by simp⟩
    | some dest => rfl

theorem hybridEnds_eq_ok_iff {origin dest : Char} :
    f.hybridEnds = .ok (origin, dest) ↔
      f.origin.hybridMarker = some origin ∧ f.dest.hybridMarker = some dest := by
  rw [f.hybridEnds_answers.eq_ok_iff]
  cases f.origin.hybridMarker with
  | none => simp
  | some o => cases f.dest.hybridMarker <;> simp

theorem hybridEnds_checks : Checks f.hybridEnds
    [⟨.wrongFormat, f.origin.isAtmosphere = true ∧ f.dest.isAtmosphere = true⟩] := by
  refine f.hybridEnds_answers.checks.congr (Iff.symm ?_)
  rw [Component.isAtmosphere_iff, Component.isAtmosphere_iff]
  constructor
  · rintro ⟨⟨origin, sender⟩, dest, receiver⟩
    exact ⟨(origin, dest), by rw [sender, receiver]; rfl⟩
  · rintro ⟨ends, both⟩
    obtain ⟨origin, sender, dest, receiver, -⟩ := by
      simpa only [Option.bind_eq_bind, Option.bind_eq_some_iff] using both
    exact ⟨⟨origin, sender⟩, dest, receiver⟩

theorem hybridCode_answers (f : Field) (marker : Char) :
    ∃ found, Answers found .unknownStashCode (f.hybridCode marker) ∧
      ∀ code, found = some code ↔ ∃ digits, f.name.toList = marker :: digits ∧
        StashCode.parse? (String.ofList digits) = some code := by
  unfold hybridCode
  cases f.name.toList with
  | nil => exact ⟨none, ⟨_, rfl, by simp⟩, by simp⟩
  | cons c digits =>
    by_cases same : c = marker
    · subst same
      simp only [if_true]
      refine ⟨StashCode.parse? (String.ofList digits), ?_, ?_⟩
      · cases StashCode.parse? (String.ofList digits) with
        | some code => rfl
        | none => exact ⟨_, rfl, by simp⟩
      · intro code
        simp
    · refine ⟨none, ⟨_, by simp only [if_neg same]; rfl, by simp⟩, ?_⟩
      simp [same]

theorem NamesCode.unique {code other : StashCode} (h : f.NamesCode code)
    (h' : f.NamesCode other) : code = other := by
  obtain ⟨marker, digits, sender, name, parsed⟩ := h
  obtain ⟨marker', digits', sender', name', parsed'⟩ := h'
  obtain ⟨rfl, rfl⟩ : marker = marker' ∧ digits = digits' := by simpa [name] using name'
  exact Option.some.inj (parsed.symm.trans parsed')

theorem namesCode_iff {marker : Char} {code : StashCode}
    (sender : f.origin.hybridMarker = some marker) :
    f.NamesCode code ↔ ∃ digits, f.name.toList = marker :: digits ∧
      StashCode.parse? (String.ofList digits) = some code := by
  simp only [NamesCode, sender, Option.some.injEq, exists_and_left, exists_eq_left']

theorem hybridCode_eq_ok_iff {marker : Char} {code : StashCode}
    (sender : f.origin.hybridMarker = some marker) :
    f.hybridCode marker = .ok code ↔ f.NamesCode code := by
  obtain ⟨found, answers, codes⟩ := f.hybridCode_answers marker
  rw [answers.eq_ok_iff, codes, namesCode_iff sender]

theorem hybridCode_checks {marker : Char} (sender : f.origin.hybridMarker = some marker) :
    Checks (f.hybridCode marker)
      [⟨.unknownStashCode, ∃ marker digits, f.origin.hybridMarker = some marker ∧
        f.name.toList = marker :: digits ∧ digits.length = 5 ∧
        ∀ c ∈ digits, c.isDigit = true⟩] := by
  obtain ⟨found, answers, codes⟩ := f.hybridCode_answers marker
  refine answers.checks.congr (Iff.symm ?_)
  simp only [codes, ← StashCode.exists_parse?_iff]
  constructor
  · rintro ⟨marker', digits, sender', name, code, parsed⟩
    obtain rfl : marker = marker' := Option.some.inj (sender.symm.trans sender')
    exact ⟨code, digits, name, parsed⟩
  · rintro ⟨code, digits, name, parsed⟩
    exact ⟨marker, digits, sender, name, code, parsed⟩

theorem hasEntry_iff {code : StashCode} {text : String} {entry : StashEntry}
    (named : f.NamesCode code) (master : ctx.HasMaster read text) :
    f.HasEntry ctx read entry ↔ (Stashmaster.parse text).entries.get? code = some entry := by
  constructor
  · rintro ⟨code', text', named', master', found⟩
    obtain rfl := named.unique named'
    obtain rfl := master.unique master'
    exact found
  · intro found
    exact ⟨code, text, named, master, found⟩

theorem catalogue_checks {code : StashCode} (named : f.NamesCode code) :
    Checks (catalogue read ctx code)
      [⟨.missingStashmaster, ∃ text, ctx.HasMaster read text⟩,
       ⟨.unknownStashCode, ∃ entry, f.HasEntry ctx read entry⟩] := by
  refine Stashmaster.load_checks.bind ?_
  intro m loaded
  obtain ⟨text, master, rfl⟩ := Stashmaster.load_eq_ok_iff_hasMaster.1 loaded
  refine (Stashmaster.find_answers _ code).checks.congr ?_
  simp only [hasEntry_iff named master]

/-- The parts of a hybrid field hold the code in its name. -/
theorem namesCode_of_hybridParts {dest : Char} {code : StashCode}
    (h : f.hybridParts = .ok (dest, code)) : f.NamesCode code := by
  simp only [hybridParts, bind_eq_ok, pure_eq_ok] at h
  obtain ⟨⟨origin, dest'⟩, ends, code', named, parts⟩ := h
  obtain ⟨-, rfl⟩ := Prod.mk.inj parts
  exact (hybridCode_eq_ok_iff (hybridEnds_eq_ok_iff.1 ends).1).1 named

theorem hybridParts_checks : Checks f.hybridParts
    [⟨.wrongFormat, f.origin.isAtmosphere = true ∧ f.dest.isAtmosphere = true⟩,
     ⟨.unknownStashCode, ∃ marker digits, f.origin.hybridMarker = some marker ∧
        f.name.toList = marker :: digits ∧ digits.length = 5 ∧
        ∀ c ∈ digits, c.isDigit = true⟩] := by
  refine hybridEnds_checks.bind ?_
  rintro ⟨origin, dest⟩ ends
  exact (hybridCode_checks (hybridEnds_eq_ok_iff.1 ends).1).map

end Field

theorem GridKind.ofCode_checks (code : Int) : Checks (ofCode code)
    [⟨.unrecognisedGrid, code ∈ ([1, 2, 3, 18, 19, 21] : List Int)⟩] := by
  unfold ofCode
  split
  · next known => exact .passed _ (by simp at known ⊢; omega)
  split
  · exact .passed _ (by simp_all)
  split
  · exact .passed _ (by simp_all)
  split
  · exact .passed _ (by simp_all)
  · exact .failed (by simp_all) (by simp)

theorem Extent.markers_checks (first last : Int) (modelLevels : UInt32) :
    Checks (match atmosphereLevels? first last modelLevels with
      | some levels => .ok (Extent.mk levels false)
      | none => .error (unrecognised first last))
      [⟨.unrecognisedLevel, ∃ count : UInt32, Spans first last modelLevels count.toNat⟩] := by
  simp only [← atmosphereLevels?_eq_some_iff]
  cases atmosphereLevels? first last modelLevels with
  | some levels => exact .passed _ (by simp)
  | none => exact .failed (by simp) (by simp [unrecognised])

theorem Extent.resolve_checks {entry : StashEntry} {kind : GridKind} {ctx : RunContext}
    {c : Component} (grid : GridKind.ofCode entry.grid = .ok kind) :
    Checks (resolve kind entry.firstLevel entry.lastLevel c ctx)
      [⟨.missingEntry, entry.HasModelLevels ctx c⟩, ⟨.unrecognisedLevel, entry.HasMarkers ctx c⟩,
       ⟨.missingEntry, entry.HasSoilLevels ctx c⟩] := by
  have land_iff : kind = .land ↔ entry.grid = 21 := by
    rw [← GridKind.ofCode_land_iff, grid, Except.ok.injEq]
  by_cases land : kind = .land
  · have grid := land_iff.1 land
    have model : entry.HasModelLevels ctx c := fun air => absurd grid air
    rw [resolve, if_pos land, ofLand]
    by_cases surface : entry.firstLevel = -1 ∧ entry.lastLevel = -1
    · rw [if_pos surface]
      refine .passed _ ?_
      simp [StashEntry.HasModelLevels, StashEntry.HasMarkers, StashEntry.HasSoilLevels, grid,
        surface]
    by_cases soil : entry.firstLevel = 8 ∧ entry.lastLevel = 9
    · rw [if_neg surface, if_pos soil]
      have markers : entry.HasMarkers ctx c := by simp [StashEntry.HasMarkers, grid, soil]
      have depth : (∃ levels, ctx.Gives c ComponentSetup.soilLevels levels) ↔
          entry.HasSoilLevels ctx c := by
        simp [StashEntry.HasSoilLevels, grid, soil]
      exact .cons model (.cons markers (RunContext.soilLevels_checks.congr depth).map)
    · rw [if_neg surface, if_neg soil]
      have bad : ¬ entry.HasMarkers ctx c := by
        simp [StashEntry.HasMarkers, grid, surface, soil]
      exact .cons model (.failed bad (by simp [unrecognised]))
  · have grid : entry.grid ≠ 21 := fun same => land (land_iff.2 same)
    have model : (∃ levels, ctx.Gives c ComponentSetup.modelLevels levels) ↔
        entry.HasModelLevels ctx c := by simp [StashEntry.HasModelLevels, grid]
    rw [resolve, if_neg land]
    refine (RunContext.modelLevels_checks.congr model).bind ?_
    intro modelLevels found
    have given := RunContext.modelLevels_eq_ok_iff.1 found
    have soil : entry.HasSoilLevels ctx c := fun column => absurd column.1 grid
    have enclosed : (∃ count : UInt32,
        Spans entry.firstLevel entry.lastLevel modelLevels count.toNat) ↔
          entry.HasMarkers ctx c := by
      rw [StashEntry.HasMarkers, if_neg grid]
      constructor
      · rintro ⟨count, spans⟩
        exact ⟨modelLevels, count, given, spans⟩
      · rintro ⟨levels, count, given', spans⟩
        obtain rfl := given.unique given'
        exact ⟨count, spans⟩
    exact ((markers_checks _ _ modelLevels).congr enclosed).before (by simp [soil])

namespace Field

variable {f : Field} {ctx : RunContext} {read : FileReader}

theorem resolveEntry_checks {dest : Char} {code : StashCode} {entry : StashEntry} :
    Checks (f.resolveEntry ctx dest code entry)
      [⟨.unrecognisedGrid, entry.OnKnownGrid⟩, ⟨.missingEntry, entry.HasModelLevels ctx f.origin⟩,
       ⟨.unrecognisedLevel, entry.HasMarkers ctx f.origin⟩,
       ⟨.missingEntry, entry.HasSoilLevels ctx f.origin⟩] := by
  refine (GridKind.ofCode_checks entry.grid).noting.bind ?_
  intro kind hkind
  exact (Extent.resolve_checks (noting_eq_ok.1 hkind)).noting.map

theorem resolveHybrid_checks :
    Checks (f.resolveHybrid ctx (catalogue read ctx)) (f.hybridRequirements ctx read) := by
  refine hybridParts_checks.bind ?_
  rintro ⟨dest, code⟩ parts
  have named := namesCode_of_hybridParts parts
  refine (catalogue_checks named).noting.bind ?_
  intro entry found
  have has : ∀ entry', f.HasEntry ctx read entry' ↔ entry' = entry := by
    obtain ⟨m, loaded, listed⟩ := bind_eq_ok.1 (noting_eq_ok.1 found)
    obtain ⟨text, master, rfl⟩ := Stashmaster.load_eq_ok_iff_hasMaster.1 loaded
    intro entry'
    rw [hasEntry_iff named master, Stashmaster.find_eq_ok_iff.1 listed, Option.some.injEq, eq_comm]
  simp only [has, exists_eq_left]
  exact resolveEntry_checks

end Field

end Coupling

import Coupling.Proofs.HybridFields

/-!
# Levels of the written fields

A field is exchanged on a number of levels and under one name for each of them. The number comes
from a declaration, from the default of one level or from the catalogue, and the writer joins at
least one name whatever the number is:

* `length_namesOfLevels`: the names are as many as the levels, and one where there is no level;
* `levels_eq_zero_iff`: no level is what a field resolves to in one case only, `EmptySoilColumn`;
* `exchangesLevels_iff`: so the names of a written field are as many as its levels, and it has
  a level at all, exactly when the field is not an empty soil column;
* `exchangesLevels_fails`: a run that sends an empty soil column compiles.
-/

namespace Coupling

/-- The names that `levelNames` joins. -/
def namesOfLevels (base : String) (levels : UInt32) : List String :=
  (List.range (max levels.toNat 1)).map fun i => String.ofList (levelName base.toList (i + 1))

theorem levelNames_eq (base : String) (levels : UInt32) :
    levelNames base levels = ":".intercalate (namesOfLevels base levels) := by
  apply String.toList_injective
  rw [levelNames, namesOfLevels, String.toList_ofList, String.toList_intercalate, List.map_map]
  congr 1
  apply List.map_congr_left
  intro i _
  exact String.toList_ofList.symm

theorem length_namesOfLevels (base : String) (levels : UInt32) :
    (namesOfLevels base levels).length = max levels.toNat 1 := by
  rw [namesOfLevels, List.length_map, List.length_range]

/-- The third line of a block ends in a number of levels, and the fifth begins with the names of
the levels on both sides. -/
def ShowsLevels (block : String) (levels : Nat) (sent received : List String) : Prop :=
  let source := ":".intercalate sent
  let target := ":".intercalate received
  ∃ (lines : List String) (exchange noun rest : String), block = unlines lines ∧
    lines[2]? = some s!"{exchange} | {levels} {noun}" ∧
    lines[4]? = some s!" {source} {target} {rest}"

theorem Field.WrittenAs.showsLevels {ctx : RunContext}
    {lookup : StashCode → Except Error StashEntry} {f : Field} {s : Summary} {block : String}
    (h : f.WrittenAs ctx lookup s block) :
    ShowsLevels block s.levels.toNat (namesOfLevels s.source s.levels)
      (namesOfLevels s.target s.levels) := by
  obtain ⟨r, g, -, carried, -, -, text, -⟩ := h
  have source : s.source = r.names.source := by rw [carried]; rfl
  have target : s.target = r.names.target := by rw [carried]; rfl
  let exchange := s!"# {r.field.origin} --> {r.field.dest} every " ++
    s!"{Period.label s.period.toNat} ({s.period.toNat}s)"
  let noun := (if s.levels = 1 then "level" else "levels") ++
    (if r.field.soil = some true then " soil" else "")
  let mode := if ctx.exported.contains r.field.name then "EXPOUT" else "EXPORTED"
  let rest := s!"{s.cfIndex.toNat} {s.period.toNat} {g.transfer.keywords.length} rstrt.nc {mode}"
  refine ⟨_, exchange, noun, rest, text, ?_, ?_⟩
  · show some _ = some _
    simp only [exchange, noun, toString_string, String.append_assoc]
    rfl
  · rw [← levelNames_eq, ← levelNames_eq, source, target]
    show some _ = some _
    simp only [Resolved.connectionLine, rest, mode, toString_string, String.append_assoc]
    rfl

/-- A hybrid field whose catalogue entry stands for the soil column, sent by a component that is
configured with no soil levels. -/
def Field.EmptySoilColumn (f : Field) (ctx : RunContext)
    (lookup : StashCode → Except Error StashEntry) : Prop :=
  f.hybrid = true ∧ ∃ marker code entry, f.hybridParts = .ok (marker, code) ∧
    lookup code = .ok entry ∧ entry.grid = 21 ∧ entry.firstLevel = 8 ∧ entry.lastLevel = 9 ∧
    ctx.soilLevels f.origin = .ok 0

section
variable {ctx : RunContext} {lookup : StashCode → Except Error StashEntry} {f : Field}
  {r : Resolved}

theorem Field.hybrid_levels_eq_zero_iff (h : f.resolveHybrid ctx lookup = .ok r) :
    r.levels = 0 ↔ ∃ marker code entry, f.hybridParts = .ok (marker, code) ∧
      lookup code = .ok entry ∧ entry.grid = 21 ∧ entry.firstLevel = 8 ∧ entry.lastLevel = 9 ∧
      ctx.soilLevels f.origin = .ok 0 := by
  obtain ⟨marker, code, entry, kind, extent, parts, found, grid, resolves, rfl⟩ :=
    resolveHybrid_eq_ok_iff.1 h
  have empty := (Extent.resolve_eq_ok_iff.1 resolves).levels_eq_zero_iff
  have levels : (f.catalogued marker code entry kind extent).levels = extent.levels := rfl
  rw [levels, empty]
  constructor
  · rintro ⟨rfl, first, last, none_⟩
    exact ⟨marker, code, entry, parts, found, GridKind.ofCode_land_iff.1 grid, first, last, none_⟩
  · rintro ⟨marker', code', entry', parts', found', land, first, last, none_⟩
    obtain ⟨rfl, rfl⟩ : marker = marker' ∧ code = code' := by simpa [parts] using parts'
    obtain rfl : entry = entry' := by simpa [found] using found'
    have kind : GridKind.ofCode entry.grid = .ok .land := GridKind.ofCode_land_iff.2 land
    exact ⟨by simpa [grid] using kind, first, last, none_⟩

/-- Where no declaration asks for zero levels, only an empty soil column has none. -/
theorem Field.levels_eq_zero_iff (given : f.levels ≠ some 0)
    (h : (f.resolveWith ctx lookup).result = .ok r) :
    r.levels = 0 ↔ f.EmptySoilColumn ctx lookup := by
  by_cases hybrid : f.hybrid = true
  · rw [resolveWith, if_pos hybrid, Logged.result_of] at h
    simp only [EmptySoilColumn, hybrid, true_and]
    exact hybrid_levels_eq_zero_iff h
  · rw [resolveWith, if_neg hybrid, resolveTagged_result] at h
    obtain rfl : f.tagged = r := by simpa using h
    have nonzero : f.tagged.levels ≠ 0 := by
      show f.levels.getD 1 ≠ 0
      cases levels : f.levels with
      | none => decide
      | some n => simpa [levels] using given
    simp [nonzero, EmptySoilColumn, hybrid]

end

/-- The field is exchanged on at least one level, and under as many names on each side. -/
structure Summary.ExchangesLevels (s : Summary) : Prop where
  positive : 1 ≤ s.levels.toNat
  sent : (namesOfLevels s.source s.levels).length = s.levels.toNat
  received : (namesOfLevels s.target s.levels).length = s.levels.toNat

theorem Summary.exchangesLevels_iff_ne_zero {s : Summary} : s.ExchangesLevels ↔ s.levels ≠ 0 := by
  have zero : s.levels = 0 ↔ s.levels.toNat = 0 := UInt32.toNat_inj.symm
  constructor
  · intro h
    have positive := h.positive
    rw [ne_eq, zero]
    omega
  · intro h
    rw [ne_eq, zero] at h
    constructor
    · omega
    all_goals rw [length_namesOfLevels]; omega

/-- A written field exchanges as many levels as it has names, and at least one, exactly when it is
no empty soil column. Its block shows the number and the names either way. -/
theorem exchangesLevels_iff {read : FileReader} {ctx : RunContext} {requests : List Request}
    {c : Compiled} (h : (compile read ctx requests).result = .ok c) :
    (retained c.fields).length = c.rendered.fields.length ∧
      ∃ blocks, c.rendered.Blocks c.context blocks ∧
        ∀ (i : Nat) (f : Field) (s : Summary) (block : String), (retained c.fields)[i]? = some f →
          c.rendered.fields[i]? = some s → blocks[i]? = some block →
          ShowsLevels block s.levels.toNat (namesOfLevels s.source s.levels)
            (namesOfLevels s.target s.levels) ∧
          (s.ExchangesLevels ↔ ¬ f.EmptySoilColumn c.context (catalogue read c.context)) := by
  obtain ⟨explicit, records, stages⟩ := compile_eq_ok_iff.1 h
  obtain ⟨p, written, out⟩ := render_eq_ok_iff.1 stages.rendered
  rw [out]
  refine ⟨written.lengths.1.symm, p.blocks, written.blocks, ?_⟩
  intro i f s block hf hs hblock
  refine ⟨(written.writtenAs hf hs hblock).showsLevels, ?_⟩
  obtain ⟨e, -, of, summary, -⟩ := written.emission hf
  obtain rfl : s = e.summary := Option.some.inj (hs.symm.trans summary)
  have member : f ∈ records := by
    have kept : f ∈ retained c.fields := List.mem_of_getElem? hf
    exact stages.fields_perm.mem_iff.1 (List.mem_filter.1 kept).1
  have given := (stages.declared f member).levels
  rw [Summary.exchangesLevels_iff_ne_zero, ← Field.levels_eq_zero_iff given of.resolved]
  rfl

/-- A run of two atmospheres with some number of soil levels. -/
def soilRun (soilLevels : UInt32) : RunContext where
  components := Table.ofList [
    (.atmosphere, { grid := "n96", resolution := some (192, 144), soilLevels := some soilLevels }),
    (.junior, { grid := "n48", resolution := some (96, 72) })]
  schedules := Table.ofList [(⟨.atmosphere, .junior⟩, ⟨3600, none⟩)]
  runtime := 86400
  startDate := "19790101"
  stashDirectory := some "stash"

/-- The soil moisture of the whole column. -/
def soilRequests : List Request :=
  [⟨{ origin := .atmosphere, hybrid := true }, ["A08223;223;t;JNR;;Bi;10"]⟩]

def soilMaster : String := "1|1|8|223|SOIL MOISTURE CONTENT|\n2|2|0|1|21|6|8|9|\n"

def soilFiles : FileReader := fun path =>
  if path = "stash/STASHmaster_A" then .ok soilMaster.toUTF8 else .error .notFound

def soilSummary (soilLevels : UInt32) : Summary where
  index := 1
  source := "A08223"
  target := "J08223"
  origin := .atmosphere
  dest := .junior
  grid := 't'
  levels := soilLevels
  mapping := .bilinear
  weight := 10
  period := 3600
  seq := 1
  cfIndex := 1

theorem soilRun_hasMaster (soilLevels : UInt32) :
    (soilRun soilLevels).HasMaster soilFiles soilMaster := by
  have file : Path.join (Path.join "" "stash") "STASHmaster_A" = "stash/STASHmaster_A" := by decide
  exact ⟨"stash/STASHmaster_A", congrArg Except.ok file, rfl⟩

theorem compile_soil (soilLevels : UInt32) :
    ∃ c, (compile soilFiles (soilRun soilLevels) soilRequests).result = .ok c ∧
      c.rendered.fields = [soilSummary soilLevels] := by
  obtain ⟨records, built, explicit, sorted, weights, out, rendered, fields⟩ :
      ∃ records, Request.buildAll soilRequests = .ok records ∧
        records.any Field.isPlaceholder = false ∧
        (records.Pairwise fun a b => a.weight ≤ b.weight) ∧ checkWeights records = .ok () ∧
        ∃ out, (render (soilRun soilLevels).tighten (Stashmaster.parse soilMaster).find
          records).result = .ok out ∧ out.fields = [soilSummary soilLevels] :=
    ⟨_, rfl, rfl, by decide, rfl, _, rfl, rfl⟩
  refine ⟨_, compile_of_sorted built explicit sorted rfl weights ?_, fields⟩
  rwa [catalogue_of_hasMaster (RunContext.hasMaster_tighten.2 (soilRun_hasMaster soilLevels))]

/-- With four soil levels the column is exchanged under four names. -/
theorem exchangesLevels_iff_soil :
    ∃ c, (compile soilFiles (soilRun 4) soilRequests).result = .ok c ∧
      ∃ blocks, c.rendered.Blocks c.context blocks ∧
        ∃ f s block, (retained c.fields)[0]? = some f ∧ c.rendered.fields[0]? = some s ∧
          blocks[0]? = some block ∧
          ShowsLevels block 4 ["A08223", "A08223002", "A08223003", "A08223004"]
            ["J08223", "J08223002", "J08223003", "J08223004"] ∧
          s.ExchangesLevels ∧ ¬ f.EmptySoilColumn c.context (catalogue soilFiles c.context) := by
  obtain ⟨c, compiled, fields⟩ := compile_soil 4
  obtain ⟨total, blocks, parts, each⟩ := exchangesLevels_iff compiled
  have one : c.rendered.fields.length = 1 := by rw [fields]; rfl
  have same := parts.length
  have hf := List.getElem?_eq_getElem (l := retained c.fields) (i := 0) (by omega)
  have hs : c.rendered.fields[0]? = some (soilSummary 4) := by rw [fields]; rfl
  have hblock := List.getElem?_eq_getElem (l := blocks) (i := 0) (by omega)
  obtain ⟨shown, column⟩ := each 0 _ _ _ hf hs hblock
  have exchanges : (soilSummary 4).ExchangesLevels := Summary.exchangesLevels_iff_ne_zero.2 (by decide)
  exact ⟨c, compiled, blocks, parts, _, _, _, hf, hs, hblock, shown, exchanges,
    column.1 exchanges⟩

/-- Without soil levels the column is written under one name and with no level. -/
theorem exchangesLevels_fails :
    ∃ c s, (compile soilFiles (soilRun 0) soilRequests).result = .ok c ∧ s ∈ c.rendered.fields ∧
      s.levels = 0 ∧ namesOfLevels s.source s.levels = ["A08223"] ∧ ¬ s.ExchangesLevels := by
  obtain ⟨c, compiled, fields⟩ := compile_soil 0
  have member : soilSummary 0 ∈ c.rendered.fields := by
    rw [fields]
    exact List.mem_singleton_self _
  refine ⟨c, soilSummary 0, compiled, member, rfl, by decide, ?_⟩
  intro h
  exact absurd h.positive (by decide)

end Coupling

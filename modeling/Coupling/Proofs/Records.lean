import Coupling.Proofs.Decoding
import Coupling.Request.Record
import Coupling.RunContext.Record

/-!
# Reading kept records

What a run is made from is kept in records, and a record is read back as what was written:

* a record persists as soon as each of its fields does (`read_objOfPresent`), optional fields
  included unless one of their values stands for an absent one (`Persists.optional?`);
* `Persists.direction_read`: the normal form of a direction reads as that direction;
* `Persists.requests`: the requests of a run persist;
* `RunContext.ofDoc?_toJson`: a run context is read back up to the directory its record was found
  in, which is all that its text leaves out (`RunContext.eq_of_text_eq`).
-/

namespace Coupling

/-- A record holds no more than what is present in it. -/
theorem held_objOfPresent {entries : List (String × Option Json)}
    (each : ∀ e ∈ entries, ∀ j ∈ e.2, j.Held) : (Json.objOfPresent entries).Held := by
  refine Json.heldEntries_iff.2 ?_
  intro e he
  obtain ⟨⟨k, value⟩, member, present⟩ := List.mem_filterMap.1 he
  obtain ⟨j, here, rfl⟩ := Option.map_eq_some_iff.1 present
  exact each (k, value) member j here

/-- A record of which every field is read back is read back. -/
theorem read_objOfPresent {α : Type} {known : List String} {entries : List (String × Option Json)}
    {build : List (String × Doc) → Option α} {a : α} (named : entries.map Prod.fst = known)
    (distinct : known.Nodup)
    (each : ∀ fields : List (String × Doc),
      (∀ name, fields.lookup name = (entries.lookup name).join.map Json.doc) →
        build fields = some a) :
    ((Json.objOfPresent entries).doc.asFields? known >>= build) = some a := by
  obtain ⟨fields, read, lookup⟩ := asFields?_objOfPresent known (named ▸ distinct)
  rw [read]
  exact each fields lookup

namespace Persists

section
variable {α : Type} {write : α → Json} {read : Doc → Option α} {fields : List (String × Doc)}
  {name : String}

theorem held_map (h : Persists write read) (o : Option α) : ∀ j ∈ o.map write, j.Held := by
  intro j hj
  obtain ⟨a, -, rfl⟩ := Option.map_eq_some_iff.1 hj
  exact h.held a

theorem required? (h : Persists write read) {a : α}
    (found : fields.lookup name = some (write a).doc) :
    Doc.required? fields name read = some a := by
  rw [Doc.required?, found]
  exact h.back a

theorem defaulted? (h : Persists write read) {a : α} (missing : α)
    (found : fields.lookup name = some (write a).doc) :
    Doc.defaulted? fields name missing read = some a := by
  rw [Doc.defaulted?, found]
  exact h.back a

/-- An optional field is read back if no value of it stands for an absent one. -/
theorem optional? (h : Persists write read) {o : Option α}
    (present : ∀ a, (write a).doc.isAbsent = false)
    (found : fields.lookup name = (o.map write).map Json.doc) :
    Doc.optional? fields name read = some o := by
  rw [Doc.optional?, Doc.defaulted?, found]
  cases o with
  | none => rfl
  | some a =>
    show Doc.asOption? read (write a).doc = some (some a)
    rw [Doc.asOption?, present, h.back]
    rfl

end

/-! ## Requests -/

theorem component : Persists Component.toJson Component.ofDoc? where
  held _ := trivial
  back c := by cases c <;> rfl

theorem request : Persists Request.toJson Request.ofDoc? where
  held r := by
    refine Json.heldEntries_iff.2 ?_
    simp only [List.forall_mem_cons]
    exact ⟨component.held _, bool.held _, uint64.held _, str.list.held _, nofun⟩
  back r := by
    show (Json.objOfPresent
      [("origin", some r.sender.origin.toJson),
       ("hybrid", some (.bool r.sender.hybrid)),
       ("freq_selector", some (.int r.sender.selector.toNat)),
       ("specs", some (.arr (r.specs.map .str)))]).doc.asFields? Request.keys >>= _ = some r
    refine read_objOfPresent rfl (by decide) ?_
    intro fields lookup
    have origin := component.required? (lookup "origin")
    have hybrid := bool.defaulted? false (lookup "hybrid")
    have selector := uint64.defaulted? 0 (lookup "freq_selector")
    have specs := str.list.required? (lookup "specs")
    simp only [origin, hybrid, selector, specs]
    rfl

theorem requests : Persists Request.listToJson (Doc.asListOf? Request.ofDoc?) := request.list

/-! ## Run contexts -/

theorem resolution : Persists (fun size : UInt32 × UInt32 =>
    .arr [.int size.1.toNat, .int size.2.toNat]) ComponentSetup.resolutionOfDoc? where
  held size := (uint32.list.held [size.1, size.2] :)
  back size := by
    have sizes := uint32.list.back [size.1, size.2]
    rw [List.map_cons, List.map_cons, List.map_nil] at sizes
    rw [ComponentSetup.resolutionOfDoc?, sizes]

theorem componentSetup : Persists ComponentSetup.toJson ComponentSetup.ofDoc? where
  held s := by
    refine held_objOfPresent ?_
    simp only [List.forall_mem_cons]
    exact ⟨str.held_map (some s.grid), resolution.held_map _, uint32.held_map _,
      uint32.held_map _, nofun⟩
  back s := by
    refine read_objOfPresent rfl (by decide) ?_
    intro fields lookup
    have grid := str.required? (lookup "grid")
    have size := resolution.optional? (fun _ => rfl) (lookup "resolution")
    have model := uint32.optional? (fun _ => rfl) (lookup "model_levels")
    have soil := uint32.optional? (fun _ => rfl) (lookup "soil_levels")
    simp only [grid, size, model, soil]
    rfl

theorem schedule : Persists Schedule.toJson Schedule.ofDoc? where
  held s := uint32.list.held s.toList
  back s := by
    have periods := uint32.list.back s.toList
    rw [Schedule.ofDoc?, Schedule.toJson, periods]
    obtain ⟨primary, statistics⟩ := s
    cases statistics <;> rfl

theorem nameSet : Persists NameSet.toJson NameSet.ofDoc? where
  held s := str.list.held s.names
  back s := by
    have names := str.list.back s.names
    have again : NameSet.ofNames s.names = s := by
      refine Table.ofList_of_perm ?_
      rw [NameSet.names, Table.keys, List.map_map]
      show (s.entries.map id).Perm s.entries
      rw [List.map_id]
    rw [NameSet.ofDoc?, NameSet.toJson, names, Option.map_some, again]

/-- The normal form of a direction reads as that direction. -/
theorem direction_read (d : Direction) : (Direction.read d.text).toOption = some d := by
  obtain ⟨origin, dest⟩ := d
  cases origin <;> cases dest <;> rfl

theorem componentTable : Persists
    (fun t : Table Component ComponentSetup => .obj (t.entries.map fun e => (e.1.tag, e.2.toJson)))
    (Doc.asTable? Component.ofTag? ComponentSetup.ofDoc?) :=
  componentSetup.table fun c => by cases c <;> rfl

theorem scheduleTable : Persists
    (fun t : Table Direction Schedule => .obj (t.entries.map fun e => (e.1.text, e.2.toJson)))
    (Doc.asTable? (fun text => (Direction.read text).toOption) Schedule.ofDoc?) :=
  schedule.table direction_read

theorem lengthTable : Persists
    (fun t : Table String UInt32 => .obj (t.entries.map fun e => (e.1, .int e.2.toNat)))
    (Doc.asTable? some Doc.asUInt32?) :=
  uint32.table fun _ => rfl

end Persists

namespace RunContext
open Persists

theorem toJson_held (ctx : RunContext) : ctx.toJson.Held := by
  refine held_objOfPresent ?_
  simp only [List.forall_mem_cons]
  exact ⟨componentTable.held_map (some ctx.components),
    scheduleTable.held_map (some ctx.schedules), str.list.held_map (some ctx.executables),
    nameSet.held_map (some ctx.exported), nameSet.held_map (some ctx.remapped),
    lengthTable.held_map (some ctx.vectorLengths), uint32.held_map (some ctx.verbosity),
    uint64.held_map (some ctx.runtime), str.held_map (some ctx.startDate),
    str.held_map (some ctx.calendar), str.held_map _, str.held_map _, str.held_map _, nofun⟩

/-- A run context is read back up to the directory that its record was found in. -/
theorem ofDoc?_toJson (ctx : RunContext) :
    ofDoc? ctx.toJson.doc = some { ctx with baseDirectory := "" } := by
  refine read_objOfPresent rfl (by decide) ?_
  intro fields lookup
  have components := componentTable.required? (lookup "components")
  have schedules := scheduleTable.defaulted? {} (lookup "coupling_frequencies")
  have executables := str.list.defaulted? [] (lookup "executables")
  have exported := nameSet.defaulted? {} (lookup "expout_fields")
  have remapped := nameSet.defaulted? {} (lookup "create_remap_fields")
  have lengths := lengthTable.defaulted? {} (lookup "one_d_grid_sizes")
  have verbosity := uint32.defaulted? 0 (lookup "nlogprt")
  have runtime := uint64.required? (lookup "runtime")
  have startDate := str.required? (lookup "inidate")
  have calendar := str.defaulted? "1" (lookup "caltype")
  have stash := str.optional? (fun _ => rfl) (lookup "stashmaster_dir")
  have shared := str.optional? (fun _ => rfl) (lookup "shared_namelist")
  have regenerator := str.optional? (fun _ => rfl) (lookup "regenerate_command")
  simp only [components, schedules, executables, exported, remapped, lengths, verbosity, runtime,
    startDate, calendar, stash, shared, regenerator]
  rfl

/-- Run contexts with one text differ in their base directories only. -/
theorem eq_of_text_eq {ctx ctx' : RunContext} (same : ctx.toJson.text = ctx'.toJson.text) :
    ctx' = { ctx with baseDirectory := ctx'.baseDirectory } := by
  have docs := Json.doc_eq_of_text_eq ctx.toJson_held ctx'.toJson_held same
  have back := ctx.ofDoc?_toJson
  rw [docs, ofDoc?_toJson] at back
  have kept := Option.some.inj back
  obtain ⟨⟩ := ctx
  obtain ⟨⟩ := ctx'
  simp only [mk.injEq] at kept ⊢
  simp only [kept, and_self]

end RunContext

end Coupling

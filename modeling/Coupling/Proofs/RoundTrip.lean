import Coupling.Loading
import Coupling.Proofs.Records

/-!
# Reading kept records back

Every kind of record is read back from the bytes of its canonical text:

* records with a fixed list of entries persist as soon as their entries do (`read_obj`), so fields,
  summaries, versions, provenances and manifests persist;
* `Persists.decode`: what persists is decoded from the bytes it is encoded as;
* `decode_canonical`: so are manifests, fields, requests and run contexts, the last without the
  directory that they were found in.
-/

namespace Coupling

/-- A record of which every entry is read back is read back. -/
theorem read_obj {α : Type} {known : List String} {entries : List (String × Json)}
    {build : List (String × Doc) → Option α} {a : α} (named : entries.map Prod.fst = known)
    (distinct : known.Nodup)
    (each : ∀ fields : List (String × Doc),
      (∀ name, fields.lookup name = (entries.lookup name).map Json.doc) → build fields = some a) :
    ((Json.obj entries).doc.asFields? known >>= build) = some a := by
  obtain ⟨fields, read, lookup⟩ := asFields?_obj known (named ▸ distinct)
  rw [read]
  exact each fields lookup

namespace Persists

theorem mapping : Persists Mapping.toJson Mapping.ofDoc? where
  held _ := trivial
  back m := by cases m <;> rfl

theorem field : Persists Field.toJson Field.ofDoc? where
  held f := by
    refine Json.heldEntries_iff.2 ?_
    simp only [List.forall_mem_cons]
    exact ⟨str.held _, int64.held _, char.held _, component.held _, component.held _,
      (uint32.option fun _ => rfl).held _, (bool.option fun _ => rfl).held _, mapping.held _,
      (uint8.option fun _ => rfl).held _, int64.held _, bool.held _, uint64.held _,
      (uint32.option fun _ => rfl).held _, nofun⟩
  back f := by
    refine read_obj rfl (by decide) ?_
    intro fields lookup
    have name := str.required? (lookup "name_out")
    have number := int64.required? (lookup "field_id")
    have grid := char.required? (lookup "grid")
    have origin := component.required? (lookup "origin")
    have dest := component.required? (lookup "dest")
    have levels := (uint32.option fun _ => rfl).defaulted? none (lookup "nlev")
    have soil := (bool.option fun _ => rfl).defaulted? none (lookup "is_soil")
    have mapping := mapping.required? (lookup "mapping")
    have order := (uint8.option fun _ => rfl).defaulted? none (lookup "mapping_order")
    have weight := int64.required? (lookup "weight")
    have hybrid := bool.required? (lookup "is_hybrid")
    have selector := uint64.required? (lookup "freq_selector")
    have period := (uint32.option fun _ => rfl).defaulted? none (lookup "freq_override")
    simp only [Doc.optional?, name, number, grid, origin, dest, levels, soil, mapping, order,
      weight, hybrid, selector, period]
    rfl

/-! ## Manifests -/

theorem summary : Persists Summary.toJson Summary.ofDoc? where
  held s := by
    refine Json.heldEntries_iff.2 ?_
    simp only [List.forall_mem_cons]
    exact ⟨uint64.held _, str.held _, str.held _, component.held _, component.held _, char.held _,
      uint32.held _, mapping.held _, int64.held _, uint32.held _, uint32.held _, uint64.held _,
      nofun⟩
  back s := by
    refine read_obj rfl (by decide) ?_
    intro fields lookup
    have index := uint64.required? (lookup "index")
    have source := str.required? (lookup "source")
    have target := str.required? (lookup "target")
    have origin := component.required? (lookup "origin")
    have dest := component.required? (lookup "dest")
    have grid := char.required? (lookup "grid")
    have levels := uint32.required? (lookup "nlev")
    have mapping := mapping.required? (lookup "mapping")
    have weight := int64.required? (lookup "weight")
    have period := uint32.required? (lookup "period")
    have seq := uint32.required? (lookup "seq")
    have cfIndex := uint64.required? (lookup "cf_index")
    simp only [index, source, target, origin, dest, grid, levels, mapping, weight, period, seq,
      cfIndex]
    rfl

theorem schemaVersion : Persists SchemaVersion.toJson SchemaVersion.ofDoc? where
  held v := by
    refine Json.heldEntries_iff.2 ?_
    simp only [List.forall_mem_cons]
    exact ⟨uint32.held _, uint32.held _, uint32.held _, nofun⟩
  back v := by
    refine read_obj rfl (by decide) ?_
    intro fields lookup
    have major := uint32.required? (lookup "major")
    have minor := uint32.required? (lookup "minor")
    have patch := uint32.required? (lookup "patch")
    simp only [major, minor, patch]
    rfl

theorem toolTable : Persists
    (fun t : Table String String => .obj (t.entries.map fun e => (e.1, .str e.2)))
    (Doc.asTable? some Doc.asText?) :=
  str.table fun _ => rfl

theorem provenance : Persists Provenance.toJson Provenance.ofDoc? where
  held p := by
    refine Json.heldEntries_iff.2 ?_
    simp only [List.forall_mem_cons]
    exact ⟨str.held _, str.held _, toolTable.held _, nofun⟩
  back p := by
    refine read_obj rfl (by decide) ?_
    intro fields lookup
    have context := str.required? (lookup "run_info_hash")
    have requests := str.required? (lookup "couplings_hash")
    have tools := toolTable.required? (lookup "tool_versions")
    simp only [context, requests, tools]
    rfl

theorem manifest : Persists Manifest.toJson Manifest.ofDoc? where
  held m := by
    refine Json.heldEntries_iff.2 ?_
    simp only [List.forall_mem_cons]
    exact ⟨schemaVersion.held _, provenance.held _, str.held _, str.held _, summary.list.held _,
      nofun⟩
  back m := by
    refine read_obj rfl (by decide) ?_
    intro fields lookup
    have schema := schemaVersion.required? (lookup "schema_version")
    have provenance := provenance.required? (lookup "provenance")
    have namcouple := str.required? (lookup "namcouple_sha256")
    have cfTable := str.required? (lookup "cf_table_sha256")
    have summaries := summary.list.required? (lookup "fields")
    simp only [schema, provenance, namcouple, cfTable, summaries]
    rfl

end Persists

/-! ## Bytes -/

section
variable {α : Type}

theorem Format.decode_eq_ok_iff {f : Format} {decoder : Decoder α} {bytes : ByteArray} {a : α} :
    f.decode decoder bytes = .ok a ↔ decoder bytes = .ok a := by
  unfold decode
  cases decoder bytes <;> simp [Except.mapError]

/-- The bytes of a text are decoded by reading it, and by making sense of what is read. -/
theorem Format.decode_toUTF8_eq_ok_iff {f : Format} {complaint : ByteArray → String}
    {ofDoc? : Doc → Option α} {text : String} {a : α} :
    f.decode (f.decoder complaint ofDoc?) text.toUTF8 = .ok a ↔
      (f.read? text >>= ofDoc?) = some a := by
  have valid : String.fromUTF8? text.toUTF8 = some text := dif_pos text.isValidUTF8
  rw [decode_eq_ok_iff, decoder, valid]
  simp only [Option.bind_eq_bind, Option.bind_some]
  cases (f.read? text).bind ofDoc? <;> simp

theorem Format.decode_text {j : Json} (held : j.Held) (complaint : ByteArray → String)
    {ofDoc? : Doc → Option α} {a : α} (back : ofDoc? j.doc = some a) :
    Format.json.decode (Format.json.decoder complaint ofDoc?) j.text.toUTF8 = .ok a := by
  have read : Format.json.read? j.text = some j.doc := Json.read?_text j held
  rw [decode_toUTF8_eq_ok_iff, read]
  exact back

theorem Persists.decode {write : α → Json} {read : Doc → Option α} (h : Persists write read)
    (complaint : ByteArray → String) (a : α) :
    Format.json.decode (Format.json.decoder complaint read) (write a).text.toUTF8 = .ok a :=
  Format.decode_text (h.held a) complaint (h.back a)

end

/-- Decoding undoes encoding for everything that is kept. A record of a run context does not say
which directory it was found in. -/
theorem decode_canonical (complaint : ByteArray → String) :
    (∀ m : Manifest, Format.json.decode (Format.json.decoder complaint Manifest.ofDoc?)
      m.toJson.text.toUTF8 = .ok m) ∧
    (∀ f : Field, Format.json.decode (Format.json.decoder complaint Field.ofDoc?)
      f.toJson.text.toUTF8 = .ok f) ∧
    (∀ r : Request, Format.json.decode (Format.json.decoder complaint Request.ofDoc?)
      r.toJson.text.toUTF8 = .ok r) ∧
    ∀ ctx : RunContext, Format.json.decode (Format.json.decoder complaint RunContext.ofDoc?)
      ctx.toJson.text.toUTF8 = .ok { ctx with baseDirectory := "" } := by
  refine ⟨Persists.manifest.decode complaint, Persists.field.decode complaint,
    Persists.request.decode complaint, ?_⟩
  intro ctx
  exact Format.decode_text ctx.toJson_held complaint ctx.ofDoc?_toJson

end Coupling

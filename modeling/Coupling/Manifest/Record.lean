import Coupling.Field.Record
import Coupling.Manifest

/-!
# Written manifests

The record in which a manifest is kept, and how it is read back.
-/

namespace Coupling

namespace Summary

def keys : List String :=
  ["index", "source", "target", "origin", "dest", "grid", "nlev", "mapping", "weight", "period",
   "seq", "cf_index"]

def toJson (s : Summary) : Json := .obj
  [("index", .int s.index.toNat),
   ("source", .str s.source),
   ("target", .str s.target),
   ("origin", s.origin.toJson),
   ("dest", s.dest.toJson),
   ("grid", .str s.grid.toString),
   ("nlev", .int s.levels.toNat),
   ("mapping", s.mapping.toJson),
   ("weight", .int s.weight.toInt),
   ("period", .int s.period.toNat),
   ("seq", .int s.seq.toNat),
   ("cf_index", .int s.cfIndex.toNat)]

def ofDoc? (d : Doc) : Option Summary := do
  let fields ← d.asFields? keys
  return {
    index := ← Doc.required? fields "index" Doc.asUInt64?
    source := ← Doc.required? fields "source" Doc.asText?
    target := ← Doc.required? fields "target" Doc.asText?
    origin := ← Doc.required? fields "origin" Component.ofDoc?
    dest := ← Doc.required? fields "dest" Component.ofDoc?
    grid := ← Doc.required? fields "grid" Doc.asChar?
    levels := ← Doc.required? fields "nlev" Doc.asUInt32?
    mapping := ← Doc.required? fields "mapping" Mapping.ofDoc?
    weight := ← Doc.required? fields "weight" Doc.asInt64?
    period := ← Doc.required? fields "period" Doc.asUInt32?
    seq := ← Doc.required? fields "seq" Doc.asUInt32?
    cfIndex := ← Doc.required? fields "cf_index" Doc.asUInt64? }

end Summary

namespace SchemaVersion

def toJson (v : SchemaVersion) : Json := .obj
  [("major", .int v.major.toNat), ("minor", .int v.minor.toNat), ("patch", .int v.patch.toNat)]

def ofDoc? (d : Doc) : Option SchemaVersion := do
  let fields ← d.asFields? ["major", "minor", "patch"]
  return {
    major := ← Doc.required? fields "major" Doc.asUInt32?
    minor := ← Doc.required? fields "minor" Doc.asUInt32?
    patch := ← Doc.required? fields "patch" Doc.asUInt32? }

end SchemaVersion

namespace Provenance

def toJson (p : Provenance) : Json := .obj
  [("run_info_hash", .str p.context),
   ("couplings_hash", .str p.requests),
   ("tool_versions", .obj (p.tools.entries.map fun (tool, version) => (tool, .str version)))]

def ofDoc? (d : Doc) : Option Provenance := do
  let fields ← d.asFields? ["run_info_hash", "couplings_hash", "tool_versions"]
  return {
    context := ← Doc.required? fields "run_info_hash" Doc.asText?
    requests := ← Doc.required? fields "couplings_hash" Doc.asText?
    tools := ← Doc.required? fields "tool_versions" (Doc.asTable? some Doc.asText?) }

end Provenance

namespace Manifest

def keys : List String :=
  ["schema_version", "provenance", "namcouple_sha256", "cf_table_sha256", "fields"]

def toJson (m : Manifest) : Json := .obj
  [("schema_version", m.schema.toJson),
   ("provenance", m.provenance.toJson),
   ("namcouple_sha256", .str m.namcouple),
   ("cf_table_sha256", .str m.cfTable),
   ("fields", .arr (m.fields.map Summary.toJson))]

def ofDoc? (d : Doc) : Option Manifest := do
  let fields ← d.asFields? keys
  return {
    schema := ← Doc.required? fields "schema_version" SchemaVersion.ofDoc?
    provenance := ← Doc.required? fields "provenance" Provenance.ofDoc?
    namcouple := ← Doc.required? fields "namcouple_sha256" Doc.asText?
    cfTable := ← Doc.required? fields "cf_table_sha256" Doc.asText?
    fields := ← Doc.required? fields "fields" (Doc.asListOf? Summary.ofDoc?) }

end Manifest

end Coupling

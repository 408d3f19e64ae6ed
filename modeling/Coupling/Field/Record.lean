import Coupling.Doc
import Coupling.Field

/-!
# Written fields

The record in which a coupled field is kept, with every key present, and how it is read back.
-/

namespace Coupling

namespace Component

/-- A component is written as its tag. -/
def toJson (c : Component) : Json := .str c.tag

def ofDoc? (d : Doc) : Option Component := d.asCase? >>= ofTag?

end Component

namespace Mapping

/-- A mapping is written as its identifier. -/
def toJson (m : Mapping) : Json := .str m.identifier

def ofDoc? (d : Doc) : Option Mapping := d.asCase? >>= ofIdentifier?

end Mapping

namespace Field

def keys : List String :=
  ["name_out", "field_id", "grid", "origin", "dest", "nlev", "is_soil", "mapping",
   "mapping_order", "weight", "is_hybrid", "freq_selector", "freq_override"]

def toJson (f : Field) : Json := .obj
  [("name_out", .str f.name),
   ("field_id", .int f.number.toInt),
   ("grid", .str f.grid.toString),
   ("origin", f.origin.toJson),
   ("dest", f.dest.toJson),
   ("nlev", .ofOption (fun n => .int n.toNat) f.levels),
   ("is_soil", .ofOption .bool f.soil),
   ("mapping", f.mapping.toJson),
   ("mapping_order", .ofOption (fun n => .int n.toNat) f.order),
   ("weight", .int f.weight.toInt),
   ("is_hybrid", .bool f.hybrid),
   ("freq_selector", .int f.selector.toNat),
   ("freq_override", .ofOption (fun n => .int n.toNat) f.period)]

def ofDoc? (d : Doc) : Option Field := do
  let fields ← d.asFields? keys
  return {
    name := ← Doc.required? fields "name_out" Doc.asText?
    number := ← Doc.required? fields "field_id" Doc.asInt64?
    grid := ← Doc.required? fields "grid" Doc.asChar?
    origin := ← Doc.required? fields "origin" Component.ofDoc?
    dest := ← Doc.required? fields "dest" Component.ofDoc?
    levels := ← Doc.optional? fields "nlev" Doc.asUInt32?
    soil := ← Doc.optional? fields "is_soil" Doc.asBool?
    mapping := ← Doc.required? fields "mapping" Mapping.ofDoc?
    order := ← Doc.optional? fields "mapping_order" Doc.asUInt8?
    weight := ← Doc.required? fields "weight" Doc.asInt64?
    hybrid := ← Doc.required? fields "is_hybrid" Doc.asBool?
    selector := ← Doc.required? fields "freq_selector" Doc.asUInt64?
    period := ← Doc.optional? fields "freq_override" Doc.asUInt32? }

end Field

end Coupling

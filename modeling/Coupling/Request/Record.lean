import Coupling.Field.Record
import Coupling.Request

/-!
# Written requests

The record in which a coupling request is kept, and the list of requests that a couplings file
holds.
-/

namespace Coupling.Request

def keys : List String := ["origin", "hybrid", "freq_selector", "specs"]

def toJson (r : Request) : Json := .obj
  [("origin", r.sender.origin.toJson),
   ("hybrid", .bool r.sender.hybrid),
   ("freq_selector", .int r.sender.selector.toNat),
   ("specs", .arr (r.specs.map .str))]

def ofDoc? (d : Doc) : Option Request := do
  let fields ← d.asFields? keys
  return {
    sender := {
      origin := ← Doc.required? fields "origin" Component.ofDoc?
      hybrid := ← Doc.defaulted? fields "hybrid" false Doc.asBool?
      selector := ← Doc.defaulted? fields "freq_selector" 0 Doc.asUInt64? }
    specs := ← Doc.required? fields "specs" (Doc.asListOf? Doc.asText?) }

def listOfDoc? (d : Doc) : Option (List Request) := do
  let fields ← d.asFields? ["requests"]
  Doc.required? fields "requests" (Doc.asListOf? ofDoc?)

/-- The requests in call order, as they are hashed. -/
def listToJson (requests : List Request) : Json := .arr (requests.map toJson)

end Coupling.Request

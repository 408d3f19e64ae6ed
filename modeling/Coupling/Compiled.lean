import Coupling.Defaults
import Coupling.Manifest
import Coupling.Request.Record
import Coupling.RunContext.Record

/-!
# Compilations

From requests to texts: every request is built, default couplings are added, the run is checked,
the fields are ordered by weight and rendered. The first stage that fails ends it.
-/

namespace Coupling

/-- What a compilation yields. -/
structure Compiled where
  /-- The run context with its schedules tightened. -/
  context : RunContext
  /-- All fields by weight, removed ones included; fields of one weight keep their order. -/
  fields : List Field
  rendered : Rendered
  provenance : Provenance
  deriving DecidableEq

def Compiled.manifest (c : Compiled) : Manifest := .of c.provenance c.rendered

/-- The fields of all requests, in call order. -/
def Request.buildAll (requests : List Request) : Except Error (List Field) := do
  return (← requests.mapM Request.build).flatten

/-- Fields in ascending order of weight. -/
def orderByWeight (fields : List Field) : List Field :=
  fields.mergeSort fun a b => a.weight ≤ b.weight

/-- The version of this library under the name that manifests give it. -/
def toolVersions : Table String String := Table.ofList [("cpl-namcouple", "0.1.0")]

/-- The digests of what a compilation was made from. -/
def Provenance.of (ctx : RunContext) (requests : List Request) : Provenance where
  context := ctx.toJson.digest
  requests := (Request.listToJson requests).digest
  tools := toolVersions

/-- Renders ordered fields; the catalogue is read for the hybrid ones among them. -/
def renderWith (read : FileReader) (ctx : RunContext) (fields : List Field) : Logged Rendered :=
  let master := Stashmaster.load read ctx
  render ctx (fun code => master >>= fun m => m.find code) fields

def compile (read : FileReader) (ctx : RunContext) (requests : List Request) : Logged Compiled := do
  let explicit ← Logged.of (Request.buildAll requests)
  let fields ← expandDefaults ctx explicit
  let check := ctx.check fields
  check.outcome
  let fields := orderByWeight fields
  let rendered ← renderWith read check.context fields
  let count := rendered.fields.length
  Logged.report ⟨.info, "compiled namcouple", [("fields", s!"{count}")]⟩
  return ⟨check.context, fields, rendered, .of check.context requests⟩

end Coupling

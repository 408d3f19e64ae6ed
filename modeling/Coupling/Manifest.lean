import Coupling.Digest.Sha256
import Coupling.Rendering

/-!
# Manifests

The record kept beside the written files: which inputs they were made from, the digests of both
texts, and the summary of every written field.
-/

namespace Coupling

/-- The version of a record's layout. -/
structure SchemaVersion where
  major : UInt32
  minor : UInt32
  patch : UInt32
  deriving DecidableEq, Repr

/-- The layout in which manifests are written. -/
def SchemaVersion.current : SchemaVersion := ⟨1, 0, 0⟩

/-- What a compilation was made from. -/
structure Provenance where
  /-- The digest of the run context. -/
  context : String
  /-- The digest of the coupling requests. -/
  requests : String
  /-- Versions of the tools involved, by name. -/
  tools : Table String String
  deriving DecidableEq

/-- The record of one compilation. -/
structure Manifest where
  schema : SchemaVersion
  provenance : Provenance
  /-- The digest of the namcouple. -/
  namcouple : String
  /-- The digest of the table of CF names. -/
  cfTable : String
  /-- The written fields, in order. -/
  fields : List Summary
  deriving DecidableEq

def Manifest.of (provenance : Provenance) (r : Rendered) : Manifest where
  schema := .current
  provenance := provenance
  namcouple := Digest.Sha256.hex r.namcouple
  cfTable := Digest.Sha256.hex r.cfTable
  fields := r.fields

/-- The error of a step that a fault stops on the way to or from a file. -/
def FileFault.error (fault : FileFault) (stage path : String) : Error :=
  .wrap .output
    (((ErrorInfo.of Kind.output.code fault.text).note "stage" stage).note "path" path)

end Coupling

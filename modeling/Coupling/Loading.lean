import Coupling.FileTree
import Coupling.Json.Reader
import Coupling.Manifest.Record
import Coupling.Request.Record
import Coupling.RunContext.Record
import Coupling.Yaml.Reader

/-!
# Loading files

Run contexts and coupling requests are kept in YAML, manifests in JSON. A `Decoder` says what the
bytes of a file hold. A file that cannot be read and one that does not hold what is wanted are
different errors, and both name the path; what the decoder has to say about the second is the
message.
-/

namespace Coupling

/-- What bytes hold, or what is wrong with them. -/
abbrev Decoder (α : Type) := ByteArray → Except String α

/-- A format that records are kept in. -/
inductive Format where
  | json | yaml
  deriving DecidableEq, Repr

namespace Format

def name : Format → String
  | .json => "JSON"
  | .yaml => "YAML"

/-- The stage at which reading the format fails. -/
def stage : Format → String
  | .json => "json_deserialize"
  | .yaml => "yaml_deserialize"

def read? : Format → String → Option Doc
  | .json => Json.read?
  | .yaml => Yaml.read?

/-- The error of bytes that a decoder refuses with a complaint. -/
def undecodable (f : Format) (complaint : String) : Error :=
  .wrap .invalidInput ((ErrorInfo.of Kind.invalidInput.code complaint).note "stage" f.stage)

def decode {α : Type} (f : Format) (decoder : Decoder α) (bytes : ByteArray) : Except Error α :=
  (decoder bytes).mapError f.undecodable

/-- The decoder of texts that the format's reader understands and `ofDoc?` makes sense of. About all
other bytes it complains with `complaint`. -/
def decoder {α : Type} (f : Format) (complaint : ByteArray → String) (ofDoc? : Doc → Option α) :
    Decoder α := fun bytes =>
  match String.fromUTF8? bytes >>= f.read? >>= ofDoc? with
  | some a => .ok a
  | none => .error (complaint bytes)

/-- A complaint that does not say what is wrong. -/
def complaint (f : Format) (_ : ByteArray) : String :=
  let name := f.name
  s!"the {name} text does not hold the wanted record"

end Format

def loadYaml {α : Type} (decoder : Decoder α) (read : FileReader) (path : String) :
    Except Error α :=
  match read path with
  | .ok bytes => noting "path" path (Format.yaml.decode decoder bytes)
  | .error fault =>
    .error (.wrap .invalidInput
      ((ErrorInfo.of Kind.invalidInput.code fault.text).note "path" path))

/-- The run context in a file; its relative paths start from the directory of the file. -/
def RunContext.load (decoder : Decoder RunContext) (read : FileReader) (path : String) :
    Except Error RunContext := do
  let ctx ← loadYaml decoder read path
  return { ctx with baseDirectory := (Path.parent? path).getD "." }

def Request.load (decoder : Decoder (List Request)) (read : FileReader) (path : String) :
    Except Error (List Request) :=
  loadYaml decoder read path

/-- The decoders of the two files that a compilation is made from. -/
structure Decoders where
  context : Decoder RunContext
  requests : Decoder (List Request)

/-- The library's own decoders. -/
def Decoders.yaml : Decoders where
  context := Format.yaml.decoder Format.yaml.complaint RunContext.ofDoc?
  requests := Format.yaml.decoder Format.yaml.complaint Request.listOfDoc?

def Manifest.load (decoder : Decoder Manifest) (read : FileReader) (path : String) :
    Except Error Manifest :=
  match read path with
  | .ok bytes => noting "path" path (Format.json.decode decoder bytes)
  | .error fault => .error (fault.error "manifest-read" path)

end Coupling

import Coupling.Table

/-!
# Errors

What can stop a compilation:

* `Kind` lists every fatal condition with its stable code, its exit code and its family;
* `ErrorInfo` is what is said about a condition: a code, a message, notes on where it arose and
  possibly a hint. `Error` puts it in a family;
* `Error.wrap` takes only the family from a kind, whatever the code in the payload is, and
  `Error.of` takes both. `note` and `advise` change neither family nor code.
-/

namespace Coupling

/-- Every fatal condition. -/
inductive Kind where
  /-- A declaration that is not in the semicolon-separated grammar. -/
  | wrongFormat
  /-- A specification with fewer than six fields. -/
  | missingInput
  /-- An unknown mapping token or order. -/
  | unrecognisedMapping
  /-- The first specification of a request names no mapping. -/
  | missingMapping
  /-- The first specification of a request gives no weight. -/
  | missingWeight
  /-- A grid code outside the supported set. -/
  | unrecognisedGrid
  /-- Level markers that have no meaning. -/
  | unrecognisedLevel
  /-- A STASH code that the field name lacks or the catalogue does not list. -/
  | unknownStashCode
  /-- The STASHmaster catalogue cannot be read. -/
  | missingStashmaster
  /-- The two atmospheres disagree on model levels. -/
  | differentModelLevels
  /-- The two atmospheres disagree on soil levels. -/
  | differentSoilLevels
  /-- Two written fields share a weight. -/
  | duplicateWeight
  /-- The run context lacks an entry. -/
  | missingEntry
  /-- A schedule has fewer periods than the selector needs. -/
  | missingFrequency
  /-- A one-dimensional grid without a vector length. -/
  | unknownVectorLength
  /-- Remapping weights that no generator produces. -/
  | missingRemapping
  /-- A component without a horizontal resolution. -/
  | missingResolution
  /-- An input document that cannot be read. -/
  | invalidInput
  /-- A file that cannot be written. -/
  | output
  deriving DecidableEq, Repr

/-- The stage of a compilation that a condition belongs to. -/
inductive Family where
  | input | resolve | consistency | config | emit | io
  deriving DecidableEq, Repr

namespace Family

def all : List Family := [.input, .resolve, .consistency, .config, .emit, .io]

def name : Family → String
  | .input => "Input"
  | .resolve => "Resolve"
  | .consistency => "Consistency"
  | .config => "Config"
  | .emit => "Emit"
  | .io => "Io"

def label : Family → String
  | .input => "input error"
  | .resolve => "resolve error"
  | .consistency => "consistency error"
  | .config => "config error"
  | .emit => "emit error"
  | .io => "io error"

end Family

namespace Kind

/-- Every kind, by exit code. -/
def all : List Kind :=
  [.wrongFormat, .missingInput, .unrecognisedMapping, .missingMapping, .missingWeight,
   .unrecognisedGrid, .unrecognisedLevel, .unknownStashCode, .missingStashmaster,
   .differentModelLevels, .differentSoilLevels, .duplicateWeight, .missingEntry,
   .missingFrequency, .unknownVectorLength, .missingRemapping, .missingResolution,
   .invalidInput, .output]

def code : Kind → String
  | .wrongFormat => "WRONG_CPL_FORMAT"
  | .missingInput => "MISSING_NAMCOUPLE_INPUT"
  | .unrecognisedMapping => "UNRECOGNISED_MAPPING"
  | .missingMapping => "MISSING_MAPPING"
  | .missingWeight => "MISSING_WEIGHTING"
  | .unrecognisedGrid => "UNRECOGNISED_GRID"
  | .unrecognisedLevel => "UNRECOGNISED_LEVEL"
  | .unknownStashCode => "NOT_FOUND_STASH_CODE"
  | .missingStashmaster => "MISSING_STASHMASTER_A"
  | .differentModelLevels => "DIFFERENT_MODEL_LEVELS"
  | .differentSoilLevels => "DIFFERENT_SOIL_LEVELS"
  | .duplicateWeight => "DUPLICATE_WEIGHTING"
  | .missingEntry => "NOT_FOUND_CPL_VAR"
  | .missingFrequency => "NOT_ENOUGH_CPL_FREQ"
  | .unknownVectorLength => "UNKNOWN_1D_GRID_SIZE"
  | .missingRemapping => "MISSING_RMP_MAPPING"
  | .missingResolution => "MISSING_RESOLUTION"
  | .invalidInput => "RUN_INFO_INVALID"
  | .output => "OUTPUT_IO"

/-- The exit code of a program that stops on this kind. -/
def exitCode : Kind → UInt8
  | .wrongFormat => 11
  | .missingInput => 12
  | .unrecognisedMapping => 13
  | .missingMapping => 14
  | .missingWeight => 15
  | .unrecognisedGrid => 21
  | .unrecognisedLevel => 22
  | .unknownStashCode => 23
  | .missingStashmaster => 24
  | .differentModelLevels => 31
  | .differentSoilLevels => 32
  | .duplicateWeight => 33
  | .missingEntry => 41
  | .missingFrequency => 42
  | .unknownVectorLength => 43
  | .missingRemapping => 44
  | .missingResolution => 45
  | .invalidInput => 51
  | .output => 61

/-- The family that owns the kind. -/
def family : Kind → Family
  | .wrongFormat | .missingInput | .unrecognisedMapping | .missingMapping | .missingWeight => .input
  | .unrecognisedGrid | .unrecognisedLevel | .unknownStashCode | .missingStashmaster => .resolve
  | .differentModelLevels | .differentSoilLevels | .duplicateWeight => .consistency
  | .missingEntry | .missingFrequency | .missingResolution | .invalidInput => .config
  | .unknownVectorLength | .missingRemapping => .emit
  | .output => .io

def ofCode? (code : String) : Option Kind := all.find? (·.code = code)

end Kind

/-- What is said about a condition. -/
structure ErrorInfo where
  code : String
  message : String
  context : Table String String := {}
  hint : Option String := none
  deriving DecidableEq

namespace ErrorInfo

/-- A code and a message, without notes. -/
def of (code message : String) : ErrorInfo := { code := code, message := message }

/-- Adds a note on where the condition arose; a later note of the same name replaces it. -/
def note (i : ErrorInfo) (key value : String) : ErrorInfo :=
  { i with context := i.context.insert key value }

def advise (i : ErrorInfo) (hint : String) : ErrorInfo := { i with hint := some hint }

def details (i : ErrorInfo) : String :=
  let notes := ", ".intercalate (i.context.entries.map fun (key, value) => s!"{key}={value}")
  s!"{i.message} (code: {i.code})" ++
    (if i.context.entries.isEmpty then "" else s!" | context: [{notes}]") ++
    (match i.hint with
      | some hint => s!" | hint: {hint}"
      | none => "")

end ErrorInfo

/-- A reported condition. -/
structure Error extends ErrorInfo where
  family : Family
  deriving DecidableEq

namespace Error

/-- What is said about a condition, in the family that owns a kind. -/
def wrap (kind : Kind) (info : ErrorInfo) : Error := { info with family := kind.family }

/-- A condition of a kind, with the code of the kind. -/
def of (kind : Kind) (message : String) : Error := wrap kind (.of kind.code message)

def note (e : Error) (key value : String) : Error :=
  { e with toErrorInfo := e.toErrorInfo.note key value }

def advise (e : Error) (hint : String) : Error :=
  { e with toErrorInfo := e.toErrorInfo.advise hint }

def kind? (e : Error) : Option Kind := Kind.ofCode? e.code

/-- The exit code: the kind's, or 1 for an unknown code. -/
def exitCode (e : Error) : UInt8 := (e.kind?.map Kind.exitCode).getD 1

def text (e : Error) : String := s!"{e.family.label}: {e.details}"

end Error

/-- Adds a note to the condition that stopped a computation, if one did. -/
def noting {α : Type} (key value : String) : Except Error α → Except Error α
  | .ok a => .ok a
  | .error e => .error (e.note key value)

end Coupling

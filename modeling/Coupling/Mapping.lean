/-!
# Mappings

How a field is carried from one grid to another. Declarations use a short `token`, files and
records the `identifier`.
-/

namespace Coupling

/-- An interpolation method. -/
inductive Mapping where
  | bilinear
  | bicubic
  /-- Conservative, normalised by the covered part of the target area. -/
  | conserveFraction
  /-- Conservative, normalised by the whole target area. -/
  | conserveWhole
  /-- Nearest neighbours weighted by distance. -/
  | nearest
  /-- Patch recovery, from weights made beforehand. -/
  | patch
  /-- A single number. -/
  | scalar
  /-- A one-dimensional vector. -/
  | vector
  /-- The coupling is dropped from the output. -/
  | remove
  deriving DecidableEq, Repr, Inhabited

namespace Mapping

def all : List Mapping :=
  [.bilinear, .bicubic, .conserveFraction, .conserveWhole, .nearest, .patch, .scalar, .vector,
   .remove]

/-- The token in declarations. -/
def token : Mapping → String
  | .bilinear => "Bi"
  | .bicubic => "Bc"
  | .conserveFraction => "CF"
  | .conserveWhole => "CD"
  | .nearest => "NN"
  | .patch => "Pa"
  | .scalar => "0D"
  | .vector => "1D"
  | .remove => "remove"

/-- The name in remapping files and records. -/
def identifier : Mapping → String
  | .bilinear => "BILINEA"
  | .bicubic => "BICUBIC"
  | .conserveFraction => "CONSERV_FRACAREA"
  | .conserveWhole => "CONSERV_DESTAREA"
  | .nearest => "DISTWGT"
  | .patch => "PATCH"
  | .scalar => "0D"
  | .vector => "1D"
  | .remove => "remove"

def ofToken? (token : String) : Option Mapping := all.find? (·.token = token)

def ofIdentifier? (identifier : String) : Option Mapping := all.find? (·.identifier = identifier)

end Mapping

instance : ToString Mapping := ⟨Mapping.identifier⟩

end Coupling

import Coupling.Direction
import Coupling.Mapping

/-!
# Coupled fields

One field sent from one component to another. Grid, levels and soil flag may be unknown until
the field is resolved; a placeholder stands for the default couplings until they are expanded.
-/

namespace Coupling

/-- One field exchange. -/
structure Field where
  /-- The name on the sending side. -/
  name : String
  /-- The numeric code of the declaration. -/
  number : Int64
  /-- The letter of the grid the field lives on. -/
  grid : Char
  origin : Component
  dest : Component
  /-- The number of vertical levels, once known. -/
  levels : Option UInt32
  /-- Whether the levels are soil levels, once known. -/
  soil : Option Bool
  mapping : Mapping
  /-- The order of the mapping, 1 or 2 in declarations. -/
  order : Option UInt8
  /-- The key that orders the output. -/
  weight : Int64
  /-- Whether the field is exchanged between the two atmospheres by STASH code. -/
  hybrid : Bool
  /-- Which period of the direction's schedule applies. -/
  selector : UInt64
  /-- A period in seconds that overrides the schedule. -/
  period : Option UInt32
  deriving DecidableEq, Repr

namespace Field

/-- The record that stands for the default couplings. -/
def placeholder : Field where
  name := "?"
  number := 0
  grid := '?'
  origin := .unresolved
  dest := .unresolved
  levels := none
  soil := none
  mapping := .remove
  order := none
  weight := 0
  hybrid := false
  selector := 0
  period := none

/-- Whether the record still awaits the default couplings. -/
def isPlaceholder (f : Field) : Bool := f.origin = .unresolved

/-- Whether the record is left out of the written output. -/
def isRemoved (f : Field) : Bool := f.mapping = .remove

def direction (f : Field) : Direction := ⟨f.origin, f.dest⟩

end Field

end Coupling

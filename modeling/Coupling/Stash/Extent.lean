import Coupling.RunContext

/-!
# Grids and levels of STASH fields

What the codes of a catalogue entry mean:

* `GridKind.ofCode` gives the points a field lives on;
* `atmosphereLevels` counts the levels between two markers of an atmosphere field;
* `landLevels` knows single levels and the soil column;
* `extent` puts these together for a field sent by one component.
-/

namespace Coupling

/-- The points that a field lives on. -/
inductive GridKind where
  | temperature
  /-- Points of the zonal wind. -/
  | zonal
  /-- Points of the meridional wind. -/
  | meridional
  /-- Land points, exchanged on the temperature grid. -/
  | land
  deriving DecidableEq, Repr

namespace GridKind

def ofCode (code : Int) : Except Error GridKind :=
  if code ∈ [1, 2, 3] then .ok .temperature
  else if code = 18 then .ok .zonal
  else if code = 19 then .ok .meridional
  else if code = 21 then .ok .land
  else .error (.of .unrecognisedGrid s!"unrecognised STASH grid code {code}")

/-- The letter of the grid on which fields of the kind are exchanged. -/
def letter : GridKind → Char
  | .temperature | .land => 't'
  | .zonal => 'u'
  | .meridional => 'v'

end GridKind

/-- The levels a field is exchanged on. -/
structure Extent where
  levels : UInt32
  soil : Bool
  deriving DecidableEq, Repr

namespace Extent

/-- The lowest level that a first-level marker means. -/
def lowest? (marker : Int) : Option Int :=
  if marker ∈ [-1, 1, 40] then some 1 else if marker = 38 then some 0 else none

/-- The highest level that a last-level marker means, below `modelLevels` levels. A number of
levels that is no 32-bit integer has none. -/
def highest? (marker : Int) (modelLevels : UInt32) : Option Int :=
  let top : Int := modelLevels.toNat
  if Int32.maxValue.toInt < top then none
  else if marker = -1 then some 1
  else if marker ∈ [2, 19] then some top
  else if marker = 3 then some (top - 1)
  else none

/-- The number of levels from the first to the last marker, if it is positive. -/
def atmosphereLevels? (first last : Int) (modelLevels : UInt32) : Option UInt32 := do
  let low ← lowest? first
  let high ← highest? last modelLevels
  let count := high - low + 1
  if 0 < count ∧ count ≤ Int32.maxValue.toInt then some (UInt32.ofNat count.toNat) else none

/-- The error for markers without a meaning. -/
def unrecognised (first last : Int) : Error :=
  .of .unrecognisedLevel s!"unrecognised level markers ({first}, {last})"

/-- The extent of a land field: one level, or the soil column. -/
def ofLand (first last : Int) (soilLevels : Except Error UInt32) : Except Error Extent :=
  if first = -1 ∧ last = -1 then .ok ⟨1, false⟩
  else if first = 8 ∧ last = 9 then do
    let levels ← soilLevels
    return ⟨levels, true⟩
  else .error (unrecognised first last)

/-- The extent of a field that `component` sends. -/
def resolve (kind : GridKind) (first last : Int) (component : Component) (ctx : RunContext) :
    Except Error Extent :=
  if kind = .land then ofLand first last (ctx.soilLevels component)
  else do
    let modelLevels ← ctx.modelLevels component
    match atmosphereLevels? first last modelLevels with
    | some levels => .ok ⟨levels, false⟩
    | none => .error (unrecognised first last)

end Extent

end Coupling

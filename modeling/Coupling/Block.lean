import Coupling.Period
import Coupling.Resolution

/-!
# Field blocks

What the namcouple says about one field: a banner of comments, the connection line and the lines
on grids and transformations. A block is a function of the resolved field, the run context and
the numbers in the field's `Summary`; nothing else goes into it.
-/

namespace Coupling

/-- A written field, as it is recorded. -/
structure Summary where
  /-- The position among the written fields, from 1. -/
  index : UInt64
  source : String
  target : String
  origin : Component
  dest : Component
  grid : Char
  levels : UInt32
  mapping : Mapping
  weight : Int64
  /-- The coupling period in seconds. -/
  period : UInt32
  /-- The number of the run of fields from one origin that the field belongs to. -/
  seq : UInt32
  /-- The row in the table of CF names. -/
  cfIndex : UInt64
  deriving DecidableEq, Repr

/-- The name of one level: the bare name for the first, with a number from the second on. -/
def levelName (base : List Char) (level : Nat) : List Char :=
  if level = 1 then base else base ++ Text.padded 3 level

/-- The names of all levels joined by colons; there is always at least one. -/
def levelNames (base : String) (levels : UInt32) : String :=
  let names := (List.range (max levels.toNat 1)).map fun i => levelName base.toList (i + 1)
  String.ofList ([':'].intercalate names)

/-- The arguments that let the remapping generator make weights for a mapping. -/
def remappingArguments (mapping : Mapping) (order : Option UInt8) : Except Error String :=
  let conservation := if order = some 2 then "SECOND" else "FIRST"
  match mapping with
  | .bilinear => .ok "BILINEAR LR SCALAR LATLON 1"
  | .bicubic => .ok "BICUBIC LR SCALAR LATLON 1"
  | .conserveFraction => .ok s!"CONSERV LR SCALAR LATLON 1 FRACAREA {conservation}"
  | .conserveWhole => .ok s!"CONSERV LR SCALAR LATLON 1 DESTAREA {conservation}"
  | .nearest => .ok "DISTWGT LR SCALAR LATLON 1 4"
  | .patch | .scalar | .vector | .remove =>
    .error (.of .missingRemapping
      s!"remapping weights cannot be generated for mapping {mapping}")

/-- The ending of a remapping file's name for an order. -/
def orderEnding (order : Option UInt8) : String :=
  if order = some 1 then "_1st" else if order = some 2 then "_2nd" else ""

namespace Field

/-- Whether the field's remapping weights are generated during the run. -/
def isRemapped (f : Field) (ctx : RunContext) : Bool := ctx.remapped.contains f.name

/-- Whether the field is exchanged without a grid. -/
def isGridless (f : Field) : Bool := f.mapping = .scalar ∨ f.mapping = .vector

/-- The number of transformations in the field's block. -/
def transformations (f : Field) (ctx : RunContext) : Nat :=
  if f.isGridless then 1 else if f.isRemapped ctx then 2 else 1

def bannerGrid (f : Field) : Char :=
  match f.mapping with
  | .scalar => '0'
  | .vector => '1'
  | _ => f.grid.toUpper

/-- Columns and rows of a component's grid; the meridional wind of an atmosphere has one row
more, in a sum of 32 bits. -/
def dimensions (f : Field) (ctx : RunContext) (c : Component) :
    Except Error (UInt32 × UInt32) := do
  let (nx, ny) ← ctx.resolution c
  return (nx, if c.isAtmosphere ∧ f.grid = 'v' then ny + 1 else ny)

/-- The line that names both grids and their sizes. -/
def gridLine (sizes source target : String) (seq : UInt32) : String :=
  let seq := seq.toNat
  s!" {sizes} {source} {target} SEQ=+{seq}\n"

/-- The lines of a transformation that needs no weights. -/
def localLines : String := " LOCTRANS\n INSTANT\n"

/-- The lines of a remapping between two grids: weights made during the run, or a file of
them. -/
def remappingLines (f : Field) (ctx : RunContext) (source target : String) :
    Except Error String :=
  if f.isRemapped ctx then do
    let arguments ← noting "field" f.name (remappingArguments f.mapping f.order)
    return s!" CHECKIN SCRIPR\n INT=1\n {arguments}\n"
  else
    let method := f.mapping.identifier
    let ending := orderEnding f.order
    .ok s!" MAPPING\n rmp_{source}_to_{target}_{method}{ending}.nc src\n"

def gridLines (f : Field) (ctx : RunContext) (seq : UInt32) : Except Error String := do
  let source ← ctx.gridName f.origin f.grid
  let target ← ctx.gridName f.dest f.grid
  match f.mapping with
  | .scalar => return gridLine "1 1 1 1" source target seq ++ localLines
  | .vector =>
    let sent := (← ctx.vectorLength f.origin).toNat
    let received := (← ctx.vectorLength f.dest).toNat
    return gridLine s!"{sent} 1 {received} 1" source target seq ++ localLines
  | _ =>
    let (sentX, sentY) ← f.dimensions ctx f.origin
    let (receivedX, receivedY) ← f.dimensions ctx f.dest
    let sizes := s!"{sentX.toNat} {sentY.toNat} {receivedX.toNat} {receivedY.toNat}"
    let remapping ← f.remappingLines ctx source target
    return gridLine sizes source target seq ++
      s!" P {f.origin.periodicity} P {f.dest.periodicity}\n" ++ remapping

end Field

namespace Resolved

/-- The number of levels that the field is exchanged on. -/
def levels (r : Resolved) : UInt32 := r.field.levels.getD 1

/-- The comments above a field. -/
def banner (r : Resolved) (s : Summary) : String :=
  let stash := match r.names.stash with
    | some code =>
      let sectionNo := code.sectionNo.toNat
      let itemNo := code.itemNo.toNat
      s!" (STASH {sectionNo},{itemNo})"
    | none => ""
  let noun := if s.levels = 1 then "level" else "levels"
  let soil := if r.field.soil = some true then " soil" else ""
  let order := match r.field.order with
    | some order =>
      let order := order.toNat
      s!" {order}"
    | none => ""
  let grid := r.field.bannerGrid
  let weight := s.weight.toInt
  let period := s.period.toNat
  let label := Period.label period
  let levels := s.levels.toNat
  let index := s.index.toNat
  let number := r.field.number.toInt
  s!"#\n# {r.names.cf.longName}{stash} | weight {weight}\n" ++
    s!"# {s.origin} --> {s.dest} every {label} ({period}s) | {levels} {noun}{soil}\n" ++
    s!"# TRANSDEF: {s.origin}{grid} {s.dest}{grid} {index} {number}{order} ###\n"

/-- The line that connects the two sides of a field. -/
def connection (r : Resolved) (ctx : RunContext) (s : Summary) : String :=
  let source := levelNames s.source s.levels
  let target := levelNames s.target s.levels
  let cfIndex := s.cfIndex.toNat
  let period := s.period.toNat
  let transformations := r.field.transformations ctx
  let mode := if ctx.exported.contains r.field.name then "EXPOUT" else "EXPORTED"
  s!" {source} {target} {cfIndex} {period} {transformations} rstrt.nc {mode}\n"

def block (r : Resolved) (ctx : RunContext) (s : Summary) : Except Error String := do
  let lines ← r.field.gridLines ctx s.seq
  return r.banner s ++ r.connection ctx s ++ lines

end Resolved

end Coupling

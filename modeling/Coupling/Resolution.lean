import Coupling.CfName
import Coupling.Event
import Coupling.Stash.Extent
import Coupling.Stash.Master

/-!
# Resolving fields

A field is resolved to the names on both sides, its CF metadata and its grid and levels. There
are two ways:

* a field between atmosphere and ocean or rivers carries the tag of its sender in its name; the
  receiver's name has the receiver's tag in the same place, and nothing can go wrong;
* a hybrid field between the two atmospheres is named by its sender's letter and a STASH code,
  and the catalogue supplies grid, levels and long name.
-/

namespace Coupling

/-- The names and metadata of a resolved field. -/
structure Names where
  source : String
  target : String
  /-- The key under which the field's row stands in the table of CF names. -/
  cfKey : String
  cf : CfName
  /-- The code of a hybrid field. -/
  stash : Option StashCode
  deriving DecidableEq, Repr

/-- A field with its grid and levels filled in, and its names. -/
structure Resolved where
  field : Field
  names : Names
  deriving DecidableEq, Repr

namespace Field

/-- The start of a category suffix in a field name. -/
def categoryMark : String := "_cat"

/-- The key of a field name: neither the origin's tag nor a category nor outer underscores. -/
def cfKey (name : String) (origin : Component) : String :=
  let bare := Text.replaceFirst origin.tag.toList [] name.toList
  let base := match Text.cut? categoryMark.toList bare with
    | some (before, _) => before
    | none => bare
  String.ofList (Text.strip (· = '_') base)

/-- The name on the receiving side: the destination's tag in place of the origin's. -/
def counterpart (name : String) (origin dest : Component) : String :=
  String.ofList (Text.replaceFirst origin.tag.toList dest.tag.toList name.toList)

/-- The metadata of a key; a key without any is reported. -/
def metadata (name key : String) : Logged CfName :=
  match CfName.lookup? key with
  | some cf => pure cf
  | none => do
    Logged.report ⟨.warning, "no CF metadata, using placeholder", [("field", name), ("key", key)]⟩
    return .unknown

/-- Resolves a field by the component tag in its name. -/
def resolveTagged (f : Field) : Logged Resolved := do
  let key := cfKey f.name f.origin
  let cf ← metadata f.name key
  return {
    field := { f with levels := some (f.levels.getD 1), soil := some (f.soil.getD false) }
    names := {
      source := f.name
      target := counterpart f.name f.origin f.dest
      cfKey := key
      cf := cf
      stash := none } }

/-- The letters of the two atmospheres that a hybrid field joins. -/
def hybridEnds (f : Field) : Except Error (Char × Char) :=
  match f.origin.hybridMarker, f.dest.hybridMarker with
  | some origin, some dest => .ok (origin, dest)
  | _, _ =>
    let direction := f.direction
    let e := Error.of .wrongFormat s!"hybrid coupling {direction} needs two atmosphere instances"
    .error (e.note "field" f.name)

/-- The code in the name of a hybrid field sent by the atmosphere with letter `marker`. -/
def hybridCode (f : Field) (marker : Char) : Except Error StashCode :=
  let code := match f.name.toList with
    | c :: digits => if c = marker then StashCode.parse? (String.ofList digits) else none
    | [] => none
  match code with
  | some code => .ok code
  | none =>
    let name := f.name
    .error (.of .unknownStashCode s!"hybrid field '{name}' is not of the form {marker}SSIII")

/-- The letter of the receiving atmosphere and the code of a hybrid field. -/
def hybridParts (f : Field) : Except Error (Char × StashCode) := do
  let (origin, dest) ← f.hybridEnds
  let code ← f.hybridCode origin
  return (dest, code)

/-- The hybrid field of a code for which the catalogue has an entry. -/
def resolveEntry (f : Field) (ctx : RunContext) (dest : Char) (code : StashCode)
    (entry : StashEntry) : Except Error Resolved := do
  let kind ← noting "stash" code.text (GridKind.ofCode entry.grid)
  let extent ← noting "stash" code.text
    (Extent.resolve kind entry.firstLevel entry.lastLevel f.origin ctx)
  return {
    field := {
      f with grid := kind.letter, levels := some extent.levels, soil := some extent.soil }
    names := {
      source := f.name
      target := String.ofList (dest :: code.text.toList)
      cfKey := code.label
      cf := ⟨entry.longName, CfName.unknownWord⟩
      stash := some code } }

/-- Resolves a hybrid field; `lookup` consults the catalogue. -/
def resolveHybrid (f : Field) (ctx : RunContext)
    (lookup : StashCode → Except Error StashEntry) : Except Error Resolved := do
  let (dest, code) ← f.hybridParts
  let entry ← noting "field" f.name (lookup code)
  f.resolveEntry ctx dest code entry

/-- Resolves a field the way it asks for. -/
def resolveWith (f : Field) (ctx : RunContext) (lookup : StashCode → Except Error StashEntry) :
    Logged Resolved :=
  if f.hybrid then Logged.of (f.resolveHybrid ctx lookup) else f.resolveTagged

/-- What an attempt to resolve a field comes to: the names, the field afterwards, and the
catalogue afterwards. -/
structure Attempt where
  names : Logged Names
  field : Field
  catalogue : StashCatalogue

/-- The catalogue after an attempt: a hybrid field whose code is known has looked it up. -/
def catalogueAfter (f : Field) (ctx : RunContext) (read : FileReader) (catalogue : StashCatalogue) :
    StashCatalogue :=
  if f.hybrid then
    match f.hybridParts with
    | .ok (_, code) => (catalogue.lookup read ctx code).2
    | .error _ => catalogue
  else catalogue

/-- Resolves a field with a catalogue that is read when it is first needed. A field that cannot
be resolved stays as it was. -/
def resolve (f : Field) (ctx : RunContext) (read : FileReader) (catalogue : StashCatalogue) :
    Attempt :=
  let resolved := f.resolveWith ctx fun code => (catalogue.lookup read ctx code).1
  { names := ⟨resolved.result.map Resolved.names, resolved.events⟩
    field := match resolved.result with
      | .ok r => r.field
      | .error _ => f
    catalogue := f.catalogueAfter ctx read catalogue }

end Field

end Coupling

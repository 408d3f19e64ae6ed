import Coupling.Field
import Coupling.Text.Numeral

/-!
# Coupling specifications

A request declares its fields by texts of the form

    name; number; grid; dest[&dest...]; [levels]; [mapping[&order]]; [weight]; [period]

or by the word `default`:

* `Spec.read` reads one text against what the earlier ones left behind;
* `Spec.place` gives the destinations of a specification their weights, two apart;
* `Spec.build` turns all texts of a request into fields. Mapping and weight left empty are those
  carried over from the specification before; `default` neither uses nor changes them.
-/

namespace Coupling

/-- The word that stands for the default couplings. -/
def defaultWord : String := "default"

/-- Who sends the fields of a request, and how. -/
structure Sender where
  origin : Component
  hybrid : Bool := false
  selector : UInt64 := 0
  deriving DecidableEq, Repr

/-- A mapping together with its order. -/
structure MappingChoice where
  mapping : Mapping
  order : Option UInt8
  deriving DecidableEq, Repr

/-- What one specification leaves to the next. -/
structure Inherited where
  mapping : Option MappingChoice := none
  weight : Option Int64 := none
  deriving DecidableEq, Repr

/-- A specification with nothing left open. -/
structure Spec where
  name : String
  number : Int64
  grid : Char
  dests : List Component
  levels : Option UInt32
  mapping : MappingChoice
  weight : Int64
  period : Option UInt32
  deriving DecidableEq, Repr

namespace Spec

/-- The trimmed pieces between semicolons. -/
def pieces (text : String) : List String :=
  (Text.split ';' text.toList).map fun piece => String.ofList (Text.strip Text.isBlank piece)

def readNumber {α : Type} (number? : String → Option α) (what raw : String) : Except Error α :=
  match number? raw with
  | some n => .ok n
  | none => .error (.of .wrongFormat s!"{what} '{raw}' is not a valid integer")

/-- A grid letter, in lower case. -/
def readGrid (raw : String) : Except Error Char :=
  match raw.toList with
  | [c] =>
    if c.isAlpha then .ok c.toLower
    else .error (.of .wrongFormat s!"grid '{raw}' is not a single letter")
  | _ => .error (.of .wrongFormat s!"grid '{raw}' is not a single letter")

/-- One destination: a model other than the origin. -/
def readDest (origin : Component) (raw : String) : Except Error Component := do
  let dest ← Component.read raw
  if dest = .unresolved ∨ dest = origin then
    .error (.of .wrongFormat s!"'{raw}' is not a valid destination for {origin}")
  else .ok dest

/-- The destinations between ampersands. -/
def readDests (origin : Component) (raw : String) : Except Error (List Component) :=
  (Text.splitAt '&' raw).mapM (readDest origin)

/-- A positive number of levels, or nothing. -/
def readLevels (raw : String) : Except Error (Option UInt32) :=
  if raw = "" then .ok none
  else do
    let levels ← readNumber Text.uint32? "nlev" raw
    if levels = 0 then .error (.of .wrongFormat "number of levels must be positive")
    else .ok (some levels)

def readOrder : String → Except Error UInt8
  | "1" => .ok 1
  | "2" => .ok 2
  | other => .error (.of .unrecognisedMapping s!"unrecognised mapping order '{other}'")

def readToken (token : String) : Except Error Mapping :=
  match Mapping.ofToken? token with
  | some mapping => .ok mapping
  | none => .error (.of .unrecognisedMapping s!"unrecognised mapping '{token}'")

def readMapping (raw : String) : Except Error MappingChoice :=
  match Text.cut? ['&'] raw.toList with
  | none => do
    let mapping ← readToken raw
    return ⟨mapping, none⟩
  | some (before, after) => do
    let mapping ← readToken (Text.trim (String.ofList before))
    let order ← readOrder (Text.trim (String.ofList after))
    return ⟨mapping, some order⟩

/-- The written mapping, or the inherited one where nothing is written. -/
def chooseMapping (inherited : Inherited) (raw : String) : Except Error MappingChoice :=
  if raw = "" then
    match inherited.mapping with
    | some choice => .ok choice
    | none => .error
        (.of .missingMapping "first coupling specification of a call must name a mapping")
  else readMapping raw

/-- The written weight, or the inherited one where nothing is written. -/
def chooseWeight (inherited : Inherited) (raw : String) : Except Error Int64 :=
  if raw = "" then
    match inherited.weight with
    | some weight => .ok weight
    | none => .error
        (.of .missingWeight "first coupling specification of a call must give a weighting")
  else readNumber Text.int64? "weight" raw

def readPeriod (raw : String) : Except Error (Option UInt32) :=
  if raw = "" then .ok none else some <$> readNumber Text.uint32? "freq" raw

/-- Reads a specification; the checks run from the first field to the last. -/
def read (origin : Component) (inherited : Inherited) (text : String) : Except Error Spec :=
  if ¬ text.toList.contains ';' then
    .error (.of .wrongFormat
      "coupling value is neither 'default' nor a ';'-separated specification")
  else match pieces text with
    | name :: number :: grid :: dests :: levels :: mapping :: rest =>
      if 2 < rest.length then
        let count := 6 + rest.length
        .error (.of .wrongFormat
          s!"coupling specification has {count} fields, at most 8 are allowed")
      else if name = "" then .error (.of .wrongFormat "empty field name")
      else do
        let number ← readNumber Text.int64? "field_id" number
        let grid ← readGrid grid
        let dests ← readDests origin dests
        let levels ← readLevels levels
        let mapping ← chooseMapping inherited mapping
        let weight ← chooseWeight inherited (rest.getD 0 "")
        let period ← readPeriod (rest.getD 1 "")
        return { name, number, grid, dests, levels, mapping, weight, period }
    | few =>
      let count := few.length
      .error (.of .missingInput
        s!"coupling specification has {count} fields, at least 6 are required")

/-- The weight after `weight`, two above it. -/
def nextWeight (weight : Int64) : Except Error Int64 :=
  if weight.toInt + 2 ≤ Int64.maxValue.toInt then .ok (weight + 2)
  else
    let shown := weight.toInt
    .error (.of .wrongFormat s!"weighting {shown} leaves no room for the next record")

/-- The field that `spec` sends to `dest` with `weight`. -/
def field (sender : Sender) (spec : Spec) (dest : Component) (weight : Int64) : Field where
  name := spec.name
  number := spec.number
  grid := spec.grid
  origin := sender.origin
  dest := dest
  levels := spec.levels
  soil := none
  mapping := spec.mapping.mapping
  order := spec.mapping.order
  weight := weight
  hybrid := sender.hybrid
  selector := sender.selector
  period := spec.period

/-- One field for each destination, with rising weights, and the weight that follows them. -/
def place (make : Component → Int64 → Field) :
    List Component → Int64 → Except Error (List Field × Int64)
  | [], weight => .ok ([], weight)
  | dest :: dests, weight => do
    let next ← nextWeight weight
    let (fields, last) ← place make dests next
    return (make dest weight :: fields, last)

/-- The fields of one specification and what it leaves to the next. -/
def expand (sender : Sender) (inherited : Inherited) (text : String) :
    Except Error (List Field × Inherited) := do
  let spec ← read sender.origin inherited text
  let (fields, next) ← place (spec.field sender) spec.dests spec.weight
  return (fields, ⟨some spec.mapping, some next⟩)

/-- The fields of the specifications that follow `inherited`. -/
def buildFrom (sender : Sender) : Inherited → List String → Except Error (List Field)
  | _, [] => .ok []
  | inherited, text :: texts =>
    let text := Text.trim text
    if text = defaultWord then do
      let fields ← buildFrom sender inherited texts
      return .placeholder :: fields
    else do
      let (first, inherited) ← noting "spec" text (expand sender inherited text)
      let fields ← buildFrom sender inherited texts
      return first ++ fields

/-- The fields that a sender's specifications declare. -/
def build (sender : Sender) (texts : List String) : Except Error (List Field) :=
  buildFrom sender {} texts

end Spec

end Coupling

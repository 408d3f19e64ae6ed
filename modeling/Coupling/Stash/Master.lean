import Coupling.FileTree
import Coupling.RunContext
import Coupling.Stash.Code
import Coupling.Text.Blank

/-!
# STASHmaster catalogues

A catalogue lists the diagnostics of the atmosphere in records of several lines. A line that
starts with `1|` opens a record, and the line after it holds the record's body when it starts
with `2|`; it is used up either way. Records that cannot be read are skipped, and of several
records for one code the last counts.
-/

namespace Coupling

/-- What the catalogue says about one code. -/
structure StashEntry where
  longName : String
  grid : Int
  firstLevel : Int
  lastLevel : Int
  deriving DecidableEq, Repr

/-- A catalogue. -/
structure Stashmaster where
  entries : Table StashCode StashEntry := {}
  deriving DecidableEq

namespace Stashmaster

def lines (text : String) : List (List Char) :=
  (Text.split '\n' text.toList).map (Text.strip Text.isBlank)

/-- The text after the bar of a line that starts with `number` and a bar. -/
def after? (number : Char) : List Char → Option (List Char)
  | c :: '|' :: rest => if c = number then some rest else none
  | _ => none

/-- The header and the body of each record that has both. -/
def pairs : List (List Char) → List (List Char × List Char)
  | [] => []
  | line :: rest =>
    match after? '1' line with
    | none => pairs rest
    | some header =>
      match rest with
      | [] => []
      | next :: rest =>
        match after? '2' next with
        | some body => (header, body) :: pairs rest
        | none => pairs rest

def columns (line : List Char) : List String :=
  (Text.split '|' line).map fun column => String.ofList (Text.strip Text.isBlank column)

def numberAt? (columns : List String) (i : Nat) : Option Int := columns[i]? >>= Text.int32?

/-- A section or item number: 16 bits without a sign. -/
def code? (n : Int) : Option UInt16 :=
  if 0 ≤ n ∧ n < UInt16.size then some (UInt16.ofNat n.toNat) else none

def record? (header body : List Char) : Option (StashCode × StashEntry) := do
  let header := columns header
  let body := columns body
  let model ← numberAt? header 0
  let sectionNo ← numberAt? header 1 >>= code?
  let itemNo ← numberAt? header 2 >>= code?
  if model ≠ 1 then none
  else return (⟨sectionNo, itemNo⟩, {
    longName := ← header[3]?
    grid := ← numberAt? body 3
    firstLevel := ← numberAt? body 5
    lastLevel := ← numberAt? body 6 })

def parse (text : String) : Stashmaster :=
  ⟨Table.ofList ((pairs (lines text)).filterMap fun (header, body) => record? header body)⟩

def find (m : Stashmaster) (code : StashCode) : Except Error StashEntry :=
  match m.entries.get? code with
  | some entry => .ok entry
  | none => .error
      (.of .unknownStashCode s!"STASH code {code} is not in the STASHmaster catalogue")

def load (read : FileReader) (ctx : RunContext) : Except Error Stashmaster := do
  let path ← ctx.stashmasterPath
  match read.text path with
  | .ok text => .ok (parse text)
  | .error fault =>
    let reason := fault.text
    .error (.wrap .missingStashmaster ((ErrorInfo.of Kind.missingStashmaster.code
      s!"cannot read STASHmaster: {reason}").note "path" path))

end Stashmaster

/-- A catalogue that is read at the first look-up that finds it readable, and kept from then on. -/
structure StashCatalogue where
  loaded : Option Stashmaster := none
  deriving DecidableEq

/-- Looks a code up; the second part is the catalogue afterwards. -/
def StashCatalogue.lookup (c : StashCatalogue) (read : FileReader) (ctx : RunContext)
    (code : StashCode) : Except Error StashEntry × StashCatalogue :=
  match c.loaded with
  | some master => (master.find code, c)
  | none =>
    match Stashmaster.load read ctx with
    | .ok master => (master.find code, ⟨some master⟩)
    | .error e => (.error e, c)

end Coupling

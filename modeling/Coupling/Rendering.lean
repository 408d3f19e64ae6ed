import Coupling.Block
import Coupling.Consistency

/-!
# Rendering

The two written texts, the namcouple and the table of CF names, with a summary of each field:

* `Progress.add` appends one field: its sequence number, its row of CF names and its block
  depend on the fields before it, and what was appended before stays as it is;
* `render` adds the fields that are not removed, in the order given, and puts the header and the
  closing lines around the blocks.
-/

namespace Coupling

/-- The texts of a compilation and the summaries of the written fields. -/
structure Rendered where
  namcouple : String
  cfTable : String
  fields : List Summary
  deriving DecidableEq

/-- What has been written so far. -/
structure Progress where
  table : CfTable := {}
  blocks : List String := []
  summaries : List Summary := []
  /-- The number of runs of fields from one origin. -/
  seq : UInt32 := 0
  /-- The origin of the last field. -/
  previous : Option Component := none
  deriving DecidableEq

namespace Progress

/-- The sequence number of a field from `origin`: a new one unless the run continues. -/
def seqOf (p : Progress) (origin : Component) : UInt32 :=
  if p.previous = some origin then p.seq else p.seq + 1

def summary (p : Progress) (r : Resolved) (period : UInt32) (cfIndex : Nat) : Summary where
  index := UInt64.ofNat (p.summaries.length + 1)
  source := r.names.source
  target := r.names.target
  origin := r.field.origin
  dest := r.field.dest
  grid := r.field.grid
  levels := r.levels
  mapping := r.field.mapping
  weight := r.field.weight
  period := period
  seq := p.seqOf r.field.origin
  cfIndex := UInt64.ofNat cfIndex

def append (p : Progress) (ctx : RunContext) (r : Resolved) (period : UInt32) :
    Except Error Progress := do
  let (cfIndex, table) := p.table.insert r.names.cfKey r.names.cf
  let summary := p.summary r period cfIndex
  let block ← r.block ctx summary
  return {
    table := table
    blocks := p.blocks ++ [block]
    summaries := p.summaries ++ [summary]
    seq := summary.seq
    previous := some r.field.origin }

/-- Appends a field: its period first, then its names, then its block. -/
def add (ctx : RunContext) (lookup : StashCode → Except Error StashEntry) (p : Progress)
    (f : Field) : Logged Progress :=
  Logged.noting "weight" s!"{f.weight.toInt}" do
    let period ← Logged.of (ctx.period f)
    let r ← f.resolveWith ctx lookup
    Logged.of (p.append ctx r period)

def addAll (ctx : RunContext) (lookup : StashCode → Except Error StashEntry) (p : Progress) :
    List Field → Logged Progress
  | [] => pure p
  | f :: fields => do
    let p ← p.add ctx lookup f
    p.addAll ctx lookup fields

end Progress

def sectionRule : String :=
  "###############################################################################"

def headerSection (name value : String) : String :=
  s!"{sectionRule}\n ${name}\n    {value}\n $END\n"

/-- The sections above the fields. -/
def header (ctx : RunContext) (count : Nat) : String :=
  let models := " ".intercalate (s!"{ctx.executables.length}" :: ctx.executables)
  let runtime := ctx.runtime.toNat
  let verbosity := ctx.verbosity.toNat
  headerSection "NFIELDS" s!"{count}" ++
    headerSection "NBMODEL" models ++
    headerSection "RUNTIME" s!"{runtime}" ++
    headerSection "INIDATE" ctx.startDate ++
    headerSection "MODINFO" "NOT" ++
    headerSection "NLOGPRT" s!"{verbosity}" ++
    headerSection "CALTYPE" ctx.calendar ++
    s!"{sectionRule}\n $STRINGS\n"

/-- The lines below the fields. -/
def closing : String := s!"{sectionRule}\n $END\n"

def Progress.finish (p : Progress) (ctx : RunContext) : Rendered where
  namcouple := header ctx p.summaries.length ++ String.join p.blocks ++ closing
  cfTable := p.table.render
  fields := p.summaries

/-- Renders the fields that are not removed, in their order. -/
def render (ctx : RunContext) (lookup : StashCode → Except Error StashEntry)
    (fields : List Field) : Logged Rendered := do
  let p ← Progress.addAll ctx lookup {} (retained fields)
  return p.finish ctx

end Coupling

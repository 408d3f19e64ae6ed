import Coupling.Proofs.Emission
import Coupling.Proofs.Resolution

/-!
# Layout of the blocks

What the namcouple says about one field, line by line and as a relation beside the writer:

* `Transfer` is how a field comes onto the other grid: directly, with a file of weights, or with
  weights made during the run; its keywords are what the coupler counts as transformations;
* `Field.Joins` relates a field to the grids that its block names, one rule for each of the four
  kinds of block;
* `Resolved.lines` are the lines of a block. They depend on the resolved field, the settings of
  the run and five numbers of its summary, and on nothing else;
* `block_eq_ok_iff`: the writer writes exactly these lines, and fails exactly when no rule of
  `Joins` applies.
-/

namespace Coupling

/-- Lines, each with its end. -/
def unlines (lines : List String) : String := String.join (lines.map (· ++ "\n"))

@[simp] theorem toString_string (s : String) : toString s = s := rfl

@[simp] theorem unlines_nil : unlines [] = "" := rfl

@[simp] theorem unlines_cons (line : String) (lines : List String) :
    unlines (line :: lines) = line ++ "\n" ++ unlines lines := by
  simp only [unlines, List.map_cons, String.join_cons]

@[simp] theorem unlines_append (lines others : List String) :
    unlines (lines ++ others) = unlines lines ++ unlines others := by
  simp only [unlines, List.map_append, String.join_append]

/-- The numbers of a summary that are not those of its field. -/
structure Numbers where
  index : UInt64
  period : UInt32
  levels : UInt32
  seq : UInt32
  cfIndex : UInt64
  deriving DecidableEq, Repr

def Summary.numbers (s : Summary) : Numbers := ⟨s.index, s.period, s.levels, s.seq, s.cfIndex⟩

/-- The summary of a resolved field with some numbers. -/
def Resolved.numbered (r : Resolved) (n : Numbers) : Summary where
  index := n.index
  source := r.names.source
  target := r.names.target
  origin := r.field.origin
  dest := r.field.dest
  grid := r.field.grid
  levels := n.levels
  mapping := r.field.mapping
  weight := r.field.weight
  period := n.period
  seq := n.seq
  cfIndex := n.cfIndex

/-- How a field comes onto the other grid. -/
inductive Transfer where
  /-- As it is: numbers and vectors. -/
  | direct
  /-- With the weights in a file. -/
  | stored (file : String)
  /-- With weights made during the run. -/
  | generated (arguments : String)
  deriving DecidableEq, Repr

namespace Transfer

/-- The transformations that the coupler is told to do. -/
def keywords : Transfer → List String
  | direct => ["LOCTRANS"]
  | stored _ => ["MAPPING"]
  | generated _ => ["CHECKIN", "SCRIPR"]

/-- One line for each transformation's settings. -/
def settings : Transfer → List String
  | direct => [" INSTANT"]
  | stored file => [s!" {file} src"]
  | generated arguments => [" INT=1", s!" {arguments}"]

def lines (t : Transfer) : List String := (" " ++ " ".intercalate t.keywords) :: t.settings

theorem unlines_direct : unlines direct.lines = Field.localLines := by
  decide

theorem unlines_stored (file : String) :
    unlines (stored file).lines = " MAPPING\n " ++ file ++ " src\n" := by
  apply String.toList_injective
  simp [lines, keywords, settings]

theorem unlines_generated (arguments : String) :
    unlines (generated arguments).lines = " CHECKIN SCRIPR\n INT=1\n " ++ arguments ++ "\n" := by
  apply String.toList_injective
  simp [lines, keywords, settings]

end Transfer

/-- The two grids of a field. -/
structure GridPair where
  source : String
  target : String
  /-- The sizes of both grids, as they are written. -/
  sizes : String
  /-- What each grid overlaps itself by, unless the field has no grid. -/
  overlaps : Option (Nat × Nat)
  transfer : Transfer
  deriving DecidableEq, Repr

namespace GridPair

def sequenceLine (g : GridPair) (seq : UInt32) : String :=
  let seq := seq.toNat
  s!" {g.sizes} {g.source} {g.target} SEQ=+{seq}"

def overlapLines (g : GridPair) : List String :=
  match g.overlaps with
  | some (source, target) => [s!" P {source} P {target}"]
  | none => []

def lines (g : GridPair) (seq : UInt32) : List String :=
  g.sequenceLine seq :: (g.overlapLines ++ g.transfer.lines)

end GridPair

namespace Field

/-- How a field that needs weights comes from one named grid to another. -/
inductive Remaps (f : Field) (ctx : RunContext) (source target : String) : Transfer → Prop
  | stored (listed : f.isRemapped ctx = false) : f.Remaps ctx source target
      (.stored s!"rmp_{source}_to_{target}_{f.mapping.identifier}{orderEnding f.order}.nc")
  | generated {arguments : String} (listed : f.isRemapped ctx = true)
      (known : remappingArguments f.mapping f.order = .ok arguments) :
      f.Remaps ctx source target (.generated arguments)

/-- The grids that a field joins: a rule for numbers, one for vectors, and one for fields on a
grid of two dimensions, which are remapped in one of two ways. -/
inductive Joins (f : Field) (ctx : RunContext) : GridPair → Prop
  | scalar {source target : String} (mapping : f.mapping = .scalar)
      (from_ : ctx.gridName f.origin f.grid = .ok source)
      (to_ : ctx.gridName f.dest f.grid = .ok target) :
      f.Joins ctx ⟨source, target, "1 1 1 1", none, .direct⟩
  | vector {source target : String} {sent received : UInt32} (mapping : f.mapping = .vector)
      (from_ : ctx.gridName f.origin f.grid = .ok source)
      (to_ : ctx.gridName f.dest f.grid = .ok target)
      (sends : ctx.vectorLength f.origin = .ok sent)
      (receives : ctx.vectorLength f.dest = .ok received) :
      f.Joins ctx
        ⟨source, target, s!"{sent.toNat} 1 {received.toNat} 1", none, .direct⟩
  | plane {source target : String} {sentX sentY receivedX receivedY : UInt32} {t : Transfer}
      (mapping : f.isGridless = false)
      (from_ : ctx.gridName f.origin f.grid = .ok source)
      (to_ : ctx.gridName f.dest f.grid = .ok target)
      (sends : f.dimensions ctx f.origin = .ok (sentX, sentY))
      (receives : f.dimensions ctx f.dest = .ok (receivedX, receivedY))
      (remaps : f.Remaps ctx source target t) :
      f.Joins ctx ⟨source, target,
        s!"{sentX.toNat} {sentY.toNat} {receivedX.toNat} {receivedY.toNat}",
        some (f.origin.periodicity, f.dest.periodicity), t⟩

theorem remappingLines_eq_ok_iff {f : Field} {ctx : RunContext} {source target text : String} :
    f.remappingLines ctx source target = .ok text ↔
      ∃ t, f.Remaps ctx source target t ∧ text = unlines t.lines := by
  unfold remappingLines
  by_cases listed : f.isRemapped ctx = true
  · rw [if_pos listed]
    simp only [bind_eq_ok, noting_eq_ok, pure_eq_ok, toString_string]
    constructor
    · rintro ⟨arguments, known, rfl⟩
      exact ⟨_, .generated listed known, (Transfer.unlines_generated arguments).symm⟩
    · rintro ⟨_, remaps, rfl⟩
      cases remaps with
      | stored unlisted => simp [listed] at unlisted
      | @generated arguments _ known =>
        exact ⟨arguments, known, (Transfer.unlines_generated arguments).symm⟩
  · rw [if_neg listed]
    have unlisted : f.isRemapped ctx = false := by simpa using listed
    simp only [Except.ok.injEq]
    constructor
    · rintro rfl
      refine ⟨_, .stored unlisted, ?_⟩
      apply String.toList_injective
      simp [Transfer.unlines_stored]
    · rintro ⟨_, remaps, rfl⟩
      cases remaps with
      | stored =>
        apply String.toList_injective
        simp [Transfer.unlines_stored]
      | generated listed' _ => exact absurd listed' listed

theorem isGridless_eq_false_iff {f : Field} :
    f.isGridless = false ↔ f.mapping ≠ .scalar ∧ f.mapping ≠ .vector := by
  simp [isGridless]

theorem gridLines_plane {f : Field} {ctx : RunContext} {seq : UInt32}
    (plane : f.isGridless = false) :
    f.gridLines ctx seq = (do
      let source ← ctx.gridName f.origin f.grid
      let target ← ctx.gridName f.dest f.grid
      let sent ← f.dimensions ctx f.origin
      let received ← f.dimensions ctx f.dest
      let remapping ← f.remappingLines ctx source target
      let sizes := s!"{sent.1.toNat} {sent.2.toNat} {received.1.toNat} {received.2.toNat}"
      return gridLine sizes source target seq ++
        s!" P {f.origin.periodicity} P {f.dest.periodicity}\n" ++ remapping) := by
  obtain ⟨notScalar, notVector⟩ := isGridless_eq_false_iff.1 plane
  unfold gridLines
  cases hm : f.mapping <;> simp_all

theorem unlines_gridPair (g : GridPair) (seq : UInt32) :
    unlines (g.lines seq) =
      gridLine g.sizes g.source g.target seq ++ (unlines g.overlapLines ++ unlines g.transfer.lines) := by
  apply String.toList_injective
  simp [GridPair.lines, GridPair.sequenceLine, gridLine]

/-- The lines on grids are those of the pair of grids that a rule of `Joins` gives. -/
theorem gridLines_eq_ok_iff {f : Field} {ctx : RunContext} {seq : UInt32} {text : String} :
    f.gridLines ctx seq = .ok text ↔ ∃ g, f.Joins ctx g ∧ text = unlines (g.lines seq) := by
  constructor
  · intro h
    by_cases scalar : f.mapping = .scalar
    · simp only [gridLines, scalar, bind_eq_ok, pure_eq_ok] at h
      obtain ⟨source, from_, target, to_, rfl⟩ := h
      refine ⟨_, .scalar scalar from_ to_, ?_⟩
      rw [unlines_gridPair, Transfer.unlines_direct]
      rfl
    by_cases vector : f.mapping = .vector
    · simp only [gridLines, vector, bind_eq_ok, pure_eq_ok] at h
      obtain ⟨source, from_, target, to_, sent, sends, received, receives, rfl⟩ := h
      refine ⟨_, .vector vector from_ to_ sends receives, ?_⟩
      rw [unlines_gridPair, Transfer.unlines_direct]
      rfl
    have plane : f.isGridless = false := isGridless_eq_false_iff.2 ⟨scalar, vector⟩
    rw [gridLines_plane plane] at h
    simp only [bind_eq_ok, pure_eq_ok, remappingLines_eq_ok_iff] at h
    obtain ⟨source, from_, target, to_, sent, sends, received, receives, remapping,
      ⟨t, remaps, rfl⟩, rfl⟩ := h
    refine ⟨_, .plane plane from_ to_ sends receives remaps, ?_⟩
    rw [unlines_gridPair]
    simp [GridPair.overlapLines, String.append_assoc]
  · rintro ⟨g, joins, rfl⟩
    cases joins with
    | scalar mapping from_ to_ =>
      rw [unlines_gridPair, Transfer.unlines_direct]
      simp only [gridLines, mapping, from_, to_]
      rfl
    | vector mapping from_ to_ sends receives =>
      rw [unlines_gridPair, Transfer.unlines_direct]
      simp only [gridLines, mapping, from_, to_, sends, receives]
      rfl
    | @plane source target sentX sentY receivedX receivedY t mapping from_ to_ sends receives
        remaps =>
      have remapping := remappingLines_eq_ok_iff.2 ⟨t, remaps, rfl⟩
      rw [gridLines_plane mapping, unlines_gridPair]
      simp only [bind_eq_ok, pure_eq_ok]
      refine ⟨source, from_, target, to_, _, sends, _, receives, _, remapping, ?_⟩
      simp [GridPair.overlapLines, String.append_assoc]

/-- Numbers and vectors are never remapped, whether or not the run lists the field; other fields
are remapped in the way that the run lists. -/
theorem Joins.keywords {f : Field} {ctx : RunContext} {g : GridPair} (h : f.Joins ctx g) :
    g.transfer.keywords =
      if f.isGridless then ["LOCTRANS"]
      else if f.isRemapped ctx then ["CHECKIN", "SCRIPR"] else ["MAPPING"] := by
  cases h with
  | scalar mapping => simp [isGridless, mapping, Transfer.keywords]
  | vector mapping => simp [isGridless, mapping, Transfer.keywords]
  | plane mapping _ _ _ _ remaps =>
    cases remaps with
    | stored listed => simp [mapping, listed, Transfer.keywords]
    | generated listed _ => simp [mapping, listed, Transfer.keywords]

/-- The number in the connection line counts the keywords further down. -/
theorem Joins.transformations {f : Field} {ctx : RunContext} {g : GridPair} (h : f.Joins ctx g) :
    f.transformations ctx = g.transfer.keywords.length := by
  rw [h.keywords, Field.transformations]
  split
  · rfl
  · split <;> rfl

end Field

namespace Resolved

def bannerLines (r : Resolved) (n : Numbers) : List String :=
  let stash := match r.names.stash with
    | some code => s!" (STASH {code.sectionNo.toNat},{code.itemNo.toNat})"
    | none => ""
  let noun := if n.levels = 1 then "level" else "levels"
  let soil := if r.field.soil = some true then " soil" else ""
  let order := match r.field.order with
    | some order => s!" {order.toNat}"
    | none => ""
  let grid := r.field.bannerGrid
  let label := Period.label n.period.toNat
  ["#",
   s!"# {r.names.cf.longName}{stash} | weight {r.field.weight.toInt}",
   s!"# {r.field.origin} --> {r.field.dest} every {label} ({n.period.toNat}s) | " ++
     s!"{n.levels.toNat} {noun}{soil}",
   s!"# TRANSDEF: {r.field.origin}{grid} {r.field.dest}{grid} {n.index.toNat} " ++
     s!"{r.field.number.toInt}{order} ###"]

/-- The line that connects the two sides of a field; it counts the keywords of the transfer. -/
def connectionLine (r : Resolved) (ctx : RunContext) (n : Numbers) (t : Transfer) : String :=
  let source := levelNames r.names.source n.levels
  let target := levelNames r.names.target n.levels
  let mode := if ctx.exported.contains r.field.name then "EXPOUT" else "EXPORTED"
  s!" {source} {target} {n.cfIndex.toNat} {n.period.toNat} {t.keywords.length} rstrt.nc {mode}"

def lines (r : Resolved) (ctx : RunContext) (n : Numbers) (g : GridPair) : List String :=
  r.bannerLines n ++ r.connectionLine ctx n g.transfer :: g.lines n.seq

theorem unlines_bannerLines (r : Resolved) (n : Numbers) :
    unlines (r.bannerLines n) = r.banner (r.numbered n) := by
  have first : "#\n# " = "#" ++ ("\n" ++ "# ") := rfl
  have last : " ###\n" = " ###" ++ "\n" := rfl
  cases stash : r.names.stash <;> cases order : r.field.order <;>
    simp only [bannerLines, banner, numbered, stash, order, unlines_cons, unlines_nil,
      toString_string, first, last, String.append_assoc, String.append_empty] <;> rfl

theorem unlines_connectionLine {r : Resolved} {ctx : RunContext} (n : Numbers) {t : Transfer}
    (counted : r.field.transformations ctx = t.keywords.length) :
    r.connectionLine ctx n t ++ "\n" = r.connection ctx (r.numbered n) := by
  unfold connectionLine connection
  simp only [numbered, counted, toString_string, String.append_assoc]

/-- The writer writes the lines of the block, for the one pair of grids that the field joins. -/
theorem block_eq_ok_iff {r : Resolved} {ctx : RunContext} {n : Numbers} {block : String} :
    r.block ctx (r.numbered n) = .ok block ↔
      ∃ g, r.field.Joins ctx g ∧ block = unlines (r.lines ctx n g) := by
  simp only [Resolved.block, bind_eq_ok, pure_eq_ok, Field.gridLines_eq_ok_iff]
  have text {g : GridPair} (joins : r.field.Joins ctx g) :
      r.banner (r.numbered n) ++ r.connection ctx (r.numbered n) ++ unlines (g.lines n.seq) =
        unlines (r.lines ctx n g) := by
    rw [lines, unlines_append, unlines_cons, unlines_bannerLines,
      unlines_connectionLine n joins.transformations, String.append_assoc]
  constructor
  · rintro ⟨_, ⟨g, joins, rfl⟩, rfl⟩
    exact ⟨g, joins, text joins⟩
  · rintro ⟨g, joins, rfl⟩
    exact ⟨_, ⟨g, joins, rfl⟩, text joins⟩

end Resolved

/-! ## The whole text -/

theorem Emission.summary_eq_numbered (e : Emission) :
    e.summary = e.resolved.numbered e.summary.numbers := rfl

/-- `blocks` stand between the header and the closing lines, one for each summary. -/
structure Rendered.Blocks (out : Rendered) (ctx : RunContext) (blocks : List String) : Prop where
  text : out.namcouple = header ctx out.fields.length ++ String.join blocks ++ closing
  length : blocks.length = out.fields.length

theorem Written.blocks {ctx : RunContext} {lookup : StashCode → Except Error StashEntry}
    {fields : List Field} {p : Progress} (h : Written ctx lookup fields p) :
    (p.finish ctx).Blocks ctx p.blocks where
  text := rfl
  length := h.lengths.2.trans h.lengths.1.symm

/-- The block of `f` is what the writer makes of the resolved field, the run and the numbers in the
summary `s`: the lines for the grids that the field joins. The transformations that its connection
line counts are the keywords further down, whose choice only the mapping and the run decide. -/
def Field.WrittenAs (f : Field) (ctx : RunContext)
    (lookup : StashCode → Except Error StashEntry) (s : Summary) (block : String) : Prop :=
  ∃ r g, (f.resolveWith ctx lookup).result = .ok r ∧ s = r.numbered s.numbers ∧
    r.block ctx (r.numbered s.numbers) = .ok block ∧
    r.field.Joins ctx g ∧ block = unlines (r.lines ctx s.numbers g) ∧
    g.transfer.keywords =
      if f.mapping = .scalar ∨ f.mapping = .vector then ["LOCTRANS"]
      else if ctx.remapped.contains f.name then ["CHECKIN", "SCRIPR"] else ["MAPPING"]

section
variable {ctx : RunContext} {lookup : StashCode → Except Error StashEntry}

theorem Emission.Of.writtenAs {f : Field} {e : Emission} (of : e.Of ctx lookup f) :
    f.WrittenAs ctx lookup e.summary e.block := by
  obtain ⟨g, joins, lines⟩ := Resolved.block_eq_ok_iff.1 (e.summary_eq_numbered ▸ of.block)
  refine ⟨e.resolved, g, of.resolved, rfl, of.block, joins, lines, ?_⟩
  obtain ⟨_, _, _, filled⟩ := (Field.fills_of_resolveWith of.resolved).field
  simpa [filled, Field.isGridless, Field.isRemapped] using joins.keywords

theorem Written.writtenAs {fields : List Field} {p : Progress} (h : Written ctx lookup fields p)
    {i : Nat} {f : Field} {s : Summary} {block : String} (hf : fields[i]? = some f)
    (hs : p.summaries[i]? = some s) (hblock : p.blocks[i]? = some block) :
    f.WrittenAs ctx lookup s block := by
  obtain ⟨e, -, of, summary, text⟩ := h.emission hf
  rw [Option.some.inj (hs.symm.trans summary), Option.some.inj (hblock.symm.trans text)]
  exact of.writtenAs

end

/-- A run of an atmosphere and an ocean. Weights are made on the way for the wind stress; the
surface temperature is listed as well, which has no effect on a single number. -/
def exchangeRun : RunContext where
  components := Table.ofList [
    (.atmosphere, { grid := "n96", resolution := some (192, 144) }),
    (.ocean, { grid := "orca1", resolution := some (360, 290) })]
  schedules := Table.ofList [
    (⟨.atmosphere, .ocean⟩, ⟨3600, none⟩), (⟨.ocean, .atmosphere⟩, ⟨10800, some 7200⟩)]
  remapped := NameSet.ofNames ["ATM_TAUX", "OCN_SST"]
  runtime := 86400
  startDate := "19790101"

def windStress : Field where
  name := "ATM_TAUX"
  number := 11
  grid := 'v'
  origin := .atmosphere
  dest := .ocean
  levels := some 3
  soil := none
  mapping := .bilinear
  order := some 2
  weight := 2
  hybrid := false
  selector := 0
  period := none

def surfaceTemperature : Field :=
  { windStress with
    name := "OCN_SST", grid := 't', origin := .ocean, dest := .atmosphere, levels := none,
    mapping := .scalar, order := none, weight := 6 }

/-- A run without hybrid fields has no use for a catalogue. -/
def noCatalogue : StashCode → Except Error StashEntry :=
  fun _ => .error (.of .missingStashmaster "no STASHmaster directory configured")

end Coupling

import Coupling.Proofs.Header
import Coupling.Proofs.Tables
import Coupling.Proofs.Spelling

/-!
# The grammar of specifications

Which texts a sender may declare, and what is reported about the others:

* `Spec.Spells`: a text spells a specification, given what the specifications before it left.
  These are the specifications that `Spec.read` yields (`read_eq_ok_iff`);
* `Spec.rules` lists the rules of the grammar in the order in which a text is held to them, and
  `expand_checks` says that the first one it violates is reported;
* `place_finds`: the fields of a specification are two apart in weight, with room above the last
  one, and nothing wraps around (`toInt_raised`);
* `Spec.Adds` and `Spec.Builds`: what one text adds and leaves to the next, and what a list of
  texts does. They are all that `buildFrom` does (`buildFrom_eq_ok_iff`), and it fails with the
  first text that adds nothing (`buildFrom_eq_error_iff`);
* `build_accepts_grammar`: so a list of texts is accepted exactly when each of them is in the
  grammar, and otherwise the first that is not is reported, with the rule it violates first.
-/

namespace Coupling

namespace Spec

/-- The `i`th field of a specification, empty where there is none. -/
def piece (text : String) (i : Nat) : String := (pieces text).getD i ""

/-- What a text says that reads as `spec`, where the specifications before it left `inherited`. -/
structure Spells (origin : Component) (inherited : Inherited) (text : String) (spec : Spec) :
    Prop where
  enough : 6 ≤ (pieces text).length
  few : (pieces text).length ≤ 8
  name : piece text 0 = spec.name
  filled : piece text 0 ≠ ""
  number : Text.SpellsInt64 (piece text 1) spec.number
  grid : SpellsGrid (piece text 2) spec.grid
  dests : List.Forall₂ (SpellsDest origin) (Text.splitAt '&' (piece text 3)) spec.dests
  levels : Optional SpellsLevels (piece text 4) spec.levels
  mapping : Chosen inherited.mapping SpellsMapping (piece text 5) spec.mapping
  weight : Chosen inherited.weight Text.SpellsInt64 (piece text 6) spec.weight
  period : Optional Text.SpellsUInt32 (piece text 7) spec.period

theorem mem_of_two_le_pieces {text : String} (h : 2 ≤ (pieces text).length) :
    ';' ∈ text.toList := by
  by_contra absent
  rw [pieces, List.length_map, Text.split_of_not_mem absent] at h
  exact absurd h (Nat.not_succ_le_self 1)

theorem exists_pieces {text : String} (enough : 6 ≤ (pieces text).length) :
    ∃ name number grid dests levels mapping rest,
      pieces text = name :: number :: grid :: dests :: levels :: mapping :: rest := by
  match pieces text, enough with
  | name :: number :: grid :: dests :: levels :: mapping :: rest, _ =>
    exact ⟨name, number, grid, dests, levels, mapping, rest, rfl⟩

section
variable {origin : Component} {inherited : Inherited} {text : String} {spec : Spec}

theorem spells_of_read (h : read origin inherited text = .ok spec) :
    Spells origin inherited text spec := by
  obtain ⟨number, grid, dests, levels, mapping, rest, parts⟩ := exists_piecesOf h
  have said (i : Nat) : piece text i =
      (spec.name :: number :: grid :: dests :: levels :: mapping :: rest).getD i "" := by
    rw [piece, parts.pieces]
  have few := parts.few
  exact {
    enough := by rw [parts.pieces]; simp
    few := by rw [parts.pieces]; simp only [List.length_cons]; omega
    name := said 0
    filled := by rw [said]; exact parts.filled
    number := by rw [said]; exact ((readInt64_finds _ _).ok_iff _).1 parts.number
    grid := by rw [said]; exact ((readGrid_finds _).ok_iff _).1 parts.grid
    dests := by rw [said]; exact ((readDests_finds _ _).ok_iff _).1 parts.dests
    levels := by rw [said]; exact ((readLevels_finds _).ok_iff _).1 parts.levels
    mapping := by rw [said]; exact chooseMapping_eq_ok_iff.1 parts.mapping
    weight := by rw [said]; exact chooseWeight_eq_ok_iff.1 parts.weight
    period := by rw [said]; exact ((readPeriod_finds _).ok_iff _).1 parts.period }

theorem read_of_spells (h : Spells origin inherited text spec) :
    read origin inherited text = .ok spec := by
  obtain ⟨name, number, grid, dests, levels, mapping, rest, parts⟩ := exists_pieces h.enough
  have said (i : Nat) : piece text i =
      (name :: number :: grid :: dests :: levels :: mapping :: rest).getD i "" := by
    rw [piece, parts]
  have separated : text.toList.contains ';' = true :=
    List.contains_iff_mem.2 (mem_of_two_le_pieces (Nat.le_trans (by decide) h.enough))
  have few : ¬ 2 < rest.length := by
    have few := h.few
    rw [parts] at few
    simp only [List.length_cons] at few
    omega
  obtain rfl : name = spec.name := (said 0).symm.trans h.name
  have filled : spec.name ≠ "" := h.name ▸ h.filled
  have number := ((readInt64_finds "field_id" _).ok_iff _).2 (said 1 ▸ h.number)
  have grid := ((readGrid_finds _).ok_iff _).2 (said 2 ▸ h.grid)
  have dests := ((readDests_finds origin _).ok_iff _).2 (said 3 ▸ h.dests)
  have levels := ((readLevels_finds _).ok_iff _).2 (said 4 ▸ h.levels)
  have mapping := chooseMapping_eq_ok_iff.2 (said 5 ▸ h.mapping)
  have weight := chooseWeight_eq_ok_iff.2 (said 6 ▸ h.weight)
  have period := ((readPeriod_finds _).ok_iff _).2 (said 7 ▸ h.period)
  simp only [List.getD_cons_succ, List.getD_cons_zero] at *
  simp only [read, separated, parts, few, filled, number, grid, dests, levels, mapping, weight,
    period]
  rfl

/-- What a text is held to, up to the room above its last weight: the number of its fields first, and
then one field after the other. A field that may be left empty has two rules where that makes a
difference to the report. -/
def fieldRules (origin : Component) (inherited : Inherited) (text : String) : List Requirement :=
  [⟨.wrongFormat, ';' ∈ text.toList⟩,
   ⟨.missingInput, 6 ≤ (pieces text).length⟩,
   ⟨.wrongFormat, (pieces text).length ≤ 8⟩,
   ⟨.wrongFormat, piece text 0 ≠ ""⟩,
   ⟨.wrongFormat, ∃ number, Text.SpellsInt64 (piece text 1) number⟩,
   ⟨.wrongFormat, ∃ grid, SpellsGrid (piece text 2) grid⟩,
   ⟨.wrongFormat, ∃ dests,
      List.Forall₂ (SpellsDest origin) (Text.splitAt '&' (piece text 3)) dests⟩,
   ⟨.wrongFormat, ∃ levels, Optional SpellsLevels (piece text 4) levels⟩,
   ⟨.missingMapping, piece text 5 = "" → ∃ choice, inherited.mapping = some choice⟩,
   ⟨.unrecognisedMapping, piece text 5 ≠ "" → ∃ choice, SpellsMapping (piece text 5) choice⟩,
   ⟨.missingWeight, piece text 6 = "" → ∃ weight, inherited.weight = some weight⟩,
   ⟨.wrongFormat, piece text 6 ≠ "" → ∃ weight, Text.SpellsInt64 (piece text 6) weight⟩,
   ⟨.wrongFormat, ∃ period, Optional Text.SpellsUInt32 (piece text 7) period⟩]

theorem read_checks (origin : Component) (inherited : Inherited) (text : String) :
    Checks (read origin inherited text) (fieldRules origin inherited text) := by
  -- the fields are only there once the checks on their number have passed
  unfold read
  split
  · next absent => exact .failed (by simpa using absent) (by simp)
  · next separated =>
    refine .cons (by simpa using separated) ?_
    split
    · next name number grid dests levels mapping rest parts =>
      have said (i : Nat) : piece text i =
          (name :: number :: grid :: dests :: levels :: mapping :: rest).getD i "" := by
        rw [piece, parts]
      simp only [said, parts, List.getD_cons_succ, List.getD_cons_zero]
      refine .cons (by simp) ?_
      split
      · next many => exact .failed (by simp; omega) (by simp)
      · next few =>
        refine .cons (by simp; omega) ?_
        split
        · next blank => exact .failed (by simpa using blank) (by simp)
        · next filled =>
          refine .cons filled ?_
          refine (readInt64_finds _ _).checks.bind fun number _ => ?_
          refine (readGrid_finds _).checks.bind fun grid _ => ?_
          refine (readDests_finds _ _).checks.bind fun dests _ => ?_
          refine (readLevels_finds _).checks.bind fun levels _ => ?_
          refine chooseMapping_checks.bind fun mapping _ => ?_
          refine chooseWeight_checks.bind fun weight _ => ?_
          exact (readPeriod_finds _).checks.map
    · next few =>
      refine .failed ?_ (by simp)
      intro enough
      obtain ⟨_, _, _, _, _, _, _, parts⟩ := exists_pieces enough
      exact few _ _ _ _ _ _ _ parts

theorem read_eq_ok_iff :
    read origin inherited text = .ok spec ↔ Spells origin inherited text spec :=
  ⟨spells_of_read, read_of_spells⟩

end

/-! ## Fanning out -/

/-- The weight that stands `records` records above another. -/
def raised (weight : Int64) (records : Nat) : Int64 := weight + Int64.ofInt (2 * records)

theorem raised_zero (weight : Int64) : raised weight 0 = weight := by simp [raised]

theorem raised_succ (weight : Int64) (records : Nat) :
    raised (weight + 2) records = raised weight (records + 1) := by
  have step : Int64.ofInt (2 * (records + 1 : Nat)) = 2 + Int64.ofInt (2 * records) := by
    rw [show ((2 : Int) * (records + 1 : Nat)) = 2 + 2 * records by omega, Int64.ofInt_add]
    rfl
  rw [raised, raised, step, Int64.add_assoc]

theorem raised_add_two (weight : Int64) (records : Nat) :
    raised weight records + 2 = raised weight (records + 1) := by
  rw [← raised_succ, raised, raised, Int64.add_assoc, Int64.add_assoc, Int64.add_comm 2]

theorem raised_one (weight : Int64) : raised weight 1 = weight + 2 := by
  rw [← raised_succ, raised_zero]

/-- Nothing wraps around where there is room. -/
theorem toInt_raised {weight : Int64} {records : Nat}
    (room : weight.toInt + 2 * records ≤ Int64.maxValue.toInt) :
    (raised weight records).toInt = weight.toInt + 2 * records := by
  have sum : raised weight records = Int64.ofInt (weight.toInt + 2 * records) := by
    rw [Int64.ofInt_add, Int64.ofInt_toInt, raised]
  have low : Int64.minValue.toInt ≤ weight.toInt + 2 * records :=
    Int.le_trans weight.minValue_le_toInt (by omega)
  rw [sum]
  exact Int64.toInt_ofInt_of_le low (Int.lt_add_one_of_le room)

theorem toInt_add_two {weight : Int64} (room : weight.toInt + 2 ≤ Int64.maxValue.toInt) :
    (weight + 2).toInt = weight.toInt + 2 :=
  raised_one weight ▸ toInt_raised room

section
variable {make : Component → Int64 → Field}

theorem nextWeight_finds (weight : Int64) : Finds (nextWeight weight) .wrongFormat fun next =>
    weight.toInt + 2 ≤ Int64.maxValue.toInt ∧ next = weight + 2 where
  ok_iff _ := nextWeight_eq_ok_iff
  error e fails := by
    unfold nextWeight at fails
    split at fails
    · cases fails
    · cases fails
      simp

/-- What placing yields: a field for each destination, two apart in weight, and the weight above
the last of them, which is a weight still. -/
structure Placed (make : Component → Int64 → Field) (dests : List Component) (weight : Int64)
    (placed : List Field × Int64) : Prop where
  room : weight.toInt + 2 * dests.length ≤ Int64.maxValue.toInt
  fields : placed.1 = dests.mapIdx fun j dest => make dest (raised weight j)
  last : placed.2 = raised weight dests.length

theorem placed_nil_iff {weight : Int64} {placed : List Field × Int64} :
    Placed make [] weight placed ↔ ([], weight) = placed := by
  constructor
  · intro h
    exact Prod.ext h.fields.symm ((raised_zero weight).symm.trans h.last.symm)
  · rintro rfl
    exact ⟨by simpa using weight.toInt_le, rfl, (raised_zero weight).symm⟩

theorem placed_cons_iff {dest : Component} {dests : List Component} {weight : Int64}
    {placed : List Field × Int64} : Placed make (dest :: dests) weight placed ↔
      weight.toInt + 2 ≤ Int64.maxValue.toInt ∧
        ∃ rest, Placed make dests (weight + 2) rest ∧
          (make dest weight :: rest.1, rest.2) = placed := by
  constructor
  · obtain ⟨fields, last⟩ := placed
    rintro ⟨room, rfl, rfl⟩
    rw [List.length_cons] at room
    have first : weight.toInt + 2 ≤ Int64.maxValue.toInt := by omega
    have next := toInt_add_two first
    let rest := dests.mapIdx fun j dest => make dest (raised (weight + 2) j)
    refine ⟨first, (rest, raised (weight + 2) dests.length), ⟨by omega, rfl, rfl⟩, ?_⟩
    simp only [rest, List.mapIdx_cons, List.length_cons, raised_zero, raised_succ]
  · rintro ⟨first, rest, ⟨room, fields, last⟩, rfl⟩
    have next := toInt_add_two first
    refine ⟨by rw [List.length_cons]; omega, ?_, ?_⟩
    · simp only [fields, List.mapIdx_cons, raised_zero, raised_succ]
    · exact last.trans (raised_succ weight dests.length)

theorem place_finds (dests : List Component) (weight : Int64) :
    Finds (place make dests weight) .wrongFormat (Placed make dests weight) := by
  induction dests generalizing weight with
  | nil => exact (Finds.ok ([], weight)).congr fun placed => placed_nil_iff.symm
  | cons dest dests ih =>
    have placed := (nextWeight_finds weight).bind fun next => (ih next).bind fun rest =>
      Finds.ok (make dest weight :: rest.1, rest.2)
    refine placed.congr fun placed => ?_
    rw [placed_cons_iff]
    constructor
    · rintro ⟨_, ⟨first, rfl⟩, rest⟩
      exact ⟨first, rest⟩
    · rintro ⟨first, rest⟩
      exact ⟨_, ⟨first, rfl⟩, rest⟩

/-- Where fields cannot be placed, what is missing is room. -/
theorem place_checks (dests : List Component) (weight : Int64) : Checks (place make dests weight)
    [⟨.wrongFormat, weight.toInt + 2 * dests.length ≤ Int64.maxValue.toInt⟩] := by
  refine (place_finds dests weight).checks.congr ⟨?_, ?_⟩
  · rintro ⟨placed, h⟩
    exact h.room
  · intro room
    exact ⟨(_, _), room, rfl, rfl⟩

end

/-- There is room for every field and for the weight after the last one. -/
def HasRoom (spec : Spec) : Prop :=
  spec.weight.toInt + 2 * spec.dests.length ≤ Int64.maxValue.toInt

/-- The fields of a specification, one for each destination, two apart in weight. -/
def fan (spec : Spec) (sender : Sender) : List Field :=
  spec.dests.mapIdx fun j dest => spec.field sender dest (raised spec.weight j)

/-- What a specification leaves to the next. -/
def leaves (spec : Spec) : Inherited where
  mapping := some spec.mapping
  weight := some (raised spec.weight spec.dests.length)

/-- The rules of the grammar, in the order in which a specification is held to them. -/
def rules (origin : Component) (inherited : Inherited) (text : String) : List Requirement :=
  fieldRules origin inherited text ++
    [⟨.wrongFormat, ∀ weight, Chosen inherited.weight Text.SpellsInt64 (piece text 6) weight →
      weight.toInt + 2 * (Text.splitAt '&' (piece text 3)).length ≤ Int64.maxValue.toInt⟩]

section
variable {sender : Sender} {inherited left : Inherited} {text : String} {fields : List Field}

theorem expand_eq_ok_iff : expand sender inherited text = .ok (fields, left) ↔
    ∃ spec, Spells sender.origin inherited text spec ∧ spec.HasRoom ∧
      fields = spec.fan sender ∧ left = spec.leaves := by
  simp only [expand, bind_eq_ok, pure_eq_ok, read_eq_ok_iff, (place_finds _ _).ok_iff,
    Prod.mk.injEq]
  constructor
  · rintro ⟨spec, spelled, ⟨_, _⟩, ⟨room, rfl, rfl⟩, rfl, rfl⟩
    exact ⟨spec, spelled, room, rfl, rfl⟩
  · rintro ⟨spec, spelled, room, rfl, rfl⟩
    exact ⟨spec, spelled, (_, _), ⟨room, rfl, rfl⟩, rfl, rfl⟩

theorem expand_checks (sender : Sender) (inherited : Inherited) (text : String) :
    Checks (expand sender inherited text) (rules sender.origin inherited text) := by
  refine (read_checks sender.origin inherited text).bind ?_
  intro spec reads
  have spelled := spells_of_read reads
  have room : spec.weight.toInt + 2 * spec.dests.length ≤ Int64.maxValue.toInt ↔
      ∀ weight, Chosen inherited.weight Text.SpellsInt64 (piece text 6) weight →
        weight.toInt + 2 * (Text.splitAt '&' (piece text 3)).length ≤ Int64.maxValue.toInt := by
    rw [spelled.dests.length_eq]
    constructor
    · intro room weight chosen
      have found := chooseWeight_eq_ok_iff.2 spelled.weight
      have same := found.symm.trans (chooseWeight_eq_ok_iff.2 chosen)
      exact Except.ok.inj same ▸ room
    · exact fun room => room spec.weight spelled.weight
  exact ((place_checks spec.dests spec.weight).congr room).map

end

/-! ## One specification after another -/

/-- A text adds `fields` where the texts before it left `inherited`, and leaves `left` itself. -/
inductive Adds (sender : Sender) (inherited : Inherited) (text : String) :
    List Field → Inherited → Prop
  | placeholder (word : Text.trim text = defaultWord) :
      Adds sender inherited text [.placeholder] inherited
  | fan {spec : Spec} (other : Text.trim text ≠ defaultWord)
      (spelled : Spells sender.origin inherited (Text.trim text) spec) (room : spec.HasRoom) :
      Adds sender inherited text (spec.fan sender) spec.leaves

/-- The texts add `groups`, one for each of them, and leave `left`. -/
inductive Builds (sender : Sender) :
    Inherited → List String → List (List Field) → Inherited → Prop
  | nil {inherited : Inherited} : Builds sender inherited [] [] inherited
  | cons {inherited next left : Inherited} {text : String} {texts : List String}
      {group : List Field} {groups : List (List Field)}
      (adds : Adds sender inherited text group next) (rest : Builds sender next texts groups left) :
      Builds sender inherited (text :: texts) (group :: groups) left

/-- The text is not the word for the defaults, and reading it as a specification fails with `e`. -/
structure Rejects (sender : Sender) (inherited : Inherited) (text : String) (e : Error) : Prop where
  other : Text.trim text ≠ defaultWord
  fails : noting "spec" (Text.trim text) (expand sender inherited (Text.trim text)) = .error e

/-- The text is in the grammar, given what the texts before it left. -/
def Accepts (origin : Component) (inherited : Inherited) (text : String) : Prop :=
  Text.trim text = defaultWord ∨ ∀ q ∈ rules origin inherited (Text.trim text), q.holds

section
variable {sender : Sender} {inherited next left : Inherited} {text : String} {texts : List String}
  {group fields : List Field} {groups : List (List Field)} {e : Error}

theorem adds_or_rejects (sender : Sender) (inherited : Inherited) (text : String) :
    (∃ group next, Adds sender inherited text group next) ∨
      ∃ e, Rejects sender inherited text e := by
  by_cases word : Text.trim text = defaultWord
  · exact .inl ⟨_, _, .placeholder word⟩
  · cases outcome : expand sender inherited (Text.trim text) with
    | ok result =>
      obtain ⟨spec, spelled, room, -, -⟩ := expand_eq_ok_iff.1 outcome
      exact .inl ⟨_, _, .fan word spelled room⟩
    | error e => exact .inr ⟨_, word, by rw [outcome, noting]⟩

theorem Adds.accepts (h : Adds sender inherited text group next) :
    Accepts sender.origin inherited text := by
  cases h with
  | placeholder word => exact .inl word
  | fan other spelled room =>
    have checks := expand_checks sender inherited (Text.trim text)
    exact .inr (checks.ok _ (expand_eq_ok_iff.2 ⟨_, spelled, room, rfl, rfl⟩))

/-- A rejected text is noted, and the kind of its error is that of the first violated rule. -/
theorem Rejects.report (h : Rejects sender inherited text e) :
    e.context.get? "spec" = some (Text.trim text) ∧
      ∃ q, FirstFailing Requirement.holds (rules sender.origin inherited (Text.trim text)) q ∧
        e.kind? = some q.kind := by
  have checks : Checks (noting "spec" (Text.trim text) (expand sender inherited (Text.trim text)))
      (rules sender.origin inherited (Text.trim text)) := (expand_checks _ _ _).noting
  refine ⟨?_, checks.error e h.fails⟩
  have fails := h.fails
  cases outcome : expand sender inherited (Text.trim text) with
  | ok _ => simp [outcome, noting] at fails
  | error reason =>
    rw [outcome, noting] at fails
    obtain rfl := Except.error.inj fails
    exact Table.get?_insert _ _ _

theorem Rejects.not_accepts (h : Rejects sender inherited text e) :
    ¬ Accepts sender.origin inherited text := by
  rintro (word | fine)
  · exact h.other word
  · obtain ⟨-, q, first, -⟩ := h.report
    exact first.bad (fine q first.mem)

theorem Adds.buildFrom_cons (h : Adds sender inherited text group next) (texts : List String) :
    buildFrom sender inherited (text :: texts) =
      (do return group ++ (← buildFrom sender next texts)) := by
  cases h with
  | placeholder word => rw [buildFrom, if_pos word]; rfl
  | fan other spelled room =>
    have expanded := expand_eq_ok_iff.2 ⟨_, spelled, room, rfl, rfl⟩
    rw [buildFrom, if_neg other, expanded, noting]
    rfl

theorem Rejects.buildFrom_cons (h : Rejects sender inherited text e) (texts : List String) :
    buildFrom sender inherited (text :: texts) = .error e := by
  rw [buildFrom, if_neg h.other, h.fails]
  rfl

/-- What comes after accepted texts only sees what they leave. -/
theorem Builds.buildFrom_append (h : Builds sender inherited texts groups left)
    (after : List String) : buildFrom sender inherited (texts ++ after) =
      (do return groups.flatten ++ (← buildFrom sender left after)) := by
  induction h with
  | nil => simp
  | cons adds _ ih =>
    rw [List.cons_append, adds.buildFrom_cons, ih]
    simp

theorem buildFrom_eq_ok_iff : buildFrom sender inherited texts = .ok fields ↔
    ∃ groups left, Builds sender inherited texts groups left ∧ fields = groups.flatten := by
  constructor
  · intro h
    induction texts generalizing inherited fields with
    | nil => exact ⟨[], inherited, .nil, (Except.ok.inj h).symm⟩
    | cons text texts ih =>
      rcases adds_or_rejects sender inherited text with ⟨group, next, adds⟩ | ⟨e, rejects⟩
      · rw [adds.buildFrom_cons] at h
        obtain ⟨later, built, h⟩ := bind_eq_ok.1 h
        obtain ⟨groups, left, builds, rfl⟩ := ih built
        exact ⟨group :: groups, left, .cons adds builds, (pure_eq_ok.1 h).symm⟩
      · rw [rejects.buildFrom_cons] at h
        cases h
  · rintro ⟨groups, left, builds, rfl⟩
    have appended := builds.buildFrom_append []
    rw [List.append_nil] at appended
    simpa [buildFrom] using appended

theorem buildFrom_eq_error_iff : buildFrom sender inherited texts = .error e ↔
    ∃ before text after groups left, texts = before ++ text :: after ∧
      Builds sender inherited before groups left ∧ Rejects sender left text e := by
  constructor
  · intro h
    induction texts generalizing inherited with
    | nil => cases h
    | cons text texts ih =>
      rcases adds_or_rejects sender inherited text with ⟨group, next, adds⟩ | ⟨e', rejects⟩
      · rw [adds.buildFrom_cons] at h
        rcases bind_eq_error.1 h with h | ⟨_, -, h⟩
        · obtain ⟨before, rejected, after, groups, left, rfl, builds, rejects⟩ := ih h
          exact ⟨text :: before, rejected, after, group :: groups, left, rfl, .cons adds builds,
            rejects⟩
        · cases h
      · rw [rejects.buildFrom_cons] at h
        obtain rfl := Except.error.inj h
        exact ⟨[], text, texts, [], inherited, rfl, .nil, rejects⟩
  · rintro ⟨before, text, after, groups, left, rfl, builds, rejects⟩
    rw [builds.buildFrom_append, rejects.buildFrom_cons]
    rfl

end

/-- **The builder accepts the grammar.** A list of texts is accepted exactly when each of them is in
the grammar, given what the accepted ones before it leave. Otherwise the first that is not is
reported: with its own error, its trimmed text, and the kind of the first rule that it violates. -/
theorem build_accepts_grammar (sender : Sender) (texts : List String) :
    ((∃ fields, build sender texts = .ok fields) ↔
      ∀ before text after groups left, texts = before ++ text :: after →
        Builds sender {} before groups left → Accepts sender.origin left text) ∧
    ∀ e, build sender texts = .error e →
      ∃ before text after groups left, texts = before ++ text :: after ∧
        Builds sender {} before groups left ∧ Text.trim text ≠ defaultWord ∧
        buildFrom sender left [text] = .error e ∧
        e.context.get? "spec" = some (Text.trim text) ∧
        ∃ q, FirstFailing Requirement.holds (rules sender.origin left (Text.trim text)) q ∧
          e.kind? = some q.kind := by
  constructor
  · constructor
    · rintro ⟨fields, built⟩ before text after groups left rfl builds
      rcases adds_or_rejects sender left text with ⟨_, _, adds⟩ | ⟨e, rejects⟩
      · exact adds.accepts
      · have fails : build sender (before ++ text :: after) = .error e :=
          buildFrom_eq_error_iff.2 ⟨before, text, after, groups, left, rfl, builds, rejects⟩
        exact absurd (built.symm.trans fails) nofun
    · intro accepts
      cases outcome : build sender texts with
      | ok fields => exact ⟨fields, rfl⟩
      | error e =>
        obtain ⟨before, text, after, groups, left, rfl, builds, rejects⟩ :=
          buildFrom_eq_error_iff.1 outcome
        exact absurd (accepts before text after groups left rfl builds) rejects.not_accepts
  · intro e fails
    obtain ⟨before, text, after, groups, left, rfl, builds, rejects⟩ :=
      buildFrom_eq_error_iff.1 fails
    obtain ⟨noted, reported⟩ := rejects.report
    exact ⟨before, text, after, groups, left, rfl, builds, rejects.other,
      rejects.buildFrom_cons [], noted, reported⟩

/-- An inherited weight that is in the range of weights, without room for one above it. -/
def crowdedTexts : List String :=
  ["heat;5;t;OCN;;CF&2;9223372036854775804", "default", " salt;6;T;OCN;; ; "]

theorem build_accepts_grammar_crowded :
    ∃ e, build { origin := .atmosphere } crowdedTexts = .error e ∧ e.kind? = some .wrongFormat ∧
      ∃ before text after groups left, crowdedTexts = before ++ text :: after ∧
        Builds { origin := .atmosphere } {} before groups left ∧
        e.context.get? "spec" = some (Text.trim text) ∧
        ∃ q, FirstFailing Requirement.holds (rules .atmosphere left (Text.trim text)) q ∧
          e.kind? = some q.kind := by
  have overflows : ∃ e, build { origin := .atmosphere } crowdedTexts = .error e ∧
      e.kind? = some .wrongFormat := ⟨_, rfl, rfl⟩
  obtain ⟨e, fails, kind⟩ := overflows
  obtain ⟨before, text, after, groups, left, parts, builds, -, -, noted, reported⟩ :=
    (build_accepts_grammar { origin := .atmosphere } crowdedTexts).2 e fails
  exact ⟨e, fails, kind, before, text, after, groups, left, parts, builds, noted, reported⟩

end Spec

end Coupling

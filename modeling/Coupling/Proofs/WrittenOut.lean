import Coupling.Proofs.Concatenation
import Coupling.Proofs.Words
import Mathlib.Data.List.GetD

/-!
# Records written back as specifications

The fields that texts declare can be declared once more, one by one:

* `Field.specification`: a record in the grammar, with every field of it filled in that the record
  has, and the word for the defaults in place of a placeholder;
* `Spec.IsPiece`: what can stand between two semicolons without being changed or cut there. So the
  pieces of joined texts are these texts (`Spec.pieces_intercalate`);
* `Spec.Declarable`: what the grammar makes sure of in a record. Such a record is added by its own
  specification, whatever that inherits (`Declarable.adds`), and all records that are built are of
  this kind (`Builds.declarable`), also those with a mapping from an earlier text;
* `Spec.build_specifications`: so building and writing back is the identity on what was built.
-/

namespace Coupling

namespace Text

section
variable {sep : Char} {s t : List Char} {parts : List (List Char)}

theorem Trimmed.strip_eq (h : Trimmed s) : strip isBlank s = s := by
  have front {s : List Char} (first : ∀ c ∈ s.head?, isBlank c = false) :
      s.dropWhile isBlank = s := by
    cases s with
    | nil => rfl
    | cons c s => rw [List.dropWhile_cons_of_neg (by simp [first c rfl])]
  have back : s.reverse.dropWhile isBlank = s.reverse :=
    front (by rw [List.head?_reverse]; exact h.last)
  rw [strip, front h.first, back, List.reverse_reverse]

theorem Trimmed.trim_eq {text : String} (h : Trimmed text.toList) : trim text = text := by
  rw [trim, h.strip_eq, String.ofList_toList]

theorem trimmed_of_blankless (h : ∀ c ∈ s, isBlank c = false) : Trimmed s :=
  ⟨fun c first => h c (List.mem_of_head? first), fun c last => h c (List.mem_of_getLast? last)⟩

theorem Trimmed.append_sep (h : Trimmed s) (h' : Trimmed t) (solid : isBlank sep = false) :
    Trimmed (s ++ sep :: t) := by
  constructor
  · intro c first
    cases s with
    | nil =>
      obtain rfl := Option.some.inj first
      exact solid
    | cons d s => exact h.first c first
  · intro c last
    rw [List.getLast?_append_of_ne_nil _ (List.cons_ne_nil _ _)] at last
    cases t with
    | nil =>
      obtain rfl := Option.some.inj last
      exact solid
    | cons d t =>
      rw [List.getLast?_cons_cons] at last
      exact h'.last c last

theorem trimmed_intercalate (solid : isBlank sep = false) (each : ∀ part ∈ parts, Trimmed part) :
    Trimmed ([sep].intercalate parts) := by
  induction parts with
  | nil => exact trimmed_of_blankless (by simp)
  | cons part parts ih =>
    obtain ⟨first, others⟩ := List.forall_mem_cons.1 each
    cases parts with
    | nil => rwa [List.intercalate_singleton]
    | cons next parts =>
      rw [List.intercalate_cons_cons, List.append_assoc, List.singleton_append]
      exact first.append_sep (ih others) solid

/-- What was joined by a character that its parts lack is separated there again. -/
theorem split_intercalate (filled : parts ≠ []) (each : ∀ part ∈ parts, sep ∉ part) :
    split sep ([sep].intercalate parts) = parts := by
  induction parts with
  | nil => exact absurd rfl filled
  | cons part parts ih =>
    obtain ⟨first, others⟩ := List.forall_mem_cons.1 each
    cases parts with
    | nil => rw [List.intercalate_singleton, split_of_not_mem first]
    | cons next parts =>
      rw [List.intercalate_cons_cons, List.append_assoc, List.singleton_append,
        split_append _ first, ih (List.cons_ne_nil _ _) others]

theorem not_mem_of_mem_splitFrom {piece part : List Char} (h : part ∈ splitFrom sep piece s)
    (fresh : sep ∉ piece) : sep ∉ part := by
  induction s generalizing piece with
  | nil =>
    obtain rfl := List.mem_singleton.1 h
    rwa [List.mem_reverse]
  | cons c s ih =>
    rw [splitFrom] at h
    split at h
    · rcases List.mem_cons.1 h with rfl | h
      · rwa [List.mem_reverse]
      · exact ih h List.not_mem_nil
    · next different =>
      exact ih h (List.not_mem_cons_of_ne_of_not_mem (Ne.symm different) fresh)

theorem not_mem_of_mem_split {part : List Char} (h : part ∈ split sep s) : sep ∉ part :=
  not_mem_of_mem_splitFrom h List.not_mem_nil

theorem mem_of_mem_strip {outer : Char → Bool} {c : Char} (h : c ∈ strip outer s) : c ∈ s :=
  (isInfix_strip outer s).subset h

theorem bounds_of_isLower {c : Char} (h : c.isLower = true) : 97 ≤ c.toNat ∧ c.toNat ≤ 122 := by
  have bounds : (decide (c.val ≥ 'a'.val) && decide (c.val ≤ 'z'.val)) = true := h
  simpa [UInt32.le_iff_toNat_le] using bounds

theorem toLower_of_isLower {c : Char} (h : c.isLower = true) : c.toLower = c := by
  obtain ⟨low, -⟩ := bounds_of_isLower h
  unfold Char.toLower
  rw [dif_neg]
  rintro ⟨-, upper⟩
  have upper : c.toNat ≤ 90 := upper
  omega

/-- Neither a blank nor a semicolon is in the text. -/
def Solid (s : List Char) : Prop := ∀ c ∈ s, isBlank c = false ∧ c ≠ ';'

-- As for plain texts, the characters of the text are looked at, not all there are.
instance : DecidablePred Solid := fun s =>
  List.decidableBAll (fun c => isBlank c = false ∧ c ≠ ';') s

theorem Solid.append (h : Solid s) (h' : Solid t) : Solid (s ++ t) :=
  List.forall_mem_append.2 ⟨h, h'⟩

theorem Solid.ofList (h : Solid s) : Solid (String.ofList s).toList := by
  rwa [String.toList_ofList]

theorem solid_of_isLower {c : Char} (h : c.isLower = true) : Solid [c] := by
  refine List.forall_mem_singleton.2 ?_
  obtain ⟨low, high⟩ := bounds_of_isLower h
  refine ⟨isBlank_of_graphic (by omega) (by omega), ?_⟩
  rintro rfl
  exact absurd low (by decide)

theorem solid_decimal (n : Nat) : Solid (decimal n) := by
  intro c member
  have digit := isDigit_of_mem_decimal member
  refine ⟨isBlank_of_isDigit digit, ?_⟩
  rintro rfl
  exact absurd digit (by decide)

theorem solid_signed (n : Int) : Solid (signed n) := by
  cases n with
  | ofNat n => exact solid_decimal n
  | negSucc n => exact Solid.append (by decide : Solid ['-']) (solid_decimal (n + 1))

end

theorem numeral_decimal (n : Nat) : Numeral (decimal n) n :=
  digits?_eq_some_iff.1 (digits_decimal n)

theorem spellsUInt32_decimal (n : UInt32) : SpellsUInt32 (String.ofList (decimal n.toNat)) n := by
  rw [SpellsUInt32, String.toList_ofList]
  exact .bare (numeral_decimal n.toNat)

theorem SpellsUInt32.ne_empty {raw : String} {n : UInt32} (h : SpellsUInt32 raw n) : raw ≠ "" := by
  rintro rfl
  cases h with
  | bare number => exact number.filled rfl

theorem SpellsInt64.ne_empty {raw : String} {n : Int64} (h : SpellsInt64 raw n) : raw ≠ "" := by
  intro blank
  rw [SpellsInt64, blank] at h
  generalize n.toInt = n at h
  cases h with
  | bare number => exact number.filled rfl

theorem spellsInt64_signed (n : Int64) : SpellsInt64 (String.ofList (signed n.toInt)) n := by
  rw [SpellsInt64, String.toList_ofList]
  cases n.toInt with
  | ofNat n => exact .bare (numeral_decimal n)
  | negSucc n => exact .minus (numeral_decimal (n + 1))

end Text

/-! ## Writing a record -/

/-- The token of a mapping, and behind an ampersand the order if there is one. -/
def MappingChoice.text (choice : MappingChoice) : String :=
  match choice.order with
  | none => choice.mapping.token
  | some order => choice.mapping.token ++ "&" ++ String.ofList (Text.decimal order.toNat)

/-- The inherited mapping is one that can be written out. -/
def Inherited.CanBeWritten (inherited : Inherited) : Prop :=
  ∀ choice, inherited.mapping = some choice → Spec.SpellsMapping choice.text choice

/-- A number in decimal, and nothing where it is not set. -/
def Text.ofUInt32? : Option UInt32 → String
  | none => ""
  | some n => String.ofList (decimal n.toNat)

namespace Field

/-- The fields of a specification that says all that the record says. -/
def entries (f : Field) : List String :=
  [f.name, String.ofList (Text.signed f.number.toInt), String.singleton f.grid, f.dest.tag,
    Text.ofUInt32? f.levels, (MappingChoice.mk f.mapping f.order).text,
    String.ofList (Text.signed f.weight.toInt), Text.ofUInt32? f.period]

/-- A specification of its own for the record, with its destination alone. -/
def alone (f : Field) : Spec where
  name := f.name
  number := f.number
  grid := f.grid
  dests := [f.dest]
  levels := f.levels
  mapping := ⟨f.mapping, f.order⟩
  weight := f.weight
  period := f.period

/-- The record in the grammar of specifications. -/
def specification (f : Field) : String :=
  if f = .placeholder then defaultWord else ";".intercalate f.entries

end Field

/-! ## Pieces and what they spell -/

namespace Spec

/-- A text that can stand between two semicolons and is read there as it stands. -/
structure IsPiece (raw : String) : Prop where
  trimmed : Text.Trimmed raw.toList
  single : ';' ∉ raw.toList

theorem isPiece_of_mem_pieces {text raw : String} (h : raw ∈ pieces text) : IsPiece raw := by
  refine ⟨trimmed_of_mem_pieces h, ?_⟩
  obtain ⟨part, listed, rfl⟩ := List.mem_map.1 h
  rw [String.toList_ofList]
  exact fun member => Text.not_mem_of_mem_split listed (Text.mem_of_mem_strip member)

theorem isPiece_of_solid {raw : String} (h : Text.Solid raw.toList) : IsPiece raw :=
  ⟨Text.trimmed_of_blankless fun c member => (h c member).1, fun member => (h _ member).2 rfl⟩

theorem isPiece_signed (n : Int) : IsPiece (String.ofList (Text.signed n)) :=
  isPiece_of_solid (Text.solid_signed n).ofList

theorem isPiece_ofUInt32? (n : Option UInt32) : IsPiece (Text.ofUInt32? n) := by
  cases n with
  | none => exact isPiece_of_solid nofun
  | some n => exact isPiece_of_solid (Text.solid_decimal n.toNat).ofList

theorem splitAt_intercalate {parts : List String} (filled : parts ≠ [])
    (each : ∀ part ∈ parts, IsPiece part) :
    Text.splitAt ';' (";".intercalate parts) = parts := by
  have apart : Text.split ';' (";".intercalate parts).toList = parts.map String.toList := by
    rw [String.toList_intercalate]
    refine Text.split_intercalate (by simpa using filled) fun part member => ?_
    obtain ⟨raw, listed, rfl⟩ := List.mem_map.1 member
    exact (each raw listed).single
  rw [Text.splitAt, apart, List.map_map]
  exact List.map_id'' (fun _ => String.ofList_toList) parts

theorem pieces_eq_map_trim (text : String) :
    pieces text = (Text.splitAt ';' text).map Text.trim := by
  rw [pieces, Text.splitAt, List.map_map]
  refine List.map_congr_left fun raw _ => ?_
  rw [Function.comp_apply, Text.trim, String.toList_ofList]

theorem pieces_intercalate {parts : List String} (filled : parts ≠ [])
    (each : ∀ part ∈ parts, IsPiece part) : pieces (";".intercalate parts) = parts := by
  rw [pieces_eq_map_trim, splitAt_intercalate filled each]
  refine (List.map_congr_left fun raw listed => ?_).trans (List.map_id parts)
  rw [(each raw listed).trimmed.trim_eq, id]

theorem trim_intercalate {parts : List String} (each : ∀ part ∈ parts, IsPiece part) :
    Text.trim (";".intercalate parts) = ";".intercalate parts := by
  refine Text.Trimmed.trim_eq ?_
  rw [String.toList_intercalate]
  refine Text.trimmed_intercalate (by decide) fun part member => ?_
  obtain ⟨raw, listed, rfl⟩ := List.mem_map.1 member
  exact (each raw listed).trimmed

theorem chosen_of_written {α : Type} {left : Option α} {spells : String → α → Prop} {raw : String}
    {a : α} (written : raw ≠ "") (h : spells raw a) : Chosen left spells raw a := by
  rwa [Chosen, if_neg written]

theorem optional_ofUInt32? {spells : String → UInt32 → Prop} {value : Option UInt32}
    (h : ∀ n, value = some n → spells (String.ofList (Text.decimal n.toNat)) n) :
    Optional spells (Text.ofUInt32? value) value := by
  cases value with
  | none => rw [Text.ofUInt32?, Optional, if_pos rfl]
  | some n =>
    rw [Text.ofUInt32?, Optional, if_neg (Text.spellsUInt32_decimal n).ne_empty]
    exact ⟨n, rfl, h n rfl⟩

theorem spellsGrid_singleton {grid : Char} (h : grid.isLower = true) :
    SpellsGrid (String.singleton grid) grid := by
  refine ⟨grid, String.toList_singleton grid, ?_, Text.toLower_of_isLower h⟩
  have either : grid.isAlpha = (grid.isUpper || grid.isLower) := rfl
  rw [either, h, Bool.or_true]

/-! ## What the grammar makes sure of -/

/-- A record that some specification of the sender declares. -/
structure Declarable (sender : Sender) (f : Field) : Prop where
  name : IsPiece f.name
  filled : f.name ≠ ""
  grid : f.grid.isLower = true
  known : f.dest ≠ .unresolved
  other : f.dest ≠ sender.origin
  levels : f.levels ≠ some 0
  mapping : SpellsMapping (MappingChoice.mk f.mapping f.order).text ⟨f.mapping, f.order⟩
  room : f.HasRoom
  origin : f.origin = sender.origin
  hybrid : f.hybrid = sender.hybrid
  selector : f.selector = sender.selector
  soil : f.soil = none

theorem SpellsMapping.ne_empty {raw : String} {choice : MappingChoice}
    (h : SpellsMapping raw choice) : raw ≠ "" := by
  rintro rfl
  cases h with
  | @plain mapping token => cases mapping <;> exact absurd token (by decide)
  | ordered parts => exact absurd parts (by simp)

theorem spellsMapping_text {raw : String} {choice : MappingChoice}
    (h : SpellsMapping raw choice) : SpellsMapping choice.text choice := by
  cases h with
  | plain token => exact .plain rfl
  | @ordered before after mapping order parts token number =>
    have shown : (MappingChoice.mk mapping (some order)).text.toList =
        mapping.token.toList ++ '&' :: Text.decimal order.toNat := by
      simp [MappingChoice.text]
    refine .ordered shown ?_ ?_
    · cases mapping <;> decide
    · cases number with
      | first => exact .first (by decide)
      | second => exact .second (by decide)

theorem isPiece_text (choice : MappingChoice) : IsPiece choice.text := by
  obtain ⟨mapping, order⟩ := choice
  refine isPiece_of_solid ?_
  have token : Text.Solid mapping.token.toList := by cases mapping <;> decide
  cases order with
  | none => exact token
  | some order =>
    rw [MappingChoice.text, String.toList_append, String.toList_append]
    exact (token.append (by decide)).append (Text.solid_decimal order.toNat).ofList

theorem isPiece_tag (c : Component) : IsPiece c.tag :=
  isPiece_of_solid (by cases c <;> decide)

theorem isPiece_singleton {grid : Char} (h : grid.isLower = true) :
    IsPiece (String.singleton grid) :=
  isPiece_of_solid (by rw [String.toList_singleton]; exact Text.solid_of_isLower h)

/-- All eight fields are there, without blanks around them. The mapping and the weight are written,
and there is one destination. -/
structure WrittenOut (text : String) : Prop where
  bare : Text.splitAt ';' text = pieces text
  complete : (pieces text).length = 8
  restarts : Restarts text
  single : (Text.splitAt '&' (piece text 3)).length = 1

theorem piece_mem_pieces {text : String} {i : Nat} (h : i < (pieces text).length) :
    piece text i ∈ pieces text := by
  rw [piece, List.getD_eq_getElem _ _ h]
  exact List.getElem_mem h

section
variable {sender : Sender} {inherited next left : Inherited} {text : String}
  {texts : List String} {f : Field} {fields group : List Field} {groups : List (List Field)}

theorem Declarable.isPiece (h : Declarable sender f) : ∀ part ∈ f.entries, IsPiece part := by
  simp only [Field.entries, List.forall_mem_cons]
  exact ⟨h.name, isPiece_signed _, isPiece_singleton h.grid, isPiece_tag _, isPiece_ofUInt32? _,
    isPiece_text _, isPiece_signed _, isPiece_ofUInt32? _, nofun⟩

theorem Declarable.specification_eq (h : Declarable sender f) :
    f.specification = ";".intercalate f.entries := by
  rw [Field.specification, if_neg]
  rintro rfl
  exact h.known rfl

theorem Declarable.pieces_eq (h : Declarable sender f) : pieces f.specification = f.entries := by
  have filled : f.entries ≠ [] := List.cons_ne_nil _ _
  rw [h.specification_eq, pieces_intercalate filled h.isPiece]

theorem Declarable.fan_alone (h : Declarable sender f) : f.alone.fan sender = [f] := by
  have same : f.alone.field sender f.dest f.weight = f := by
    rw [field, ← h.origin, ← h.hybrid, ← h.selector, ← h.soil]
    rfl
  rw [fan, Field.alone, List.mapIdx_singleton, raised_zero]
  exact congrArg List.singleton same

theorem Declarable.piece_eq (h : Declarable sender f) (i : Nat) :
    piece f.specification i = f.entries.getD i "" := by
  rw [piece, h.pieces_eq]

/-- Nothing is left open in the text, so what is inherited does not matter. -/
theorem Declarable.spells (h : Declarable sender f) (inherited : Inherited) :
    Spells sender.origin inherited f.specification f.alone := by
  have count : f.entries.length = 8 := rfl
  have tag : Text.splitAt '&' f.dest.tag = [f.dest.tag] := by cases f.dest <;> rfl
  have normalised : Component.normalised f.dest.tag = f.dest.tag := by cases f.dest <;> rfl
  exact {
    enough := by rw [h.pieces_eq, count]; decide
    few := by rw [h.pieces_eq, count]
    name := h.piece_eq 0
    filled := by rw [h.piece_eq]; exact h.filled
    number := by rw [h.piece_eq]; exact Text.spellsInt64_signed f.number
    grid := by rw [h.piece_eq]; exact spellsGrid_singleton h.grid
    dests := by
      rw [h.piece_eq]
      show List.Forall₂ _ (Text.splitAt '&' f.dest.tag) _
      rw [tag]
      exact .cons ⟨normalised, h.known, h.other⟩ .nil
    levels := by
      rw [h.piece_eq]
      refine optional_ofUInt32? fun n found => ⟨Text.spellsUInt32_decimal n, ?_⟩
      rintro rfl
      exact h.levels found
    mapping := by rw [h.piece_eq]; exact chosen_of_written h.mapping.ne_empty h.mapping
    weight := by
      rw [h.piece_eq]
      have weight := Text.spellsInt64_signed f.weight
      exact chosen_of_written weight.ne_empty weight
    period := by rw [h.piece_eq]; exact optional_ofUInt32? fun n _ => Text.spellsUInt32_decimal n }

theorem Declarable.adds (h : Declarable sender f) (inherited : Inherited) :
    Adds sender inherited f.specification [f] f.alone.leaves := by
  have trimmed : Text.trim f.specification = f.specification := by
    rw [h.specification_eq, trim_intercalate h.isPiece]
  have other : f.specification ≠ defaultWord := by
    intro word
    have count : (pieces defaultWord).length = 8 := by rw [← word, h.pieces_eq]; rfl
    exact absurd count (by decide)
  have room : f.alone.HasRoom := h.room
  rw [← h.fan_alone]
  exact .fan (by rwa [trimmed]) (by rw [trimmed]; exact h.spells inherited) room

/-- The mapping of a specification can be written out, be it written or inherited there. -/
theorem Spells.spellsMapping {spec : Spec} (h : Spells sender.origin inherited text spec)
    (carried : inherited.CanBeWritten) : SpellsMapping spec.mapping.text spec.mapping := by
  have chosen := h.mapping
  unfold Chosen at chosen
  split at chosen
  · exact carried _ chosen
  · exact spellsMapping_text chosen

theorem Spells.declarable {spec : Spec} (h : Spells sender.origin inherited text spec)
    (room : spec.HasRoom) (carried : inherited.CanBeWritten) :
    ∀ f ∈ spec.fan sender, Declarable sender f := by
  intro f member
  obtain ⟨j, found⟩ := List.mem_iff_getElem?.1 member
  obtain ⟨bound, dest, listed, rfl⟩ := getElem?_fan found
  obtain ⟨_, spelled⟩ := h.spellsDest dest listed
  unfold HasRoom at room
  have weight : (raised spec.weight j).toInt = spec.weight.toInt + 2 * j :=
    toInt_raised (by omega)
  exact {
    name := by
      have first := isPiece_of_mem_pieces (piece_mem_pieces (Nat.zero_lt_of_lt h.enough))
      rwa [h.name] at first
    filled := fun blank => h.filled (h.name.trans blank)
    grid := isLower_of_readGrid (((readGrid_finds _).ok_iff _).2 h.grid)
    known := spelled.known
    other := spelled.other
    levels := readLevels_ne_zero (((readLevels_finds _).ok_iff _).2 h.levels)
    mapping := h.spellsMapping carried
    room := by
      show (raised spec.weight j).toInt + 2 ≤ Int64.maxValue.toInt
      omega
    origin := rfl
    hybrid := rfl
    selector := rfl
    soil := rfl }

theorem Adds.canBeWritten (h : Adds sender inherited text group next)
    (carried : inherited.CanBeWritten) : next.CanBeWritten := by
  cases h with
  | placeholder word => exact carried
  | fan other spelled room =>
    rintro _ ⟨⟩
    exact spelled.spellsMapping carried

theorem Adds.declarable (h : Adds sender inherited text group next)
    (carried : inherited.CanBeWritten) : ∀ f ∈ group, f = .placeholder ∨ Declarable sender f := by
  intro f member
  cases h with
  | placeholder word => exact .inl (List.mem_singleton.1 member)
  | fan other spelled room => exact .inr (spelled.declarable room carried f member)

theorem Builds.declarable (h : Builds sender inherited texts groups left)
    (carried : inherited.CanBeWritten) :
    ∀ f ∈ groups.flatten, f = .placeholder ∨ Declarable sender f := by
  -- a mapping may come from far in front, so each step hands on that it can be written
  induction h with
  | nil => simp
  | cons adds rest ih =>
    intro f member
    rw [List.flatten_cons] at member
    rcases List.mem_append.1 member with member | member
    · exact adds.declarable carried f member
    · exact ih (adds.canBeWritten carried) f member

theorem exists_adds_specification (h : f = .placeholder ∨ Declarable sender f)
    (inherited : Inherited) : ∃ next, Adds sender inherited f.specification [f] next := by
  rcases h with rfl | declarable
  · exact ⟨inherited, .placeholder (by decide)⟩
  · exact ⟨_, declarable.adds inherited⟩

/-- Each record is read back from its own specification, whatever stands before it. -/
theorem buildFrom_specifications (h : ∀ f ∈ fields, f = .placeholder ∨ Declarable sender f)
    (inherited : Inherited) :
    buildFrom sender inherited (fields.map Field.specification) = .ok fields := by
  induction fields generalizing inherited with
  | nil => rfl
  | cons f fields ih =>
    obtain ⟨first, others⟩ := List.forall_mem_cons.1 h
    obtain ⟨next, adds⟩ := exists_adds_specification first inherited
    rw [List.map_cons, adds.buildFrom_cons, ih others]
    rfl

theorem Declarable.writtenOut (h : Declarable sender f) : WrittenOut f.specification where
  bare := by
    rw [h.pieces_eq, h.specification_eq]
    exact splitAt_intercalate (List.cons_ne_nil _ _) h.isPiece
  complete := by rw [h.pieces_eq]; rfl
  restarts := by
    constructor
    · rw [h.piece_eq]
      exact h.mapping.ne_empty
    · rw [h.piece_eq]
      exact (Text.spellsInt64_signed f.weight).ne_empty
  single := by
    rw [(h.spells {}).dests.length_eq]
    rfl

end

/-- **Records can be written back.** What a list of texts declares is declared again, record for
record, by the specifications of its fields. Apart from the placeholders, each of these is written
out: it needs nothing of the others, and fans out to nothing else. -/
theorem build_specifications {sender : Sender} {texts : List String} {fields : List Field}
    (h : build sender texts = .ok fields) :
    build sender (fields.map Field.specification) = .ok fields ∧
      ∀ f ∈ fields, f ≠ .placeholder → WrittenOut f.specification := by
  obtain ⟨groups, left, builds, rfl⟩ := buildFrom_eq_ok_iff.1 h
  have declarable := builds.declarable nofun
  refine ⟨buildFrom_specifications declarable {}, ?_⟩
  intro f member different
  exact (declarable f member |>.resolve_left different).writtenOut

/-- Blanks, two destinations, an inherited order, and a number and a weight below zero. -/
def looseTexts : List String :=
  ["  wind speed ; 5 ; T ; ocn & Riv ; 04 ; CF & 2 ; -3 ", " default ", "salt;-6;u;OCN;;;;+600"]

/-- The same fields, one in each text. -/
def explicitTexts : List String :=
  ["wind speed;5;t;OCN;4;CF&2;-3;", "wind speed;5;t;RIV;4;CF&2;-1;", "default",
   "salt;-6;u;OCN;;CF&2;1;600"]

theorem build_specifications_loose :
    ∃ fields, build { origin := .atmosphere } looseTexts = .ok fields ∧
      fields.map Field.specification = explicitTexts ∧
      build { origin := .atmosphere } explicitTexts = .ok fields := by
  obtain ⟨fields, built, shown⟩ : ∃ fields,
      build { origin := .atmosphere } looseTexts = .ok fields ∧
        fields.map Field.specification = explicitTexts := ⟨_, rfl, rfl⟩
  refine ⟨fields, built, shown, ?_⟩
  rw [← shown]
  exact (build_specifications built).1

end Spec

end Coupling

import Coupling.Proofs.Checking
import Coupling.Proofs.Declaration
import Mathlib.Data.List.TakeWhile

/-!
# How the fields of a specification are spelled

Which texts stand for which values, each said without the function that reads them:

* `Text.Unsigned` and `Text.Signed`: numerals with their signs, which `uint32?` and `int64?` read
  in the range of their type and nowhere else;
* `Optional` and `Chosen`: texts that may be left empty, and what stands for them then;
* `Spec.SpellsGrid`, `Spec.SpellsDest`, `Spec.SpellsLevels` and `Spec.SpellsMapping`: the other
  fields of a specification. Every reader finds what its field spells (`Spec.readDests_finds`,
  `Spec.chooseMapping_checks` and their like).
-/

namespace Coupling

namespace Text

/-- A run of ASCII digits, at least one, with the value it has in base ten. -/
structure Numeral (s : List Char) (n : Nat) : Prop where
  filled : s ≠ []
  digits : ∀ c ∈ s, c.isDigit = true
  value : Nat.ofDigitChars 10 s 0 = n

/-- A numeral, with or without a plus in front. -/
inductive Unsigned : List Char → Nat → Prop
  | bare {s : List Char} {n : Nat} (number : Numeral s n) : Unsigned s n
  | plus {s : List Char} {n : Nat} (number : Numeral s n) : Unsigned ('+' :: s) n

/-- A numeral, with or without a sign in front. -/
inductive Signed : List Char → Int → Prop
  | bare {s : List Char} {n : Nat} (number : Numeral s n) : Signed s n
  | plus {s : List Char} {n : Nat} (number : Numeral s n) : Signed ('+' :: s) n
  | minus {s : List Char} {n : Nat} (number : Numeral s n) : Signed ('-' :: s) (-n)

theorem digits?_eq_some_iff {s : List Char} {n : Nat} : digits? s = some n ↔ Numeral s n := by
  have value : s.foldl (fun n c => 10 * n + (c.toNat - '0'.toNat)) 0 = Nat.ofDigitChars 10 s 0 :=
    Nat.ofDigitChars_eq_foldl.symm
  unfold digits?
  split
  · next shape =>
    rw [Option.some.injEq, value]
    exact ⟨fun same => ⟨shape.1, List.all_eq_true.1 shape.2, same⟩, fun h => h.value⟩
  · next shape =>
    refine ⟨nofun, ?_⟩
    intro h
    exact absurd ⟨h.filled, List.all_eq_true.2 h.digits⟩ shape

/-- No numeral begins with a sign. -/
theorem Numeral.isDigit_head {c : Char} {s : List Char} {n : Nat} (h : Numeral (c :: s) n) :
    c.isDigit = true :=
  h.digits c List.mem_cons_self

theorem natural?_eq_some_iff {bound : Nat} {s : List Char} {n : Nat} :
    natural? bound s = some n ↔ n < bound ∧ Unsigned s n := by
  unfold natural?
  rw [Option.filter_eq_some_iff, decide_eq_true_eq, and_comm]
  refine and_congr_right fun _ => ?_
  split
  · next rest =>
    rw [digits?_eq_some_iff]
    constructor
    · exact .plus
    · intro h
      cases h with
      | bare number => exact absurd number.isDigit_head (by decide)
      | plus number => exact number
  · next noPlus =>
    rw [digits?_eq_some_iff]
    constructor
    · exact .bare
    · intro h
      cases h with
      | bare number => exact number
      | plus => exact absurd rfl (noPlus _)

theorem integer?_eq_some_iff {lo hi : Int} {s : List Char} {n : Int} :
    integer? lo hi s = some n ↔ (lo ≤ n ∧ n ≤ hi) ∧ Signed s n := by
  have value (digits : List Char) (f : Nat → Int) :
      (digits? digits).map f = some n ↔ ∃ m, Numeral digits m ∧ f m = n := by
    simp only [Option.map_eq_some_iff, digits?_eq_some_iff]
  unfold integer?
  rw [Option.filter_eq_some_iff, decide_eq_true_eq, and_comm]
  refine and_congr_right fun _ => ?_
  split
  · rw [value]
    constructor
    · rintro ⟨m, number, rfl⟩
      exact .plus number
    · intro h
      cases h with
      | bare number => exact absurd number.isDigit_head (by decide)
      | plus number => exact ⟨_, number, rfl⟩
  · next rest =>
    have negated : (do let m ← digits? rest; pure (m : Int)).map (fun n => -n) =
        (digits? rest).map fun m : Nat => -Int.ofNat m := by
      cases digits? rest <;> rfl
    rw [negated, value]
    constructor
    · rintro ⟨m, number, rfl⟩
      exact .minus number
    · intro h
      cases h with
      | bare number => exact absurd number.isDigit_head (by decide)
      | minus number => exact ⟨_, number, rfl⟩
  · next noPlus noMinus =>
    rw [value]
    constructor
    · rintro ⟨m, number, rfl⟩
      exact .bare number
    · intro h
      cases h with
      | bare number => exact ⟨_, number, rfl⟩
      | plus => exact absurd rfl (noPlus _)
      | minus => exact absurd rfl (noMinus _)

/-- A numeral in the range of 32 bits without a sign. -/
def SpellsUInt32 (text : String) (n : UInt32) : Prop := Unsigned text.toList n.toNat

/-- A numeral in the range of 64 bits with a sign. -/
def SpellsInt64 (text : String) (n : Int64) : Prop := Signed text.toList n.toInt

theorem uint32?_eq_some_iff {text : String} {n : UInt32} :
    uint32? text = some n ↔ SpellsUInt32 text n := by
  simp only [uint32?, Option.map_eq_some_iff, natural?_eq_some_iff]
  constructor
  · rintro ⟨m, ⟨small, number⟩, rfl⟩
    rwa [SpellsUInt32, UInt32.toNat_ofNat_of_lt' small]
  · intro number
    exact ⟨n.toNat, ⟨n.toNat_lt, number⟩, UInt32.ofNat_toNat⟩

theorem int64?_eq_some_iff {text : String} {n : Int64} :
    int64? text = some n ↔ SpellsInt64 text n := by
  simp only [int64?, Option.map_eq_some_iff, integer?_eq_some_iff]
  constructor
  · rintro ⟨m, ⟨⟨low, high⟩, number⟩, rfl⟩
    rwa [SpellsInt64, Int64.toInt_ofInt_of_le low (Int.lt_add_one_of_le high)]
  · intro number
    exact ⟨n.toInt, ⟨⟨n.minValue_le_toInt, n.toInt_le⟩, number⟩, n.ofInt_toInt⟩

section
variable {sep c : Char} {s before after : List Char}

theorem cut?_cons_self : cut? [sep] (sep :: s) = some ([], s) := by simp [cut?]

theorem cut?_cons_of_ne (different : c ≠ sep) : cut? [sep] (c :: s) =
    (cut? [sep] s).map fun (before, after) => (c :: before, after) := by
  simp [cut?, different.symm]

theorem cut?_eq_none_iff : cut? [sep] s = none ↔ sep ∉ s := by
  induction s with
  | nil => simp [cut?]
  | cons c s ih =>
    by_cases same : c = sep
    · simp [same, cut?_cons_self]
    · simp [cut?_cons_of_ne same, ih, Ne.symm same]

theorem cut?_eq_some_iff :
    cut? [sep] s = some (before, after) ↔ s = before ++ sep :: after ∧ sep ∉ before := by
  induction s generalizing before with
  | nil => simp [cut?]
  | cons c s ih =>
    by_cases same : c = sep
    · subst same
      cases before with
      | nil => simp [cut?_cons_self]
      | cons d before => simp +contextual [cut?_cons_self, eq_comm]
    · cases before with
      | nil => simp [cut?_cons_of_ne same, same]
      | cons d before =>
        rw [cut?_cons_of_ne same, Option.map_eq_some_iff]
        constructor
        · rintro ⟨⟨before', after'⟩, found, ⟨⟩⟩
          obtain ⟨rfl, fresh⟩ := ih.1 found
          exact ⟨rfl, List.not_mem_cons_of_ne_of_not_mem (Ne.symm same) fresh⟩
        · rintro ⟨⟨⟩, fresh⟩
          exact ⟨(before, after), ih.2 ⟨rfl, List.not_mem_of_not_mem_cons fresh⟩, rfl⟩

theorem splitFrom_ne_nil (piece : List Char) : splitFrom sep piece s ≠ [] := by
  induction s generalizing piece with
  | nil => exact List.cons_ne_nil _ _
  | cons c s ih =>
    rw [splitFrom]
    split
    · exact List.cons_ne_nil _ _
    · exact ih _

/-- There is always a piece, be it empty. -/
theorem splitAt_ne_nil (text : String) : splitAt sep text ≠ [] := by
  intro none_
  exact splitFrom_ne_nil [] (List.map_eq_nil_iff.1 none_)

/-- Stripping takes off nothing but what it is told to. -/
theorem mem_strip {outer : Char → Bool} (member : c ∈ s) (solid : outer c = false) :
    c ∈ strip outer s := by
  have kept {s : List Char} (member : c ∈ s) : c ∈ s.dropWhile outer := by
    rw [← List.takeWhile_append_dropWhile (p := outer) (l := s)] at member
    rcases List.mem_append.1 member with front | rest
    · exact absurd (List.mem_takeWhile_imp front) (by simp [solid])
    · exact rest
  rw [strip, List.mem_reverse]
  exact kept (List.mem_reverse.2 (kept member))

end

end Text

section
variable {α : Type}

/-- What a text that may be left empty stands for. -/
def Optional (spells : String → α → Prop) (raw : String) (value : Option α) : Prop :=
  if raw = "" then value = none else ∃ a, value = some a ∧ spells raw a

/-- What is written, or what is left over from before where nothing is written. -/
def Chosen (left : Option α) (spells : String → α → Prop) (raw : String) (a : α) : Prop :=
  if raw = "" then left = some a else spells raw a

variable {raw : String} {kind other : Kind} {spells : String → α → Prop}

theorem Finds.optional {x : Except Error (Option α)}
    (h : Finds x kind fun value => ∃ a, value = some a ∧ spells raw a) :
    Finds (if raw = "" then .ok none else x) kind (Optional spells raw) := by
  unfold Optional
  by_cases blank : raw = ""
  · simp only [if_pos blank]
    exact ⟨fun value => by rw [Except.ok.injEq, eq_comm], nofun⟩
  · simp only [if_neg blank]
    exact h

variable {left : Option α} {choose : String → Except Error α}

theorem chosen_eq_ok_iff (carried : Answers left kind (choose ""))
    (written : raw ≠ "" → Finds (choose raw) other (spells raw)) {a : α} :
    choose raw = .ok a ↔ Chosen left spells raw a := by
  unfold Chosen
  by_cases blank : raw = ""
  · subst blank
    rw [if_pos rfl, carried.eq_ok_iff]
  · rw [if_neg blank, (written blank).ok_iff]

theorem chosen_checks (carried : Answers left kind (choose ""))
    (written : raw ≠ "" → Finds (choose raw) other (spells raw)) : Checks (choose raw)
      [⟨kind, raw = "" → ∃ a, left = some a⟩, ⟨other, raw ≠ "" → ∃ a, spells raw a⟩] := by
  by_cases blank : raw = ""
  · subst blank
    have first : Checks (choose "") [⟨kind, "" = "" → ∃ a, left = some a⟩] :=
      carried.checks.congr (by simp)
    have second : ∀ q ∈ [Requirement.mk other ("" ≠ "" → ∃ a, spells "" a)], q.holds := by simp
    exact first.before second
  · have second : Checks (choose raw) [⟨other, raw ≠ "" → ∃ a, spells raw a⟩] :=
      (written blank).checks.congr (by simp [blank])
    exact second.cons fun unset => absurd unset blank

end

theorem Mapping.ofToken?_eq_some_iff {token : String} {mapping : Mapping} :
    ofToken? token = some mapping ↔ token = mapping.token := by
  constructor
  · intro found
    have same := List.find?_some found
    exact (of_decide_eq_true same).symm
  · rintro rfl
    cases mapping <;> rfl

theorem Component.ofTag?_eq_some_iff {tag : String} {c : Component} :
    ofTag? tag = some c ↔ tag = c.tag := by
  constructor
  · intro found
    have same := List.find?_some found
    exact (of_decide_eq_true same).symm
  · rintro rfl
    cases c <;> rfl

theorem Component.read_answers (raw : String) :
    Answers (ofTag? (normalised raw)) .wrongFormat (read raw) := by
  simp only [read]
  cases ofTag? (normalised raw) with
  | some c => rfl
  | none => exact ⟨_, rfl, by simp⟩

namespace Spec

/-- One ASCII letter, in lower case. -/
structure SpellsGrid (raw : String) (grid : Char) : Prop where
  letter : ∃ c : Char, raw.toList = [c] ∧ c.isAlpha = true ∧ c.toLower = grid

/-- The tag of a model other than the origin; case and outer blanks do not matter. -/
structure SpellsDest (origin : Component) (raw : String) (dest : Component) : Prop where
  tag : Component.normalised raw = dest.tag
  known : dest ≠ .unresolved
  other : dest ≠ origin

/-- A positive number of levels. -/
structure SpellsLevels (raw : String) (levels : UInt32) : Prop where
  number : Text.SpellsUInt32 raw levels
  positive : levels ≠ 0

inductive SpellsOrder (raw : String) : UInt8 → Prop
  | first (digit : raw = "1") : SpellsOrder raw 1
  | second (digit : raw = "2") : SpellsOrder raw 2

/-- The token of a mapping, which an ampersand and an order may follow. -/
inductive SpellsMapping (raw : String) : MappingChoice → Prop
  | plain {mapping : Mapping} (token : raw = mapping.token) : SpellsMapping raw ⟨mapping, none⟩
  | ordered {before after : List Char} {mapping : Mapping} {order : UInt8}
      (parts : raw.toList = before ++ '&' :: after)
      (token : Text.trim (String.ofList before) = mapping.token)
      (number : SpellsOrder (Text.trim (String.ofList after)) order) :
      SpellsMapping raw ⟨mapping, some order⟩

theorem readNumber_answers {α : Type} (number? : String → Option α) (what raw : String) :
    Answers (number? raw) .wrongFormat (readNumber number? what raw) := by
  unfold readNumber
  cases number? raw with
  | some n => rfl
  | none => exact ⟨_, rfl, by simp⟩

theorem readInt64_finds (what raw : String) :
    Finds (readNumber Text.int64? what raw) .wrongFormat (Text.SpellsInt64 raw) :=
  (readNumber_answers _ what raw).finds.congr fun _ => Text.int64?_eq_some_iff

theorem readUInt32_finds (what raw : String) :
    Finds (readNumber Text.uint32? what raw) .wrongFormat (Text.SpellsUInt32 raw) :=
  (readNumber_answers _ what raw).finds.congr fun _ => Text.uint32?_eq_some_iff

theorem readGrid_finds (raw : String) : Finds (readGrid raw) .wrongFormat (SpellsGrid raw) := by
  unfold readGrid
  split
  · next c only =>
    have same (d : Char) (only' : raw.toList = [d]) : c = d := by
      simpa using only.symm.trans only'
    split
    · next alpha =>
      refine (Finds.ok c.toLower).congr fun grid => ⟨?_, ?_⟩
      · rintro rfl
        exact ⟨c, only, alpha, rfl⟩
      · rintro ⟨d, only', -, rfl⟩
        rw [same d only']
    · next other =>
      refine .failed (by simp) ?_
      rintro grid ⟨d, only', alpha, -⟩
      exact other (same d only' ▸ alpha)
  · next several =>
    refine .failed (by simp) ?_
    rintro grid ⟨c, only, -⟩
    exact several c only

theorem readDest_finds (origin : Component) (raw : String) :
    Finds (readDest origin raw) .wrongFormat (SpellsDest origin raw) := by
  have tag := (Component.read_answers raw).finds
  refine (tag.bind fun dest => Finds.refusing dest (by simp)).congr fun dest => ?_
  simp only [Component.ofTag?_eq_some_iff, not_or]
  constructor
  · rintro ⟨_, tag, ⟨known, other⟩, rfl⟩
    exact ⟨tag, known, other⟩
  · intro spelled
    exact ⟨dest, spelled.tag, ⟨spelled.known, spelled.other⟩, rfl⟩

theorem readDests_finds (origin : Component) (raw : String) :
    Finds (readDests origin raw) .wrongFormat fun dests =>
      List.Forall₂ (SpellsDest origin) (Text.splitAt '&' raw) dests :=
  .mapM _ fun _ => readDest_finds origin _

theorem readLevels_finds (raw : String) :
    Finds (readLevels raw) .wrongFormat (Optional SpellsLevels raw) := by
  have number := readUInt32_finds "nlev" raw
  refine .optional ((number.bind fun n => Finds.refusing (some n) (by simp)).congr fun levels => ?_)
  constructor
  · rintro ⟨n, spelled, positive, rfl⟩
    exact ⟨n, rfl, spelled, positive⟩
  · rintro ⟨n, rfl, spelled, positive⟩
    exact ⟨n, spelled, positive, rfl⟩

theorem readPeriod_finds (raw : String) :
    Finds (readPeriod raw) .wrongFormat (Optional Text.SpellsUInt32 raw) := by
  have number := readUInt32_finds "freq" raw
  unfold readPeriod
  rw [map_eq_pure_bind]
  refine .optional ((number.bind fun n => Finds.ok (some n)).congr fun period => ?_)
  exact exists_congr fun n => by rw [and_comm, eq_comm]

theorem readToken_answers (raw : String) :
    Answers (Mapping.ofToken? raw) .unrecognisedMapping (readToken raw) := by
  unfold readToken
  cases Mapping.ofToken? raw with
  | some mapping => rfl
  | none => exact ⟨_, rfl, by simp⟩

theorem readOrder_finds (raw : String) :
    Finds (readOrder raw) .unrecognisedMapping (SpellsOrder raw) := by
  constructor
  · intro order
    constructor
    · intro h
      unfold readOrder at h
      split at h
      · cases h
        exact .first rfl
      · cases h
        exact .second rfl
      · cases h
    · intro spelled
      cases spelled with
      | first digit => rw [digit]; rfl
      | second digit => rw [digit]; rfl
  · intro e fails
    unfold readOrder at fails
    split at fails
    · cases fails
    · cases fails
    · cases fails
      simp

theorem ampersand_not_mem_token (mapping : Mapping) : '&' ∉ mapping.token.toList := by
  cases mapping <;> decide

theorem readToken_finds (raw : String) :
    Finds (readToken raw) .unrecognisedMapping fun mapping => raw = mapping.token :=
  (readToken_answers raw).finds.congr fun _ => Mapping.ofToken?_eq_some_iff

theorem readMapping_finds (raw : String) :
    Finds (readMapping raw) .unrecognisedMapping (SpellsMapping raw) := by
  unfold readMapping
  split
  · next single =>
    have token := readToken_finds raw
    have found := token.bind fun mapping => Finds.ok (MappingChoice.mk mapping none)
    refine found.congr fun choice => ⟨?_, ?_⟩
    · rintro ⟨mapping, token, rfl⟩
      exact .plain token
    · intro spelled
      cases spelled with
      | plain token => exact ⟨_, token, rfl⟩
      | ordered parts =>
        exact absurd (parts ▸ List.mem_append_right _ List.mem_cons_self)
          (Text.cut?_eq_none_iff.1 single)
  · next before after found =>
    obtain ⟨parts, -⟩ := Text.cut?_eq_some_iff.1 found
    have token := readToken_finds (Text.trim (String.ofList before))
    have number := readOrder_finds (Text.trim (String.ofList after))
    have both := token.bind fun mapping => number.bind fun order =>
      Finds.ok (MappingChoice.mk mapping (some order))
    refine both.congr fun choice => ⟨?_, ?_⟩
    · rintro ⟨mapping, token, order, number, rfl⟩
      exact .ordered parts token number
    · intro spelled
      cases spelled with
      | plain token =>
        rw [token] at parts
        exact absurd (parts ▸ List.mem_append_right _ List.mem_cons_self)
          (ampersand_not_mem_token _)
      | @ordered before' after' mapping order parts' token number =>
        have first : '&' ∉ before' := by
          intro member
          refine ampersand_not_mem_token mapping (token ▸ ?_)
          rw [Text.trim, String.toList_ofList, String.toList_ofList]
          exact Text.mem_strip member (by decide)
        have same := found.symm.trans (Text.cut?_eq_some_iff.2 ⟨parts', first⟩)
        obtain ⟨rfl, rfl⟩ := Prod.mk.inj (Option.some.inj same)
        exact ⟨mapping, token, order, number, rfl⟩

section
variable {inherited : Inherited} {raw : String}

theorem chooseMapping_blank :
    Answers inherited.mapping .missingMapping (chooseMapping inherited "") := by
  rw [chooseMapping, if_pos rfl]
  cases inherited.mapping with
  | some choice => rfl
  | none => exact ⟨_, rfl, by simp⟩

theorem chooseMapping_written (filled : raw ≠ "") :
    Finds (chooseMapping inherited raw) .unrecognisedMapping (SpellsMapping raw) := by
  rw [chooseMapping, if_neg filled]
  exact readMapping_finds raw

theorem chooseMapping_eq_ok_iff {choice : MappingChoice} :
    chooseMapping inherited raw = .ok choice ↔
      Chosen inherited.mapping SpellsMapping raw choice :=
  chosen_eq_ok_iff chooseMapping_blank chooseMapping_written

theorem chooseMapping_checks : Checks (chooseMapping inherited raw)
    [⟨.missingMapping, raw = "" → ∃ choice, inherited.mapping = some choice⟩,
     ⟨.unrecognisedMapping, raw ≠ "" → ∃ choice, SpellsMapping raw choice⟩] :=
  chosen_checks chooseMapping_blank chooseMapping_written

theorem chooseWeight_blank :
    Answers inherited.weight .missingWeight (chooseWeight inherited "") := by
  rw [chooseWeight, if_pos rfl]
  cases inherited.weight with
  | some weight => rfl
  | none => exact ⟨_, rfl, by simp⟩

theorem chooseWeight_written (filled : raw ≠ "") :
    Finds (chooseWeight inherited raw) .wrongFormat (Text.SpellsInt64 raw) := by
  rw [chooseWeight, if_neg filled]
  exact readInt64_finds "weight" raw

theorem chooseWeight_eq_ok_iff {weight : Int64} :
    chooseWeight inherited raw = .ok weight ↔
      Chosen inherited.weight Text.SpellsInt64 raw weight :=
  chosen_eq_ok_iff chooseWeight_blank chooseWeight_written

theorem chooseWeight_checks : Checks (chooseWeight inherited raw)
    [⟨.missingWeight, raw = "" → ∃ weight, inherited.weight = some weight⟩,
     ⟨.wrongFormat, raw ≠ "" → ∃ weight, Text.SpellsInt64 raw weight⟩] :=
  chosen_checks chooseWeight_blank chooseWeight_written

end

end Spec

end Coupling

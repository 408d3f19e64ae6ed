import Coupling.Json.Reader
import Coupling.Proofs.Header

/-!
# Reading back what is written

The reader of JSON undoes the writer, value by value, and takes any blanks between the parts:

* `string_escapes` and `textOf_units`: a quoted text is read back whatever characters it has;
* `number_signed`: an integer is read back where 64 bits hold it, `Json.Held` says that they hold
  every integer of a value;
* `Spells j s`: the characters `s` say `j` with some blanks between its parts. What is written
  spells the value with no blank (`spells_write`);
* `value_spells`: a value that is spelled is read back in front of whatever ends it, by induction on
  the value with one case for each way of spelling it. So a text that spells it is read as the value
  (`document_spells`).
-/

namespace Coupling.Json

/-! ## Texts -/

namespace Reader

theorem hexQuad?_control : ∀ n < 0x20,
    hexQuad? '0' '0' (n / 16).digitChar (n % 16).digitChar = some n := by
  decide

/-- The characters that are written as a backslash and a letter or mark. -/
def marked : List Char := ['"', '\\', '\x08', '\t', '\n', '\x0c', '\r']

theorem simpleEscape?_marked {c : Char} (special : c ∈ marked) :
    ∃ letter, escape c = ['\\', letter] ∧ letter ≠ 'u' ∧ simpleEscape? letter = some c := by
  simp only [marked, List.mem_cons, List.not_mem_nil, or_false] at special
  rcases special with rfl | rfl | rfl | rfl | rfl | rfl | rfl
  all_goals exact ⟨_, rfl, by decide, by decide⟩

theorem escape_plain {c : Char} (plain : c ∉ marked) :
    escape c = if c.toNat < 0x20 then
      ['\\', 'u', '0', '0', (c.toNat / 16).digitChar, (c.toNat % 16).digitChar] else [c] := by
  simp only [marked, List.mem_cons, List.not_mem_nil, or_false, not_or] at plain
  unfold escape
  split <;> simp_all

/-- A written character is read as one unit. -/
theorem string_escape (units : List Nat) (c : Char) (rest : List Char) :
    string units (escape c ++ rest) = string (c.toNat :: units) rest := by
  by_cases special : c ∈ marked
  · obtain ⟨letter, written, notUnit, read⟩ := simpleEscape?_marked special
    rw [written, List.cons_append, List.cons_append, List.nil_append, string]
    · rw [read]
    · simp [notUnit]
  · rw [escape_plain special]
    by_cases control : c.toNat < 0x20
    · rw [if_pos control]
      simp only [List.cons_append, List.nil_append, string]
      rw [hexQuad?_control c.toNat control]
    · rw [if_neg control]
      simp only [marked, List.mem_cons, List.not_mem_nil, or_false, not_or] at special
      simp [string, special, control]

theorem string_escapes (units : List Nat) (s rest : List Char) :
    string units (s.flatMap escape ++ '"' :: rest) =
      some (units.reverse ++ s.map Char.toNat, rest) := by
  induction s generalizing units with
  | nil => simp [string]
  | cons c s ih =>
    rw [List.flatMap_cons, List.append_assoc, string_escape, ih]
    simp

/-- No character is a surrogate. -/
theorem join_units (chars s : List Char) :
    join chars (s.map Char.toNat) = some (chars.reverse ++ s) := by
  induction s generalizing chars with
  | nil => simp [join]
  | cons c s ih =>
    have valid : c.toNat < 0xD800 ∨ 0xDFFF < c.toNat ∧ c.toNat < 0x110000 := c.valid
    rw [List.map_cons, join.eq_def]
    dsimp only
    rw [if_neg (by omega), if_neg (by omega), Char.ofNat_toNat, ih]
    simp

theorem textOf_units (s : String) : textOf (s.toList.map Char.toNat) = some s := by
  rw [textOf, join_units]
  simp

/-! ## Numbers -/

/-- What follows does not continue a number. -/
def Stops (rest : List Char) : Prop :=
  ∀ c ∈ rest.head?, c.isDigit = false ∧ c ≠ '.' ∧ c ≠ 'e' ∧ c ≠ 'E'

theorem Stops.noDigit {rest : List Char} (h : Stops rest) :
    rest.takeWhile Char.isDigit = [] ∧ rest.dropWhile Char.isDigit = rest := by
  cases rest with
  | nil => exact ⟨rfl, rfl⟩
  | cons c rest =>
    obtain ⟨notDigit, -⟩ := h c rfl
    exact ⟨List.takeWhile_cons_of_neg (by simp [notDigit]),
      List.dropWhile_cons_of_neg (by simp [notDigit])⟩

theorem Stops.noFraction {rest : List Char} (h : Stops rest) :
    fraction rest = some (false, rest) := by
  cases rest with
  | nil => rfl
  | cons c rest =>
    obtain ⟨-, notPoint, -⟩ := h c rfl
    simp [fraction, notPoint]

theorem Stops.noExponent {rest : List Char} (h : Stops rest) :
    exponent rest = some (false, rest) := by
  cases rest with
  | nil => rfl
  | cons c rest =>
    obtain ⟨-, -, small, capital⟩ := h c rfl
    exact if_neg (by simp [small, capital])

theorem whole_decimal (n : Nat) {rest : List Char} (stops : Stops rest) :
    whole (Text.decimal n ++ rest) = some (n, rest) := by
  by_cases zero : n = 0
  · subst zero
    rfl
  obtain ⟨c, digits, first, nonzero⟩ := Text.head_decimal (Nat.pos_of_ne_zero zero)
  have all : ∀ d ∈ Text.decimal n, d.isDigit = true := fun d => Text.isDigit_of_mem_decimal
  obtain ⟨none_, others⟩ := stops.noDigit
  have taken : (Text.decimal n ++ rest).takeWhile Char.isDigit = Text.decimal n := by
    rw [List.takeWhile_append_of_pos all, none_, List.append_nil]
  have dropped : (Text.decimal n ++ rest).dropWhile Char.isDigit = rest := by
    rw [List.dropWhile_append_of_pos all, others]
  rw [whole]
  · rw [taken, dropped, Text.digits_decimal]
    rfl
  · intro digits' same
    rw [first] at same
    exact nonzero (List.cons.inj same).1

/-- A number starts with a digit, so its sign is seen for what it is. -/
theorem head_isDigit (n : Nat) : ∃ c digits, Text.decimal n = c :: digits ∧ c.isDigit = true := by
  have written : Text.decimal n ≠ [] := Nat.toDigits_ne_nil
  obtain ⟨c, digits, first⟩ := List.exists_cons_of_ne_nil written
  exact ⟨c, digits, first, Text.isDigit_of_mem_decimal (first ▸ List.mem_cons_self)⟩

/-- An integer that 64 bits hold, with or without a sign. -/
def Fits (n : Int) : Prop := Int64.minValue.toInt ≤ n ∧ n < UInt64.size

theorem number_signed {n : Int} (fits : Fits n) {rest : List Char} (stops : Stops rest) :
    number (Text.signed n ++ rest) = some (.int n, rest) := by
  obtain ⟨lower, upper⟩ := fits
  cases n with
  | ofNat n =>
    obtain ⟨c, digits, first, digit⟩ := head_isDigit n
    have unsigned : c ≠ '-' := by
      rintro rfl
      exact absurd digit (by decide)
    have read := whole_decimal n stops
    have value : integer false n = .int n := if_pos (Int.ofNat_lt.1 upper)
    rw [Text.signed, first, List.cons_append]
    rw [first, List.cons_append] at read
    simp [number, unsigned, read, stops.noFraction, stops.noExponent, value]
  | negSucc n =>
    have read := whole_decimal (n + 1) stops
    have value : integer true (n + 1) = .int (Int.negSucc n) := by
      rw [integer, if_pos rfl, if_neg (by omega)]
      rfl
    simp [Text.signed, number, read, stops.noFraction, stops.noExponent, value]

end Reader

/-! ## Values -/

mutual

/-- 64 bits hold every integer in the value. -/
def Held : Json → Prop
  | .int n => Reader.Fits n
  | .arr items => HeldItems items
  | .obj entries => HeldEntries entries
  | .null | .bool _ | .str _ => True

def HeldItems : List Json → Prop
  | [] => True
  | item :: items => Held item ∧ HeldItems items

def HeldEntries : List (String × Json) → Prop
  | [] => True
  | (_, value) :: entries => Held value ∧ HeldEntries entries

end

namespace Reader

/-- Characters that stand for themselves between values. -/
def isBlank (c : Char) : Bool := c = ' ' || c = '\n' || c = '\t' || c = '\r'

def Blanks (b : List Char) : Prop := ∀ c ∈ b, isBlank c = true

instance (b : List Char) : Decidable (Blanks b) :=
  decidable_of_iff (b.all isBlank = true) List.all_eq_true

theorem blanks_nil : Blanks [] := nofun

end Reader

open Reader (Blanks blanks_nil)

mutual

/-- The characters say the value, with some blanks between its parts. -/
inductive Spells : Json → List Char → Prop
  | null : Spells .null (write .null)
  | bool (b : Bool) : Spells (.bool b) (write (.bool b))
  | int (n : Int) : Spells (.int n) (Text.signed n)
  | str (s : String) : Spells (.str s) (quote s)
  | noItems {b : List Char} (blanks : Blanks b) : Spells (.arr []) ('[' :: b ++ [']'])
  | items {item : Json} {items : List Json} {b s t : List Char} (blanks : Blanks b)
      (first : Spells item s) (others : SpellsItems items t) :
      Spells (.arr (item :: items)) ('[' :: b ++ s ++ t)
  | noEntries {b : List Char} (blanks : Blanks b) :
      Spells (.obj []) ('\x7b' :: b ++ ['\x7d'])
  | entries {key : String} {value : Json} {entries : List (String × Json)} {b s t : List Char}
      (blanks : Blanks b) (first : SpellsEntry key value s) (others : SpellsEntries entries t) :
      Spells (.obj ((key, value) :: entries)) ('\x7b' :: b ++ s ++ t)

/-- The items after the first, and the closing bracket. -/
inductive SpellsItems : List Json → List Char → Prop
  | last {b : List Char} (blanks : Blanks b) : SpellsItems [] (b ++ [']'])
  | next {item : Json} {items : List Json} {b b' s t : List Char} (blanks : Blanks b)
      (blanks' : Blanks b') (first : Spells item s) (others : SpellsItems items t) :
      SpellsItems (item :: items) (b ++ ',' :: b' ++ s ++ t)

inductive SpellsEntry : String → Json → List Char → Prop
  | mk {key : String} {value : Json} {b b' s : List Char} (blanks : Blanks b)
      (blanks' : Blanks b') (said : Spells value s) :
      SpellsEntry key value (quote key ++ b ++ ':' :: b' ++ s)

/-- The entries after the first, and the closing brace. -/
inductive SpellsEntries : List (String × Json) → List Char → Prop
  | last {b : List Char} (blanks : Blanks b) : SpellsEntries [] (b ++ ['\x7d'])
  | next {key : String} {value : Json} {entries : List (String × Json)} {b b' s t : List Char}
      (blanks : Blanks b) (blanks' : Blanks b') (first : SpellsEntry key value s)
      (others : SpellsEntries entries t) :
      SpellsEntries ((key, value) :: entries) (b ++ ',' :: b' ++ s ++ t)

end

/-! ### What is written -/

mutual

theorem spells_write (j : Json) : Spells j (write j) := by
  match j with
  | .null => exact .null
  | .bool b => exact .bool b
  | .int n => exact .int n
  | .str s => exact .str s
  | .arr [] => exact .noItems blanks_nil
  | .arr (item :: items) => exact .items blanks_nil (spells_write item) (spellsItems_write items)
  | .obj [] => exact .noEntries blanks_nil
  | .obj ((key, value) :: entries) =>
    have first : SpellsEntry key value _ := .mk blanks_nil blanks_nil (spells_write value)
    have all := Spells.entries blanks_nil first (spellsEntries_write entries)
    simpa [write] using all

theorem spellsItems_write (items : List Json) : SpellsItems items (writeItems items) := by
  match items with
  | [] => exact .last blanks_nil
  | item :: items => exact .next blanks_nil blanks_nil (spells_write item) (spellsItems_write items)

theorem spellsEntries_write (entries : List (String × Json)) :
    SpellsEntries entries (writeEntries entries) := by
  match entries with
  | [] => exact .last blanks_nil
  | (key, value) :: entries =>
    have first : SpellsEntry key value _ := .mk blanks_nil blanks_nil (spells_write value)
    have all := SpellsEntries.next blanks_nil blanks_nil first (spellsEntries_write entries)
    simpa [writeEntries] using all

end

/-! ### What is read -/

namespace Reader

theorem skipBlanks_blanks {b : List Char} (blanks : Blanks b) (s : List Char) :
    skipBlanks (b ++ s) = skipBlanks s :=
  List.dropWhile_append_of_pos blanks

theorem skipBlanks_cons {c : Char} (cs : List Char) (h : isBlank c = false) :
    skipBlanks (c :: cs) = c :: cs :=
  List.dropWhile_cons_of_neg (by simpa [isBlank] using h)

/-- The blanks end at a mark. -/
theorem skipBlanks_mark {b : List Char} (blanks : Blanks b) {c : Char} (cs : List Char)
    (h : isBlank c = false) : skipBlanks (b ++ c :: cs) = c :: cs := by
  rw [skipBlanks_blanks blanks, skipBlanks_cons cs h]

theorem head_signed (n : Int) :
    ∃ c cs, Text.signed n = c :: cs ∧ (c = '-' ∨ c.isDigit = true) := by
  cases n with
  | ofNat n =>
    obtain ⟨c, digits, first, digit⟩ := head_isDigit n
    exact ⟨c, digits, first, .inr digit⟩
  | negSucc n => exact ⟨_, _, rfl, .inl rfl⟩

theorem isBlank_of_number {c : Char} (h : c = '-' ∨ c.isDigit = true) : isBlank c = false := by
  simp only [isBlank, Bool.or_eq_false_iff, decide_eq_false_iff_not]
  refine ⟨⟨⟨?_, ?_⟩, ?_⟩, ?_⟩
  all_goals
    rintro rfl
    exact absurd h (by decide)

/-- A number is not continued by blanks or by a mark. -/
theorem stops_blanks {b : List Char} (blanks : Blanks b) {rest : List Char} (stops : Stops rest) :
    Stops (b ++ rest) := by
  cases b with
  | nil => exact stops
  | cons c b =>
    have blank := blanks c List.mem_cons_self
    simp only [isBlank, Bool.or_eq_true, decide_eq_true_eq] at blank
    rintro _ ⟨⟩
    rcases blank with ((rfl | rfl) | rfl) | rfl <;> decide

end Reader

/-- A value is spelled from its first mark on, which is no closing bracket. -/
theorem Spells.head {j : Json} {s : List Char} (h : Spells j s) :
    ∃ c cs, s = c :: cs ∧ Reader.isBlank c = false ∧ c ≠ ']' := by
  cases h with
  | null => exact ⟨_, _, rfl, by decide, by decide⟩
  | bool b => cases b <;> exact ⟨_, _, rfl, by decide, by decide⟩
  | int n =>
    obtain ⟨c, cs, first, number⟩ := Reader.head_signed n
    refine ⟨c, cs, first, Reader.isBlank_of_number number, ?_⟩
    rintro rfl
    exact absurd number (by decide)
  | str | noItems | items | noEntries | entries => exact ⟨_, _, rfl, by decide, by decide⟩

theorem Spells.length_pos {j : Json} {s : List Char} (h : Spells j s) : 0 < s.length := by
  obtain ⟨c, cs, rfl, -⟩ := h.head
  exact Nat.succ_pos _

namespace Reader

theorem value_blanks {b : List Char} (blanks : Blanks b) (steps : Nat) (s : List Char) :
    value (steps + 1) (b ++ s) = value (steps + 1) s := by
  simp only [value, skipBlanks_blanks blanks]

theorem value_int {n : Int} (fits : Fits n) (steps : Nat) {rest : List Char}
    (stops : Stops rest) :
    value (steps + 1) (Text.signed n ++ rest) = some (.int n, rest) := by
  obtain ⟨c, cs, first, number⟩ := head_signed n
  have read := number_signed fits stops
  rw [first, List.cons_append] at read ⊢
  rw [value, skipBlanks_cons _ (isBlank_of_number number)]
  split
  case h_7 => exact read
  all_goals
    next same =>
      obtain ⟨rfl, -⟩ := List.cons.inj same
      exact absurd number (by decide)

theorem value_str (s : String) (steps : Nat) (rest : List Char) :
    value (steps + 1) (quote s ++ rest) = some (.text s, rest) := by
  have read := string_escapes [] s.toList rest
  have shape : quote s ++ rest = '"' :: (s.toList.flatMap escape ++ '"' :: rest) := by
    simp [quote]
  rw [shape, value, skipBlanks_cons _ (by decide)]
  simp only [read]
  rw [List.reverse_nil, List.nil_append, Option.map_some, textOf_units]

theorem value_noItems {b : List Char} (blanks : Blanks b) (steps : Nat) (rest : List Char) :
    value (steps + 1) ('[' :: (b ++ ']' :: rest)) = some (.list [], rest) := by
  rw [value, skipBlanks_cons _ (by decide)]
  simp only [skipBlanks_mark blanks rest (by decide : isBlank ']' = false)]

theorem value_items {b : List Char} (blanks : Blanks b) {item : Json} {s : List Char}
    (said : Spells item s) (steps : Nat) (t : List Char) :
    value (steps + 1) ('[' :: (b ++ (s ++ t))) =
      (elements steps (s ++ t)).map fun (items, rest) => (.list items, rest) := by
  obtain ⟨c, cs, rfl, visible, more⟩ := said.head
  rw [value, skipBlanks_cons _ (by decide)]
  simp only [List.cons_append, skipBlanks_mark blanks _ visible]
  split
  · next same => exact absurd (List.cons.inj same).1 more
  · rfl

theorem value_noEntries {b : List Char} (blanks : Blanks b) (steps : Nat) (rest : List Char) :
    value (steps + 1) ('\x7b' :: (b ++ '\x7d' :: rest)) = some (.record [], rest) := by
  rw [value, skipBlanks_cons _ (by decide)]
  simp only [skipBlanks_mark blanks rest (by decide : isBlank '\x7d' = false)]

theorem value_entries {b : List Char} (blanks : Blanks b) (steps : Nat) (key : String)
    (s : List Char) : value (steps + 1) ('\x7b' :: (b ++ (quote key ++ s))) =
      (members steps (quote key ++ s)).map fun (entries, rest) => (.record entries, rest) := by
  have mark (rest : List Char) : skipBlanks (b ++ '"' :: rest) = '"' :: rest :=
    skipBlanks_mark blanks rest (by decide)
  rw [value, skipBlanks_cons _ (by decide)]
  simp only [quote, List.cons_append, mark]
  rfl

/-- An item is the last one before the closing bracket. -/
theorem elements_last {steps : Nat} {b s rest : List Char} {d : Doc} (blanks : Blanks b)
    (first : value steps s = some (d, b ++ ']' :: rest)) :
    elements (steps + 1) s = some ([d], rest) := by
  rw [elements, first]
  simp only [skipBlanks_mark blanks rest (by decide : isBlank ']' = false)]

theorem elements_next {steps : Nat} {b s rest : List Char} {d : Doc} (blanks : Blanks b)
    (first : value steps s = some (d, b ++ ',' :: rest)) :
    elements (steps + 1) s =
      (elements steps rest).map fun (items, rest) => (d :: items, rest) := by
  rw [elements, first]
  simp only [skipBlanks_mark blanks rest (by decide : isBlank ',' = false)]

section
variable {b b' b'' : List Char}

theorem members_key (blanks : Blanks b) (blanks' : Blanks b') (steps : Nat) (key : String)
    (s : List Char) : members (steps + 1) (b ++ (quote key ++ (b' ++ ':' :: s))) =
      match value steps s with
      | none => none
      | some (item, rest) =>
        match skipBlanks rest with
        | ',' :: rest =>
          (members steps rest).map fun (entries, rest) => ((some key, item) :: entries, rest)
        | '\x7d' :: rest => some ([(some key, item)], rest)
        | _ => none := by
  have read := string_escapes [] key.toList (b' ++ ':' :: s)
  have shape : quote key ++ (b' ++ ':' :: s) =
      '"' :: (key.toList.flatMap escape ++ '"' :: (b' ++ ':' :: s)) := by
    simp [quote]
  rw [shape, members, skipBlanks_mark blanks _ (by decide)]
  simp only [read]
  rw [skipBlanks_mark blanks' _ (by decide), List.reverse_nil, List.nil_append, textOf_units]
  rfl

theorem members_last {steps : Nat} {key : String} {s rest : List Char} {d : Doc}
    (blanks : Blanks b) (blanks' : Blanks b') (blanks'' : Blanks b'')
    (first : value steps s = some (d, b'' ++ '\x7d' :: rest)) :
    members (steps + 1) (b ++ (quote key ++ (b' ++ ':' :: s))) = some ([(some key, d)], rest) := by
  rw [members_key blanks blanks', first]
  simp only [skipBlanks_mark blanks'' rest (by decide : isBlank '\x7d' = false)]

theorem members_next {steps : Nat} {key : String} {s rest : List Char} {d : Doc}
    (blanks : Blanks b) (blanks' : Blanks b') (blanks'' : Blanks b'')
    (first : value steps s = some (d, b'' ++ ',' :: rest)) :
    members (steps + 1) (b ++ (quote key ++ (b' ++ ':' :: s))) =
      (members steps rest).map fun (entries, rest) => ((some key, d) :: entries, rest) := by
  rw [members_key blanks blanks', first]
  simp only [skipBlanks_mark blanks'' rest (by decide : isBlank ',' = false)]

end

theorem stops_mark {b : List Char} (blanks : Blanks b) {c : Char} (s : List Char)
    (mark : c = ',' ∨ c = ']' ∨ c = '\x7d') : Stops (b ++ c :: s) := by
  refine stops_blanks blanks ?_
  rintro _ ⟨⟩
  rcases mark with rfl | rfl | rfl <;> decide

/-- What follows an item is some text, and continues no number. -/
theorem ends_items {items : List Json} {t : List Char} (h : SpellsItems items t)
    (rest : List Char) : 0 < t.length ∧ Stops (t ++ rest) := by
  cases h with
  | @last b blanks =>
    have text : b ++ [']'] ++ rest = b ++ ']' :: rest := by simp
    exact ⟨by simp, text ▸ stops_mark blanks _ (.inr (.inl rfl))⟩
  | @next _ _ b b' s t blanks =>
    have text : b ++ ',' :: b' ++ s ++ t ++ rest = b ++ ',' :: (b' ++ s ++ t ++ rest) := by simp
    exact ⟨List.length_pos_iff.2 (by simp), text ▸ stops_mark blanks _ (.inl rfl)⟩

theorem ends_entries {entries : List (String × Json)} {t : List Char}
    (h : SpellsEntries entries t) (rest : List Char) : 0 < t.length ∧ Stops (t ++ rest) := by
  cases h with
  | @last b blanks =>
    have text : b ++ ['\x7d'] ++ rest = b ++ '\x7d' :: rest := by simp
    exact ⟨by simp, text ▸ stops_mark blanks _ (.inr (.inr rfl))⟩
  | @next _ _ _ b b' s t blanks =>
    have text : b ++ ',' :: b' ++ s ++ t ++ rest = b ++ ',' :: (b' ++ s ++ t ++ rest) := by simp
    exact ⟨List.length_pos_iff.2 (by simp), text ▸ stops_mark blanks _ (.inl rfl)⟩

-- By recursion on the value. The brackets and commas around an item take at least the step that
-- reading it takes, so the steps that are left are enough for the items after it.
mutual

/-- A value that is spelled is read back in front of what does not continue it. -/
theorem value_spells (j : Json) {s : List Char} (h : Spells j s) (held : j.Held) (steps : Nat)
    (enough : s.length ≤ steps) {rest : List Char} (stops : Stops rest) :
    value steps (s ++ rest) = some (j.toDoc, rest) := by
  have positive := h.length_pos
  obtain ⟨steps, rfl⟩ : ∃ n, steps = n + 1 := ⟨steps - 1, by omega⟩
  match j with
  | .null =>
    cases h
    rfl
  | .bool b =>
    cases h
    cases b <;> rfl
  | .int n =>
    cases h
    exact value_int held steps stops
  | .str s =>
    cases h
    exact value_str s steps rest
  | .arr [] =>
    cases h with
    | noItems blanks => simpa [toDoc, toDocs] using value_noItems blanks steps rest
  | .arr (item :: items) =>
    cases h with
    | @items _ _ b s t blanks said others =>
      have visible := said.length_pos
      obtain ⟨closed, stops⟩ := ends_items others rest
      simp only [List.length_append, List.length_cons] at enough
      obtain ⟨steps, rfl⟩ : ∃ n, steps = n + 1 := ⟨steps - 1, by omega⟩
      have first := value_spells item said held.1 steps (by omega) stops
      have all := elements_spells items others held.2 steps (by omega) first
      have text : '[' :: b ++ s ++ t ++ rest = '[' :: (b ++ (s ++ (t ++ rest))) := by simp
      rw [text, value_items blanks said, all]
      rfl
  | .obj [] =>
    cases h with
    | noEntries blanks => simpa [toDoc, toDocEntries] using value_noEntries blanks steps rest
  | .obj ((key, item) :: entries) =>
    cases h with
    | @entries _ _ _ b _ t blanks entry others =>
      obtain @⟨_, _, b', b'', s, around, around', said⟩ := entry
      have visible := said.length_pos
      obtain ⟨closed, stops⟩ := ends_entries others rest
      simp only [List.length_append, List.length_cons] at enough
      obtain ⟨steps, rfl⟩ : ∃ n, steps = n + 2 := ⟨steps - 2, by omega⟩
      have first := value_spells item said held.1 (steps + 1) (by omega) stops
      rw [← value_blanks around'] at first
      have all := members_spells entries others held.2 (steps + 1) (by omega) key blanks_nil around
        first
      have text : '\x7b' :: b ++ (quote key ++ b' ++ ':' :: b'' ++ s) ++ t ++ rest =
          '\x7b' :: (b ++ (quote key ++ (b' ++ ':' :: (b'' ++ (s ++ (t ++ rest)))))) := by
        simp
      rw [text, value_entries blanks]
      rw [List.nil_append] at all
      rw [all]
      rfl

/-- What follows an item is read up to the closing bracket. -/
theorem elements_spells (items : List Json) {t : List Char} (h : SpellsItems items t)
    (held : HeldItems items) (steps : Nat) (enough : t.length ≤ steps) {s rest : List Char}
    {d : Doc} (first : value steps s = some (d, t ++ rest)) :
    elements (steps + 1) s = some (d :: toDocs items, rest) := by
  match items with
  | [] =>
    cases h with
    | last blanks =>
      rw [List.append_assoc] at first
      exact elements_last blanks first
  | item :: items =>
    cases h with
    | @next _ _ b b' s' t blanks around said others =>
      have visible := said.length_pos
      simp only [List.length_append, List.length_cons] at enough
      obtain ⟨steps, rfl⟩ : ∃ n, steps = n + 2 := ⟨steps - 2, by omega⟩
      have next := value_spells item said held.1 (steps + 1) (by omega) (ends_items others rest).2
      rw [← value_blanks around] at next
      have all := elements_spells items others held.2 (steps + 1) (by omega) next
      have text : b ++ ',' :: b' ++ s' ++ t ++ rest =
          b ++ ',' :: (b' ++ (s' ++ (t ++ rest))) := by simp
      rw [text] at first
      rw [elements_next blanks first, all]
      rfl

theorem members_spells (entries : List (String × Json)) {t : List Char}
    (h : SpellsEntries entries t) (held : HeldEntries entries) (steps : Nat)
    (enough : t.length ≤ steps) (key : String) {b b' s rest : List Char} {d : Doc}
    (blanks : Blanks b) (blanks' : Blanks b') (first : value steps s = some (d, t ++ rest)) :
    members (steps + 1) (b ++ (quote key ++ (b' ++ ':' :: s))) =
      some ((some key, d) :: toDocEntries entries, rest) := by
  match entries with
  | [] =>
    cases h with
    | last blanks'' =>
      rw [List.append_assoc] at first
      exact members_last blanks blanks' blanks'' first
  | (name, item) :: entries =>
    cases h with
    | @next _ _ _ c c' _ t before after entry others =>
      obtain @⟨_, _, around, around', s', inside, inside', said⟩ := entry
      have visible := said.length_pos
      simp only [List.length_append, List.length_cons] at enough
      obtain ⟨steps, rfl⟩ : ∃ n, steps = n + 2 := ⟨steps - 2, by omega⟩
      have next := value_spells item said held.1 (steps + 1) (by omega) (ends_entries others rest).2
      rw [← value_blanks inside'] at next
      have all := members_spells entries others held.2 (steps + 1) (by omega) name after inside next
      have text : c ++ ',' :: c' ++ (quote name ++ around ++ ':' :: around' ++ s') ++ t ++ rest =
          c ++ ',' ::
            (c' ++ (quote name ++ (around ++ ':' :: (around' ++ (s' ++ (t ++ rest)))))) := by
        simp
      rw [text] at first
      rw [members_next blanks blanks' before first, all]
      rfl

end

/-- A text is read that spells a value, whatever blanks stand around it. -/
theorem document_spells {j : Json} {s : List Char} (h : Spells j s) (held : j.Held)
    {b b' : List Char} (before : Blanks b) (after : Blanks b') :
    document (b ++ (s ++ b')) = some j.toDoc := by
  have enough : s.length ≤ (b ++ (s ++ b')).length + 1 := by
    simp only [List.length_append]
    omega
  have stops : Stops (b' ++ []) := stops_blanks after nofun
  rw [List.append_nil] at stops
  have ended : skipBlanks b' = [] := by
    have skipped := skipBlanks_blanks after []
    rwa [List.append_nil] at skipped
  rw [document, value_blanks before, value_spells j h held _ enough stops]
  exact if_pos ended

end Reader

end Coupling.Json

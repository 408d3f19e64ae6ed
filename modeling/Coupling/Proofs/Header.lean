import Coupling.Proofs.Layout
import Coupling.Text.Blank
import Coupling.Text.Cut
import Coupling.Text.Numeral

/-!
# The number of fields in the header

The coupler learns how many fields to expect from the line under `$NFIELDS`:

* `split_append`, `strip_spaces` and `digits_decimal`: cutting a text into lines, taking blanks off
  and reading a number undo what the writer does;
* `fieldCount?` reads the number as the coupler does;
* `fieldCount_of_render`: it is the number of written fields.
-/

namespace Coupling

namespace Text

theorem splitFrom_append_sep {sep : Char} (piece s t : List Char) :
    splitFrom sep piece (s ++ sep :: t) = splitFrom sep piece s ++ split sep t := by
  induction s generalizing piece with
  | nil => simp [splitFrom, split]
  | cons c s ih =>
    rw [List.cons_append, splitFrom, splitFrom]
    split
    · rw [ih, List.cons_append]
    · rw [ih]

theorem split_append_sep {sep : Char} (s t : List Char) :
    split sep (s ++ sep :: t) = split sep s ++ split sep t :=
  splitFrom_append_sep [] s t

theorem splitFrom_of_not_mem {sep : Char} {s : List Char} (piece : List Char) (h : sep ∉ s) :
    splitFrom sep piece s = [piece.reverse ++ s] := by
  induction s generalizing piece with
  | nil => simp [splitFrom]
  | cons c s ih =>
    have different : c ≠ sep := fun same => h (same ▸ List.mem_cons_self)
    have later : sep ∉ s := fun member => h (List.mem_cons_of_mem c member)
    rw [splitFrom, if_neg different, ih (c :: piece) later]
    simp

theorem split_of_not_mem {sep : Char} {s : List Char} (h : sep ∉ s) : split sep s = [s] :=
  splitFrom_of_not_mem [] h

/-- A word without the separator is the first piece of what begins with it and the separator. -/
theorem split_append {sep : Char} {word : List Char} (rest : List Char) (h : sep ∉ word) :
    split sep (word ++ sep :: rest) = word :: split sep rest := by
  rw [split_append_sep, split_of_not_mem h, List.singleton_append]

/-- The visible characters of ASCII are not blank. -/
theorem isBlank_of_graphic {c : Char} (low : 0x21 ≤ c.toNat) (high : c.toNat ≤ 0x7E) :
    isBlank c = false := by
  simp only [isBlank, Bool.or_eq_false_iff, Bool.and_eq_false_iff, decide_eq_false_iff_not,
    beq_eq_false_iff_ne]
  omega

theorem bounds_of_isDigit {c : Char} (h : c.isDigit = true) : 48 ≤ c.toNat ∧ c.toNat ≤ 57 := by
  simp only [Char.isDigit, Bool.and_eq_true, decide_eq_true_eq, ge_iff_le, UInt32.le_iff_toNat_le]
    at h
  exact h

theorem isBlank_of_isDigit {c : Char} (h : c.isDigit = true) : isBlank c = false := by
  obtain ⟨lower, upper⟩ := bounds_of_isDigit h
  exact isBlank_of_graphic (by omega) (by omega)

theorem dropWhile_eq_self {outer : Char → Bool} {s : List Char}
    (h : ∀ c ∈ s, outer c = false) : s.dropWhile outer = s := by
  cases s with
  | nil => rfl
  | cons c s => rw [List.dropWhile_cons_of_neg (by simp [h c List.mem_cons_self])]

/-- Blanks in front go, and a word without blanks stays. -/
theorem strip_spaces {word : List Char} (n : Nat) (h : ∀ c ∈ word, isBlank c = false) :
    strip isBlank (List.replicate n ' ' ++ word) = word := by
  have front : (List.replicate n ' ' ++ word).dropWhile isBlank = word := by
    induction n with
    | zero => exact dropWhile_eq_self h
    | succ n ih =>
      rw [List.replicate_succ, List.cons_append, List.dropWhile_cons_of_pos (by decide), ih]
  have back : word.reverse.dropWhile isBlank = word.reverse :=
    dropWhile_eq_self fun c hc => h c (List.mem_reverse.1 hc)
  rw [strip, front, back, List.reverse_reverse]

theorem isDigit_of_mem_decimal {n : Nat} {c : Char} (h : c ∈ decimal n) : c.isDigit = true :=
  Nat.isDigit_of_mem_toDigits (by decide) (by decide) h

/-- Only zero is written with a leading zero. -/
theorem head_decimal {n : Nat} (positive : 0 < n) :
    ∃ c digits, decimal n = c :: digits ∧ c ≠ '0' := by
  induction n using Nat.strongRecOn with
  | ind n ih =>
    by_cases small : n < 10
    · refine ⟨n.digitChar, [], Nat.toDigits_of_lt_base small, ?_⟩
      simp
      omega
    · obtain ⟨c, digits, first, nonzero⟩ := ih (n / 10) (by omega) (by omega)
      refine ⟨c, digits ++ [(n % 10).digitChar], ?_, nonzero⟩
      rw [decimal] at first
      rw [decimal, Nat.toDigits_of_base_le (by decide) (by omega), first]
      rfl

theorem toList_toString (n : Nat) : (toString n).toList = decimal n := by
  rw [Nat.toString_eq_repr, Nat.toList_repr, decimal]

theorem digits_decimal (n : Nat) : digits? (decimal n) = some n := by
  have shape : decimal n ≠ [] ∧ (decimal n).all Char.isDigit = true :=
    ⟨Nat.toDigits_ne_nil, List.all_eq_true.2 fun _ => isDigit_of_mem_decimal⟩
  have value : (decimal n).foldl (fun n c => 10 * n + (c.toNat - '0'.toNat)) 0 = n := by
    rw [← Nat.ofDigitChars_eq_foldl]
    exact Nat.ofDigitChars_ten_toDigits
  rw [digits?, if_pos shape, value]

end Text

/-- The line below the line that names a section, without its blanks. -/
def sectionValue? (name : List Char) : List (List Char) → Option (List Char)
  | line :: value :: rest =>
    if line = ' ' :: '$' :: name then some (Text.strip Text.isBlank value)
    else sectionValue? name (value :: rest)
  | _ => none

def fieldCount? (namcouple : String) : Option Nat :=
  (sectionValue? "NFIELDS".toList (Text.split '\n' namcouple.toList)).bind Text.digits?

theorem toList_headerSection (name value : String) :
    (headerSection name value).toList = sectionRule.toList ++ '\n' :: (' ' :: '$' :: name.toList ++
      '\n' :: (List.replicate 4 ' ' ++ value.toList ++ '\n' :: " $END\n".toList)) := by
  simp [headerSection, List.replicate]

/-- The header announces the number that it is made for, whatever follows it. -/
theorem fieldCount_header (ctx : RunContext) (count : Nat) (rest : String) :
    fieldCount? (header ctx count ++ rest) = some count := by
  have blankless : ∀ c ∈ Text.decimal count, Text.isBlank c = false :=
    fun c hc => Text.isBlank_of_isDigit (Text.isDigit_of_mem_decimal hc)
  have oneLine : '\n' ∉ List.replicate 4 ' ' ++ Text.decimal count := by
    intro member
    rcases List.mem_append.1 member with member | member
    · exact absurd member (by decide)
    · exact absurd (blankless '\n' member) (by decide)
  obtain ⟨below, text⟩ : ∃ below, (header ctx count ++ rest).toList =
      sectionRule.toList ++ '\n' :: (' ' :: '$' :: "NFIELDS".toList ++
        '\n' :: (List.replicate 4 ' ' ++ Text.decimal count ++ '\n' :: below)) := by
    apply Exists.intro
    simp only [header, String.append_assoc, String.toList_append, toList_headerSection,
      Text.toList_toString, List.append_assoc, List.cons_append]
    rfl
  have value : sectionValue? "NFIELDS".toList
      (sectionRule.toList :: (' ' :: '$' :: "NFIELDS".toList) ::
        (List.replicate 4 ' ' ++ Text.decimal count) :: Text.split '\n' below) =
      some (Text.decimal count) := by
    rw [sectionValue?, if_neg (by decide), sectionValue?, if_pos rfl,
      Text.strip_spaces 4 blankless]
  rw [fieldCount?, text, Text.split_append _ (by decide), Text.split_append _ (by decide),
    Text.split_append _ oneLine, value, Option.bind_some, Text.digits_decimal]

theorem fieldCount_of_render {ctx : RunContext} {lookup : StashCode → Except Error StashEntry}
    {fields : List Field} {out : Rendered} (h : (render ctx lookup fields).result = .ok out) :
    fieldCount? out.namcouple = some out.fields.length := by
  obtain ⟨p, -, rfl⟩ := render_eq_ok_iff.1 h
  rw [Progress.finish, String.append_assoc]
  exact fieldCount_header ctx p.summaries.length _

end Coupling

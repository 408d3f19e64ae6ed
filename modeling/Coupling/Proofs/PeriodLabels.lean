import Coupling.Period
import Coupling.Proofs.Header
import Coupling.Proofs.Quotients
import Mathlib.Data.List.DropRight
import Mathlib.Tactic.FieldSimp

/-!
# Labels of periods

The label of a period is a decimal numeral and the letter of a unit:

* `Numeral` is a numeral as it is written, and `Numeral.Tidy` one without anything superfluous: two
  decimal places at most, no zero at the end of them and none too many at the beginning;
* `Period.shown h` is the numeral of `h` hundredths. It is tidy, it is what is left of the two
  decimal places when zeros and then a point are taken off (`text_shown`), and no digit before the
  point is lost with them (`value_shown`);
* `Period.label_eq`: the label always shows the hundredths, although a whole number of units is
  written without asking for them;
* `Period.label_shows`: so the label of every period of 32 bits is off by half a hundredth at most,
  and a number of units that two decimal places can hold is written exactly.
-/

namespace Coupling

/-! ## Numerals -/

/-- The digits of a decimal numeral before and after the point. -/
structure Numeral where
  whole : List Char
  fraction : List Char

namespace Numeral

/-- The numeral as it is written, with a point only if digits follow it. -/
def text (n : Numeral) : List Char :=
  match n.fraction with
  | [] => n.whole
  | digit :: digits => n.whole ++ '.' :: digit :: digits

def value (n : Numeral) : ℚ :=
  Nat.ofDigitChars 10 n.whole 0 + Nat.ofDigitChars 10 n.fraction 0 / 10 ^ n.fraction.length

/-- A numeral of at most two decimal places without superfluous zeros. -/
structure Tidy (n : Numeral) : Prop where
  filled : n.whole ≠ []
  digits : ∀ c ∈ n.whole ++ n.fraction, c.isDigit = true
  places : n.fraction.length ≤ 2
  leading : n.whole.head? = some '0' → n.whole = ['0']
  trailing : n.fraction.getLast? ≠ some '0'

/-- Taking points off the end takes off the point that nothing follows, and no digit. -/
theorem rdropWhile_point {n : Numeral} (digits : ∀ c ∈ n.whole ++ n.fraction, c.isDigit = true) :
    (n.whole ++ '.' :: n.fraction).rdropWhile (· = '.') = n.text := by
  obtain ⟨whole, fraction⟩ := n
  have solid {s : List Char} (h : ∀ c ∈ s, c.isDigit = true) (filled : s ≠ []) :
      s.getLast filled ≠ '.' := by
    intro point
    exact absurd (h _ (s.getLast_mem filled)) (by rw [point]; decide)
  cases fraction with
  | nil =>
    rw [List.rdropWhile_concat_pos _ _ _ (by decide), text, List.rdropWhile_eq_self_iff]
    intro filled
    simpa using solid (fun c member => digits c (List.mem_append_left _ member)) filled
  | cons d fraction =>
    rw [text, List.rdropWhile_eq_self_iff]
    intro _
    have last := solid (fun c member => digits c (List.mem_append_right _ member))
      (List.cons_ne_nil d fraction)
    rw [List.getLast_append_of_ne_nil _ (List.cons_ne_nil _ _),
      List.getLast_cons (List.cons_ne_nil d fraction)]
    simpa using last

/-- Zeros at the end of the decimal places do not count. -/
theorem value_rdropWhile (whole fraction : List Char) :
    value ⟨whole, fraction.rdropWhile (· = '0')⟩ = value ⟨whole, fraction⟩ := by
  induction fraction using List.reverseRecOn with
  | nil => rfl
  | append_singleton fraction c ih =>
    by_cases zero : c = '0'
    · subst zero
      have digits : Nat.ofDigitChars 10 (fraction ++ ['0']) 0 =
          10 * Nat.ofDigitChars 10 fraction 0 := by
        rw [Nat.ofDigitChars_append, Nat.ofDigitChars_cons, Nat.ofDigitChars_nil]
        rfl
      rw [List.rdropWhile_concat_pos _ _ _ (by decide), ih, value, value, digits,
        List.length_append, List.length_singleton, pow_succ]
      push_cast
      rw [mul_comm (10 ^ fraction.length : ℚ), mul_div_mul_left _ _ (by norm_num)]
    · rw [List.rdropWhile_concat_neg _ _ _ (by simpa using zero)]

end Numeral

namespace Period

/-! ## Hundredths as a numeral -/

/-- The two digits behind the point of a number of hundredths. -/
def places (hundredths : Nat) : List Char :=
  [(hundredths / 10 % 10).digitChar, (hundredths % 10).digitChar]

/-- A number of hundredths with both its decimal places. -/
def twoPlaces (hundredths : Nat) : List Char :=
  Text.decimal (hundredths / 100) ++ '.' :: places hundredths

/-- A text without the zeros at its end, and then without points. -/
def trimmed (text : List Char) : List Char :=
  (text.rdropWhile (· = '0')).rdropWhile (· = '.')

/-- A number of hundredths as a numeral. -/
def shown (hundredths : Nat) : Numeral where
  whole := Text.decimal (hundredths / 100)
  fraction := (places hundredths).rdropWhile (· = '0')

theorem isDigit_of_mem_places {h : Nat} {c : Char} (member : c ∈ places h) : c.isDigit = true := by
  simp only [places, List.mem_cons, List.not_mem_nil, or_false] at member
  rcases member with rfl | rfl
  all_goals
    rw [Nat.isDigit_digitChar, decide_eq_true_eq]
    exact Nat.mod_lt _ (by decide)

theorem tidy_shown (h : Nat) : (shown h).Tidy := by
  have shorter : (shown h).fraction <+: places h := List.rdropWhile_prefix _ _
  constructor
  · exact Nat.toDigits_ne_nil
  · intro c member
    rcases List.mem_append.1 member with member | member
    · exact Text.isDigit_of_mem_decimal member
    · exact isDigit_of_mem_places (shorter.subset member)
  · exact shorter.length_le
  · intro zero
    by_cases positive : 0 < h / 100
    · obtain ⟨c, digits, first, nonzero⟩ := Text.head_decimal positive
      rw [shown, first, List.head?_cons, Option.some.injEq] at zero
      exact absurd zero nonzero
    · rw [shown, Nat.eq_zero_of_not_pos positive]
      rfl
  · intro zero
    obtain ⟨filled, last⟩ := List.mem_getLast?_eq_getLast zero
    have nonzero := List.rdropWhile_last_not _ _ filled
    exact nonzero (decide_eq_true last.symm)

/-- The numeral of hundredths has their value. -/
theorem value_shown (h : Nat) : (shown h).value = h / 100 := by
  have digits : Nat.ofDigitChars 10 (places h) 0 = 10 * (h / 10 % 10) + h % 10 := by
    rw [places, Nat.ofDigitChars_cons_digitChar_of_lt_ten (by omega),
      Nat.ofDigitChars_cons_digitChar_of_lt_ten (by omega), Nat.ofDigitChars_nil]
    omega
  have split : (h : ℚ) = 100 * (h / 100 : ℕ) + (10 * (h / 10 % 10) + h % 10 : ℕ) := by
    exact_mod_cast (by omega : h = 100 * (h / 100) + (10 * (h / 10 % 10) + h % 10))
  have whole : Nat.ofDigitChars 10 (Text.decimal (h / 100)) 0 = h / 100 :=
    Nat.ofDigitChars_ten_toDigits
  have two : (places h).length = 2 := rfl
  rw [shown, Numeral.value_rdropWhile, Numeral.value, digits, whole, two, split]
  ring

/-- What is taken off the end stops at a character that stays. -/
theorem rdropWhile_append_cons {outer : Char → Bool} {c : Char} (stays : ¬ outer c = true)
    (s t : List Char) : (s ++ c :: t).rdropWhile outer = s ++ c :: t.rdropWhile outer := by
  induction t using List.reverseRecOn with
  | nil => rw [List.rdropWhile_concat_neg _ _ _ stays, List.rdropWhile_nil]
  | append_singleton t d ih =>
    rw [← List.cons_append, ← List.append_assoc]
    by_cases off : outer d = true
    · rw [List.rdropWhile_concat_pos _ _ _ off, List.rdropWhile_concat_pos _ _ _ off, ih]
    · rw [List.rdropWhile_concat_neg _ _ _ off, List.rdropWhile_concat_neg _ _ _ off,
        List.append_assoc, List.cons_append]

/-- The numeral is what two decimal places come to when they are trimmed. -/
theorem text_shown (h : Nat) : (shown h).text = trimmed (twoPlaces h) := by
  rw [trimmed, twoPlaces, rdropWhile_append_cons (by decide),
    ← Numeral.rdropWhile_point (tidy_shown h).digits]
  rfl

/-- The amount of a period is written as the numeral of its hundredths. -/
theorem amount_eq (h : Nat) : amount h = (shown h).text := by
  have zero {d : Nat} : decide (d.digitChar = '0') = true ↔ d = 0 := by
    rw [decide_eq_true_eq, Nat.digitChar_eq_zero]
  have two : places h = [(h / 10 % 10).digitChar] ++ [(h % 10).digitChar] := rfl
  unfold amount shown
  rw [two, List.rdropWhile_concat, List.rdropWhile_singleton]
  by_cases hundredth : h % 10 = 0
  · by_cases tenth : h / 10 % 10 = 0
    · simp [hundredth, tenth, Numeral.text]
    · simp [hundredth, tenth, Numeral.text]
  · simp [hundredth, Numeral.text]

/-! ## Labels -/

/-- The seconds in the unit that a period is shown in, and the letter of the unit. -/
inductive InUnit (s : Nat) : Nat → Char → Prop
  | days : 129600 < s → InUnit s 86400 'd'
  | hours : 5400 < s → s ≤ 129600 → InUnit s 3600 'h'
  | minutes : s ≤ 5400 → InUnit s 60 'm'

theorem inUnit_scale (s : Nat) : InUnit s (scale s).seconds (scale s).letter := by
  unfold scale
  by_cases days : 129600 < s
  · rw [if_pos days]
    exact .days days
  · by_cases hours : 5400 < s
    · rw [if_neg days, if_pos hours]
      exact .hours hours (Nat.le_of_not_lt days)
    · rw [if_neg days, if_neg hours]
      exact .minutes (Nat.le_of_not_lt hours)

theorem Scale.seconds_pos (unit : Scale) : 0 < unit.seconds := by
  cases unit <;> decide

theorem text_shown_mul (k : Nat) : (shown (100 * k)).text = Text.decimal k := by
  have hundredth : 100 * k % 10 = 0 := by omega
  have tenth : 100 * k / 10 % 10 = 0 := by omega
  rw [← amount_eq, amount, hundredth, tenth, Nat.mul_div_cancel_left k (by decide)]
  rfl

/-- A whole number of units is written as its hundredths would be. -/
theorem label_eq {s : Nat} (small : s < 2 ^ 32) :
    (label s).toList =
      (shown (Rounding.hundredths s (scale s).seconds)).text ++ [(scale s).letter] := by
  have positive := (scale s).seconds_pos
  have near := Rounding.near_hundredths positive small
  unfold label
  rw [String.toList_ofList]
  generalize Rounding.hundredths s (scale s).seconds = h at near ⊢
  refine congrArg (· ++ [(scale s).letter]) ?_
  by_cases whole : s % (scale s).seconds = 0
  · obtain ⟨k, units⟩ := Nat.dvd_of_mod_eq_zero whole
    have product := near.eq_of_dvd positive (Dvd.dvd.mul_left ⟨k, units⟩ 100)
    have hundred : h = 100 * k := by
      refine Nat.eq_of_mul_eq_mul_right positive ?_
      rw [← product, Nat.mul_assoc, Nat.mul_comm k, ← units]
    have quotient : s / (scale s).seconds = k := Nat.div_eq_of_eq_mul_right positive units
    rw [if_pos whole, quotient, hundred, text_shown_mul]
  · rw [if_neg whole, amount_eq]

section
variable {s unit h : Nat}

theorem abs_value_shown_sub_le (near : Rounding.Near (100 * s) unit h) (positive : 0 < unit) :
    |(shown h).value - s / unit| ≤ 1 / 200 := by
  have bound := near.abs_sub_le positive
  have scaled : (shown h).value - s / unit = ((h : ℚ) - (100 * s : ℕ) / unit) / 100 := by
    rw [value_shown]
    push_cast
    ring
  have hundred : |(100 : ℚ)| = 100 := abs_of_pos (by norm_num)
  rw [scaled, abs_div, hundred]
  linarith

theorem value_shown_eq_of_dvd (near : Rounding.Near (100 * s) unit h) (positive : 0 < unit)
    (whole : unit ∣ 100 * s) : (shown h).value = s / unit := by
  have product : (100 * s : ℚ) = h * unit := by exact_mod_cast near.eq_of_dvd positive whole
  have nonzero : (unit : ℚ) ≠ 0 := by exact_mod_cast positive.ne'
  rw [value_shown, div_eq_div_iff (by norm_num) nonzero, ← product, mul_comm]

end

/-- The label of a period is a tidy numeral and the letter of its unit. The numeral is no further
than half a hundredth from the number of units, and equal to it if hundredths can say it. It is
what is left of the two decimal places `h`, the only ones that are nearest to the 53 bits `q` of the
quotient. -/
theorem label_shows (s : UInt32) :
    ∃ (unit : Nat) (letter : Char) (n : Numeral) (q : Rounding.Binary) (h : Nat),
      InUnit s.toNat unit letter ∧
        (label s.toNat).toList = n.text ++ [letter] ∧
        n.Tidy ∧
        |n.value - s.toNat / unit| ≤ 1 / 200 ∧
        (unit ∣ 100 * s.toNat → n.value = s.toNat / unit) ∧
        Rounding.Significant s.toNat unit q ∧
        (∀ m, Rounding.Nearest (100 * q.significand) (2 ^ q.shift) m ↔ m = h) ∧
        n.text = trimmed (twoPlaces h) := by
  have small : s.toNat < 2 ^ 32 := s.toNat_lt
  have positive := (scale s.toNat).seconds_pos
  have near := Rounding.near_hundredths positive small
  have bits := Rounding.binary_significant positive (Rounding.log2_le_of_small small)
  exact ⟨_, _, shown (Rounding.hundredths s.toNat (scale s.toNat).seconds), _, _,
    inUnit_scale s.toNat, label_eq small, tidy_shown _, abs_value_shown_sub_le near positive,
    value_shown_eq_of_dvd near positive, bits, fun _ => Rounding.hundredths_nearest_iff,
    text_shown _⟩

example : label 100 = "1.67m" := by decide

end Period

end Coupling

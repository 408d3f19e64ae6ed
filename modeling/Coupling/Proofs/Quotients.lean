import Coupling.Rounding
import Mathlib.Algebra.Order.Field.Rat
import Mathlib.Algebra.Order.Field.Basic
import Mathlib.Tactic.Linarith
import Mathlib.Tactic.Ring

/-!
# Quotients in hundredths

A quotient is rounded twice before it is shown, first to 53 significant bits and then to hundredths.
Everything is said about natural numbers, products on both sides taking the place of quotients:

* `Rounding.Near` allows an error of one half, and `Rounding.Nearest` is the integer that is meant
  by it, the even one where there are two. There is only one, and `halfEven` finds it
  (`nearest_iff`);
* `Rounding.Significant` says what the 53 bits of a quotient are. `binary` has them as long as the
  quotient does not exceed them (`binary_significant`);
* `near_hundredths`: the first rounding is so fine that the second is still off by one half at most.
-/

namespace Coupling.Rounding

variable {num den m n : Nat}

/-- `n` is no further than one half from `num / den`. -/
structure Near (num den n : Nat) : Prop where
  below : 2 * n * den ≤ 2 * num + den
  above : 2 * num ≤ (2 * n + 1) * den

/-- No integer is nearer to `num / den` than `n`, which is even if another one is as near. -/
structure Nearest (num den n : Nat) : Prop extends Near num den n where
  tie : 2 * n * den = 2 * num + den ∨ 2 * num = (2 * n + 1) * den → n % 2 = 0

/-- A whole quotient is not rounded at all. -/
theorem Near.eq_of_dvd (h : Near num den n) (positive : 0 < den) (whole : den ∣ num) :
    num = n * den := by
  obtain ⟨k, rfl⟩ := whole
  have below : 2 * n ≤ 2 * k + 1 := Nat.le_of_mul_le_mul_right (by linarith [h.below]) positive
  have above : 2 * k ≤ 2 * n + 1 := Nat.le_of_mul_le_mul_right (by linarith [h.above]) positive
  obtain rfl : k = n := by omega
  exact Nat.mul_comm den k

/-- The bounds as a distance from the quotient. -/
theorem Near.abs_sub_le (h : Near num den n) (positive : 0 < den) :
    |(n : ℚ) - num / den| ≤ 1 / 2 := by
  have below : (2 * n * den : ℚ) ≤ 2 * num + den := by exact_mod_cast h.below
  have above : (2 * num : ℚ) ≤ (2 * n + 1) * den := by exact_mod_cast h.above
  have nonneg : (0 : ℚ) < den := by exact_mod_cast positive
  rw [abs_le]
  constructor
  · have : (num : ℚ) / den ≤ n + 1 / 2 := by
      rw [div_le_iff₀ nonneg]
      linarith
    linarith
  · have : (n : ℚ) - 1 / 2 ≤ num / den := by
      rw [le_div_iff₀ nonneg]
      linarith
    linarith

theorem Nearest.le (h : Nearest num den m) (h' : Nearest num den n) (positive : 0 < den) :
    m ≤ n := by
  by_contra more
  have close : 2 * m ≤ 2 * n + 2 :=
    Nat.le_of_mul_le_mul_right (by linarith [h.below, h'.above]) positive
  obtain rfl : m = n + 1 := by omega
  -- the quotient is in the middle of two neighbours, and only one of these is even
  have even := h.tie (.inl (by linarith [h.below, h'.above]))
  have even' := h'.tie (.inr (by linarith [h.below, h'.above]))
  omega

theorem Nearest.unique (h : Nearest num den m) (h' : Nearest num den n) (positive : 0 < den) :
    m = n :=
  Nat.le_antisymm (h.le h' positive) (h'.le h positive)

theorem halfEven_nearest (num : Nat) (positive : 0 < den) :
    Nearest num den (halfEven num den) := by
  have split : num = num / den * den + num % den := by rw [Nat.mul_comm, Nat.div_add_mod]
  have small := Nat.mod_lt num positive
  unfold halfEven
  generalize num / den = q at *
  generalize num % den = r at *
  subst split
  by_cases less : 2 * r < den
  · simp only [less, if_true]
    constructor
    · constructor <;> linarith
    · rintro (half | half) <;> linarith
  · by_cases more : den < 2 * r
    · simp only [less, more, if_true, if_false]
      constructor
      · constructor <;> linarith
      · rintro (half | half) <;> linarith
    · simp only [less, more, if_false]
      obtain rfl : den = 2 * r := by omega
      have even : (q + q % 2) % 2 = 0 := by omega
      rcases Nat.mod_two_eq_zero_or_one q with parity | parity
      all_goals
        rw [parity] at even ⊢
        constructor
        · constructor <;> linarith
        · exact fun _ => even

theorem nearest_iff (positive : 0 < den) : Nearest num den n ↔ n = halfEven num den := by
  constructor
  · intro h
    exact h.unique (halfEven_nearest num positive) positive
  · rintro rfl
    exact halfEven_nearest num positive

/-! ## Significant bits -/

/-- `q` is `num / den` with 53 significant bits, the last one rounded. -/
structure Significant (num den : Nat) (q : Binary) : Prop where
  lower : num ≠ 0 → 2 ^ 52 * den ≤ num * 2 ^ q.shift
  upper : num * 2 ^ q.shift < 2 ^ 53 * den
  nearest : Nearest (num * 2 ^ q.shift) den q.significand

/-- By their lengths in bits, the shifted quotient has 52 or 53 bits, and then it is shifted by one
more if it has 52. -/
theorem shift_bounds (positive : 0 < den) (fits : num.log2 ≤ 52 + den.log2) :
    (num ≠ 0 → 2 ^ 52 * den ≤ num * 2 ^ shift num den) ∧
      num * 2 ^ shift num den < 2 ^ 53 * den := by
  obtain ⟨e, length⟩ := Nat.exists_eq_add_of_le fits
  have exponent : 52 + den.log2 - num.log2 = e := by omega
  have denLower : 2 ^ den.log2 ≤ den := Nat.log2_self_le positive.ne'
  have denUpper : den < 2 ^ (den.log2 + 1) := Nat.lt_log2_self
  have numUpper : num < 2 ^ (num.log2 + 1) := Nat.lt_log2_self
  have upper : num * 2 ^ e < 2 ^ 53 * den := calc
    num * 2 ^ e < 2 ^ (num.log2 + 1) * 2 ^ e := Nat.mul_lt_mul_of_pos_right numUpper (by positivity)
    _ = 2 ^ 53 * 2 ^ den.log2 := by rw [← pow_add, ← pow_add]; congr 1; omega
    _ ≤ 2 ^ 53 * den := Nat.mul_le_mul_left _ denLower
  have lower (nonzero : num ≠ 0) : 2 ^ 51 * den ≤ num * 2 ^ e := calc
    2 ^ 51 * den ≤ 2 ^ 51 * 2 ^ (den.log2 + 1) := Nat.mul_le_mul_left _ denUpper.le
    _ = 2 ^ num.log2 * 2 ^ e := by rw [← pow_add, ← pow_add]; congr 1; omega
    _ ≤ num * 2 ^ e := Nat.mul_le_mul_right _ (Nat.log2_self_le nonzero)
  unfold shift
  simp only [exponent, Nat.shiftLeft_eq]
  by_cases short : num * 2 ^ e < den * 2 ^ 52
  · rw [if_pos short, pow_succ 2 e, ← Nat.mul_assoc]
    exact ⟨fun nonzero => by linarith [lower nonzero], by linarith⟩
  · rw [if_neg short]
    exact ⟨fun _ => by linarith, upper⟩

/-- Any shift within these bounds will do. -/
theorem significant_of_bounds (positive : 0 < den) {e : Nat}
    (lower : num ≠ 0 → 2 ^ 52 * den ≤ num * 2 ^ e) (upper : num * 2 ^ e < 2 ^ 53 * den) :
    Significant num den ⟨halfEven (num * 2 ^ e) den, e⟩ :=
  ⟨lower, upper, halfEven_nearest (num * 2 ^ e) positive⟩

theorem binary_significant (positive : 0 < den) (fits : num.log2 ≤ 52 + den.log2) :
    Significant num den (binary num den) := by
  obtain ⟨lower, upper⟩ := shift_bounds positive fits
  simp only [binary, Nat.shiftLeft_eq]
  exact significant_of_bounds positive lower upper

/-! ## Hundredths -/

/-- Rounding twice is as good as rounding once if the first rounding is a hundred times finer. -/
theorem Near.of_scaled {scale : Nat} (first : Near (num * scale) den m)
    (second : Near (100 * m) scale n) (fine : 100 * den < scale) : Near (100 * num) den n := by
  have positive : 0 < scale := by omega
  constructor
  · have scaled : 2 * n * den * scale < (2 * (100 * num) + den + 1) * scale := calc
      2 * n * den * scale = 2 * n * scale * den := by ring
      _ ≤ (2 * (100 * m) + scale) * den := Nat.mul_le_mul_right den second.below
      _ = 100 * (2 * m * den) + scale * den := by ring
      _ ≤ 100 * (2 * (num * scale) + den) + scale * den := by linarith [first.below]
      _ < 100 * (2 * (num * scale)) + scale + scale * den := by linarith
      _ = (2 * (100 * num) + den + 1) * scale := by ring
    exact Nat.le_of_lt_succ (Nat.lt_of_mul_lt_mul_right scaled)
  · have scaled : 2 * (100 * num) * scale < ((2 * n + 1) * den + 1) * scale := calc
      2 * (100 * num) * scale = 100 * (2 * (num * scale)) := by ring
      _ ≤ 100 * ((2 * m + 1) * den) := by linarith [first.above]
      _ = 2 * (100 * m) * den + 100 * den := by ring
      _ ≤ (2 * n + 1) * scale * den + 100 * den := by
        linarith [Nat.mul_le_mul_right den second.above]
      _ < (2 * n + 1) * scale * den + scale := by linarith
      _ = ((2 * n + 1) * den + 1) * scale := by ring
    exact Nat.le_of_lt_succ (Nat.lt_of_mul_lt_mul_right scaled)

/-- The hundredths of a quotient are the only ones nearest to its 53 bits. -/
theorem hundredths_nearest_iff : Nearest (100 * (binary num den).significand)
    (2 ^ (binary num den).shift) n ↔ n = hundredths num den := by
  rw [nearest_iff (by positivity), hundredths]
  simp only [Nat.shiftLeft_eq, Nat.one_mul]

theorem log2_lt_of_small (small : num < 2 ^ 32) : num.log2 < 32 := by
  by_cases zero : num = 0
  · simp [zero]
  · exact (Nat.log2_lt zero).2 small

theorem log2_le_of_small (small : num < 2 ^ 32) : num.log2 ≤ 52 + den.log2 := by
  have := log2_lt_of_small small
  omega

/-- The shift of a quotient of 32 bits leaves more than two decimal places. -/
theorem fine_shift (small : num < 2 ^ 32) : 100 * den < 2 ^ (binary num den).shift := by
  have length := log2_lt_of_small small
  have least : 21 + den.log2 ≤ (binary num den).shift := by
    unfold binary shift
    dsimp only
    split <;> omega
  have denUpper : den < 2 ^ (den.log2 + 1) := Nat.lt_log2_self
  calc
    100 * den < 2 ^ 7 * 2 ^ (den.log2 + 1) := by omega
    _ = 2 ^ (8 + den.log2) := by rw [← pow_add]; congr 1; omega
    _ ≤ 2 ^ (binary num den).shift := Nat.pow_le_pow_right (by decide) (by omega)

theorem near_hundredths (positive : 0 < den) (small : num < 2 ^ 32) :
    Near (100 * num) den (hundredths num den) := by
  have first := (binary_significant positive (log2_le_of_small small)).nearest
  have second : Nearest _ _ (hundredths num den) := hundredths_nearest_iff.2 rfl
  exact first.toNear.of_scaled second.toNear (fine_shift small)

end Coupling.Rounding

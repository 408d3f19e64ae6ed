import Coupling.Proofs.Spelling
import Coupling.Proofs.Words

/-!
# Names of levels between colons

The names of the levels are joined by colons, and nothing is lost in this where the name that they
come from has none:

* `Text.IsPadded` is a numeral filled up to a width, said without the function that writes it. There
  is one for each number (`IsPadded.eq_padded`);
* `levelName_injective`: no two levels share a name, since a numeral is never empty and tells its
  number at any width;
* `NamesLevels` says which names a number of levels has;
* `levelNames_between_colons`: the joined names are these names, so they tell the name that they
  come from and the number of the levels, and fewer levels have the first of the names of more.
-/

namespace Coupling

namespace Text

/-! ## Numerals of a width -/

/-- A numeral of at least `width` digits, which has more of them only if the number needs them. -/
structure IsPadded (width : Nat) (s : List Char) (n : Nat) : Prop extends Numeral s n where
  wide : width ≤ s.length
  needed : width < s.length → s.head? ≠ some '0'

theorem decimal_head_ne_zero {n : Nat} (long : 1 < (decimal n).length) :
    (decimal n).head? ≠ some '0' := by
  by_cases positive : 0 < n
  · obtain ⟨c, digits, first, nonzero⟩ := head_decimal positive
    rw [first, List.head?_cons, ne_eq, Option.some.injEq]
    exact nonzero
  · obtain rfl : n = 0 := by omega
    exact absurd long (by decide)

theorem padded_eq_decimal {width n : Nat} (long : width ≤ (decimal n).length) :
    padded width n = decimal n := by
  have unfilled : width - (decimal n).length = 0 := by omega
  rw [padded_eq, unfilled, List.replicate_zero, List.nil_append]

theorem padded_head_of_short {width n : Nat} (short : (decimal n).length < width) :
    (padded width n).head? = some '0' := by
  obtain ⟨k, zeros⟩ : ∃ k, width - (decimal n).length = k + 1 :=
    ⟨width - (decimal n).length - 1, by omega⟩
  rw [padded_eq, zeros, List.replicate_succ, List.cons_append, List.head?_cons]

theorem isPadded_padded {width : Nat} (places : 0 < width) (n : Nat) :
    IsPadded width (padded width n) n := by
  have wide := length_padded width n
  constructor
  · exact digits?_eq_some_iff.1 (digits_padded width n)
  · omega
  · intro longer
    have long : width < (decimal n).length := by omega
    rw [padded_eq_decimal (Nat.le_of_lt long)]
    apply decimal_head_ne_zero
    omega

/-- Width and number determine the numeral. -/
theorem IsPadded.eq_padded {width n : Nat} {s : List Char} (h : IsPadded width s n) :
    s = padded width n := by
  have again := padded_of_digits? (digits?_eq_some_iff.2 h.toNumeral)
  have wide := h.wide
  by_cases longer : width < s.length
  · by_cases short : (decimal n).length < s.length
    · have zero : s.head? = some '0' := by
        rw [← again]
        exact padded_head_of_short short
      exact absurd zero (h.needed longer)
    · rw [padded_eq_decimal (by omega)] at again
      rw [padded_eq_decimal (by omega), again]
  · have same : s.length = width := by omega
    rw [← same, again]

/-! ## Pieces between separators -/

theorem splitFrom_eq_splitOn (sep : Char) (piece s : List Char) :
    splitFrom sep piece s = (s.splitOn sep).modifyHead (piece.reverse ++ ·) := by
  induction s generalizing piece with
  | nil => simp [splitFrom]
  | cons c s ih =>
    obtain ⟨first, rest, pieces⟩ := List.exists_cons_of_ne_nil (List.splitOn_ne_nil sep s)
    rw [splitFrom, List.splitOn, List.splitOnP_cons_eq_if_modifyHead, ← List.splitOn, ih, ih, pieces]
    by_cases same : c = sep
    · simp [same]
    · simp [same]

theorem split_eq_splitOn (sep : Char) (s : List Char) : split sep s = s.splitOn sep := by
  obtain ⟨first, rest, pieces⟩ := List.exists_cons_of_ne_nil (List.splitOn_ne_nil sep s)
  rw [split, splitFrom_eq_splitOn, pieces]
  rfl

end Text

/-! ## The names of the levels -/

theorem levelName_injective (base : List Char) : Function.Injective (levelName base) := by
  -- The bare name may end in digits itself, so only the lengths tell it from a numbered one.
  have filled (level : Nat) : base ≠ base ++ Text.padded 3 level := by
    intro same
    have lengths := congrArg List.length same
    have := Text.length_padded 3 level
    rw [List.length_append] at lengths
    omega
  intro level level' same
  unfold levelName at same
  by_cases first : level = 1 <;> by_cases first' : level' = 1
  · rw [first, first']
  · rw [if_pos first, if_neg first'] at same
    exact absurd same (filled level')
  · rw [if_neg first, if_pos first'] at same
    exact absurd same.symm (filled level)
  · rw [if_neg first, if_neg first'] at same
    exact Text.padded_injective (List.append_cancel_left same)

/-- The names of a number of levels: the bare name for the first level, and for each level after it
the name with the number of the level in three digits or more. -/
structure NamesLevels (base : String) (count : Nat) (names : List String) : Prop where
  length : names.length = count
  first : names.head? = some base
  later : ∀ level, 2 ≤ level → level ≤ count → ∃ number, Text.IsPadded 3 number level ∧
    names[level - 1]? = some (base ++ String.ofList number)

theorem namesLevels_namesOfLevels (base : String) (levels : UInt32) :
    NamesLevels base (max levels.toNat 1) (namesOfLevels base levels) := by
  constructor
  · exact length_namesOfLevels base levels
  · obtain ⟨others, names⟩ := namesOfLevels_eq_cons base levels
    rw [names, List.head?_cons]
  · intro level upper listed
    have index : level - 1 < max levels.toNat 1 := by omega
    have number : level - 1 + 1 = level := by omega
    refine ⟨Text.padded 3 level, Text.isPadded_padded (by decide) level, ?_⟩
    rw [namesOfLevels, List.getElem?_map, List.getElem?_range index, Option.map_some, number,
      levelName, if_neg (by omega), String.ofList_append, String.ofList_toList]

theorem nodup_namesOfLevels (base : String) (levels : UInt32) :
    (namesOfLevels base levels).Nodup := by
  apply List.Nodup.map _ List.nodup_range
  intro i j same
  have names := levelName_injective base.toList (String.ofList_injective same)
  omega

/-- The names of fewer levels come first among those of more. -/
theorem namesOfLevels_prefix (base : String) {levels more : UInt32} (fewer : levels ≤ more) :
    namesOfLevels base levels <+: namesOfLevels base more := by
  have fewer : levels.toNat ≤ more.toNat := fewer
  have shorter : min (max levels.toNat 1) (max more.toNat 1) = max levels.toNat 1 := by omega
  apply List.IsPrefix.map
  rw [← shorter, ← List.take_range]
  exact List.take_prefix _ _

theorem splitAt_levelNames {base : String} (h : ':' ∉ base.toList) (levels : UInt32) :
    Text.splitAt ':' (levelNames base levels) = namesOfLevels base levels := by
  have pieces : Text.namesBetween (levelNames base levels).toList =
      (namesOfLevels base levels).map String.toList := namesBetween_levelNames h
  rw [Text.namesBetween, ← Text.split_eq_splitOn] at pieces
  rw [Text.splitAt, pieces, List.map_map]
  exact List.map_id'' (fun _ => String.ofList_toList) _

/-- Between the colons of the joined names stand the names of the levels, no two of them the same.
They tell the name that they come from and the number of the levels, and more levels only add names
behind them. -/
theorem levelNames_between_colons {base : String} (h : ':' ∉ base.toList) (levels : UInt32) :
    NamesLevels base (max levels.toNat 1) (Text.splitAt ':' (levelNames base levels)) ∧
      (Text.splitAt ':' (levelNames base levels)).Nodup ∧
      (∀ (other : String) (count : UInt32), ':' ∉ other.toList → 0 < levels → 0 < count →
        levelNames base levels = levelNames other count → base = other ∧ levels = count) ∧
      ∀ more : UInt32, levels ≤ more →
        Text.splitAt ':' (levelNames base levels) <+: Text.splitAt ':' (levelNames base more) := by
  refine ⟨?_, ?_, ?_, ?_⟩
  · rw [splitAt_levelNames h]
    exact namesLevels_namesOfLevels base levels
  · rw [splitAt_levelNames h]
    exact nodup_namesOfLevels base levels
  · intro other count h' positive positive' same
    have names : namesOfLevels base levels = namesOfLevels other count := by
      rw [← splitAt_levelNames h, same, splitAt_levelNames h']
    have named := namesLevels_namesOfLevels base levels
    have named' := namesLevels_namesOfLevels other count
    rw [← names] at named'
    constructor
    · exact Option.some.inj (named.first.symm.trans named'.first)
    · have counts := named.length.symm.trans named'.length
      have positive : 0 < levels.toNat := positive
      have positive' : 0 < count.toNat := positive'
      apply UInt32.toNat_inj.1
      omega
  · intro more fewer
    rw [splitAt_levelNames h, splitAt_levelNames h]
    exact namesOfLevels_prefix base fewer

/-- The thousandth level of a name that ends in digits has four digits of its own. -/
theorem levelNames_between_colons_thousand :
    ':' ∉ "A08002".toList ∧
      (Text.splitAt ':' (levelNames "A08002" 1000)).length = 1000 ∧
      (Text.splitAt ':' (levelNames "A08002" 1000))[999]? = some "A080021000" ∧
      Text.splitAt ':' (levelNames "A08002" 3) = ["A08002", "A08002002", "A08002003"] ∧
      Text.splitAt ':' (levelNames "A08002" 3) <+: Text.splitAt ':' (levelNames "A08002" 1000) := by
  have bare : ':' ∉ "A08002".toList := by decide
  obtain ⟨named, -, -, -⟩ := levelNames_between_colons bare 1000
  obtain ⟨-, -, -, more⟩ := levelNames_between_colons bare 3
  obtain ⟨number, padded, last⟩ := named.later 1000 (by decide) (by decide)
  have digits : number = ['1', '0', '0', '0'] := padded.eq_padded
  rw [digits] at last
  exact ⟨bare, named.length, last, by decide, more 1000 (by decide)⟩

end Coupling

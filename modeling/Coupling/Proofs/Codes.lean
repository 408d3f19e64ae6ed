import Coupling.Proofs.Header
import Coupling.Stash.Code
import Mathlib.Data.List.Induction

/-!
# Numerals of a width and labels

Numbers are padded with zeros to the width of a label, and a longer number keeps all its digits:

* `digits_padded`: padding changes no number, so a padded numeral is read back;
* `padded_of_digits?`: digits that are read are written again in as many places, so a code is
  written as the digits that name it (`StashCode.text_of_parse?`);
* `StashCode.label_injective`: the letters of a label stand where no digit can, so a label tells
  both numbers of its code and no two codes share one;
* `CfName.lookup?_label`: a label is no name of a usual field.
-/

namespace Coupling

namespace Text

theorem padded_eq (width n : Nat) :
    padded width n = List.replicate (width - (decimal n).length) '0' ++ decimal n := rfl

theorem length_padded (width n : Nat) :
    (padded width n).length = max width (decimal n).length :=
  List.length_leftpad

theorem isDigit_of_mem_padded {width n : Nat} {c : Char} (h : c ∈ padded width n) :
    c.isDigit = true := by
  rw [padded_eq] at h
  rcases List.mem_append.1 h with zero | digit
  · rw [List.eq_of_mem_replicate zero]
    decide
  · exact isDigit_of_mem_decimal digit

/-- Zeros in front of a numeral do not count. -/
theorem digits_padded (width n : Nat) : digits? (padded width n) = some n := by
  have shape : padded width n ≠ [] ∧ (padded width n).all Char.isDigit = true := by
    refine ⟨?_, List.all_eq_true.2 fun _ => isDigit_of_mem_padded⟩
    rw [padded_eq]
    exact List.append_ne_nil_of_right_ne_nil _ Nat.toDigits_ne_nil
  have zeros (k : Nat) :
      (List.replicate k '0').foldl (fun n c => 10 * n + (c.toNat - '0'.toNat)) 0 = 0 := by
    induction k with
    | zero => rfl
    | succ k ih =>
      rw [List.replicate_succ, List.foldl_cons]
      exact ih
  rw [digits?, if_pos shape, padded_eq, List.foldl_append, zeros, ← Nat.ofDigitChars_eq_foldl]
  exact congrArg some Nat.ofDigitChars_ten_toDigits

theorem padded_injective {width m n : Nat} (h : padded width m = padded width n) : m = n := by
  have read := congrArg digits? h
  rw [digits_padded, digits_padded] at read
  exact Option.some.inj read

theorem not_mem_padded {width n : Nat} {c : Char} (h : c.isDigit = false) :
    c ∉ padded width n := by
  intro member
  rw [isDigit_of_mem_padded member] at h
  cases h

/-- One more digit at the end needs one more place. -/
theorem padded_succ {width m d : Nat} (places : 0 < width) (digit : d < 10) :
    padded (width + 1) (10 * m + d) = padded width m ++ [d.digitChar] := by
  have last : decimal d = [d.digitChar] := Nat.toDigits_of_lt_base digit
  rw [padded_eq, padded_eq]
  by_cases zero : m = 0
  · subst zero
    obtain ⟨width, rfl⟩ := Nat.exists_eq_add_one.2 places
    rw [Nat.mul_zero, Nat.zero_add, last, decimal, Nat.toDigits_zero, List.length_singleton,
      List.length_singleton, Nat.add_sub_cancel, Nat.add_sub_cancel, ← List.replicate_succ']
  · have split : decimal (10 * m + d) = decimal m ++ [d.digitChar] := by
      rw [← last]
      exact (Nat.toDigits_append_toDigits (by decide) (Nat.pos_of_ne_zero zero) digit).symm
    rw [split, List.length_append, List.length_singleton, Nat.add_sub_add_right,
      List.append_assoc]

theorem exists_digitChar {c : Char} (h : c.isDigit = true) : ∃ d < 10, d.digitChar = c := by
  obtain ⟨lower, upper⟩ := bounds_of_isDigit h
  have small : c.toNat - 48 < 10 := by omega
  refine ⟨c.toNat - 48, small, Char.toNat_inj.1 ?_⟩
  rw [Nat.toNat_digitChar_of_lt_ten small]
  omega

/-- Digits are written again as they were read, leading zeros included. -/
theorem padded_of_digits? {s : List Char} {n : Nat} (h : digits? s = some n) :
    padded s.length n = s := by
  unfold digits? at h
  split at h
  · next shape =>
    obtain ⟨filled, digits⟩ := shape
    rw [← Nat.ofDigitChars_eq_foldl, Option.some.injEq] at h
    subst h
    induction s using List.reverseRecOn with
    | nil => exact absurd rfl filled
    | append_singleton s c ih =>
      rw [List.all_append, Bool.and_eq_true] at digits
      obtain ⟨d, small, rfl⟩ := exists_digitChar (c := c) (by simpa using digits.2)
      rw [Nat.ofDigitChars_append, Nat.ofDigitChars_cons_digitChar_of_lt_ten small,
        Nat.ofDigitChars_nil, List.length_append, List.length_singleton]
      by_cases empty : s = []
      · subst empty
        show List.replicate (1 - (decimal (0 + d)).length) '0' ++ decimal (0 + d) = [d.digitChar]
        rw [Nat.zero_add, decimal, Nat.toDigits_of_lt_base small]
        rfl
      · rw [padded_succ (List.length_pos_iff.2 empty) small, ih empty digits.1]
  · cases h

theorem length_decimal_le {s : List Char} {n : Nat} (h : digits? s = some n) :
    (decimal n).length ≤ s.length := by
  have written := congrArg List.length (padded_of_digits? h)
  rw [padded_eq, List.length_append, List.length_replicate] at written
  omega

end Text

namespace StashCode

/-- The digits of a code are written as they were read. -/
theorem text_of_parse? {digits : String} {code : StashCode} (h : parse? digits = some code) :
    code.text = digits := by
  unfold parse? at h
  split at h
  · next a b c d e shape =>
    simp only [Option.bind_eq_bind, Option.bind_eq_some_iff] at h
    obtain ⟨sectionNo, first, itemNo, second, named⟩ := h
    obtain rfl : StashCode.mk (UInt16.ofNat sectionNo) (UInt16.ofNat itemNo) = code := by
      simpa using named
    have twoPlaces : (Text.decimal sectionNo).length ≤ 2 := Text.length_decimal_le first
    have threePlaces : (Text.decimal itemNo).length ≤ 3 := Text.length_decimal_le second
    rw [Text.decimal, Nat.length_toDigits_le_iff (by decide) (by decide)] at twoPlaces threePlaces
    have small : sectionNo < UInt16.size := Nat.lt_trans twoPlaces (by decide)
    have small' : itemNo < UInt16.size := Nat.lt_trans threePlaces (by decide)
    have sectionDigits := Text.padded_of_digits? first
    have itemDigits := Text.padded_of_digits? second
    apply String.toList_injective
    rw [text, String.toList_ofList, StashCode.sectionDigits, StashCode.itemDigits,
      UInt16.toNat_ofNat_of_lt' small, UInt16.toNat_ofNat_of_lt' small', shape]
    exact congrArg₂ (· ++ ·) sectionDigits itemDigits
  · cases h

/-- The two numerals of a code tell it, at whatever widths. -/
theorem eq_of_digits_eq {a b : StashCode} (sections : a.sectionDigits = b.sectionDigits)
    (items : a.itemDigits = b.itemDigits) : a = b := by
  obtain ⟨sectionNo, itemNo⟩ := a
  obtain ⟨sectionNo', itemNo'⟩ := b
  obtain rfl := UInt16.toNat_inj.1 (Text.padded_injective sections)
  obtain rfl := UInt16.toNat_inj.1 (Text.padded_injective items)
  rfl

theorem toList_label (code : StashCode) :
    code.label.toList =
      'm' :: '0' :: '1' :: 's' :: (code.sectionDigits ++ 'i' :: code.itemDigits) := by
  simp [label]

/-- No two codes share a label. -/
theorem label_injective {a b : StashCode} (h : a.label = b.label) : a = b := by
  have tails : a.sectionDigits ++ 'i' :: a.itemDigits = b.sectionDigits ++ 'i' :: b.itemDigits := by
    have whole := congrArg String.toList h
    rw [toList_label, toList_label] at whole
    simpa only [List.cons.injEq, true_and] using whole
  have noLetter (code : StashCode) : 'i' ∉ code.sectionDigits :=
    Text.not_mem_padded (by decide)
  have sections : a.sectionDigits = b.sectionDigits := by
    have pieces := congrArg (Text.split 'i') tails
    rw [Text.split_append _ (noLetter a), Text.split_append _ (noLetter b)] at pieces
    exact (List.cons.inj pieces).1
  have items : a.itemDigits = b.itemDigits := by
    rw [sections] at tails
    exact (List.cons.inj (List.append_cancel_left tails)).2
  exact eq_of_digits_eq sections items

end StashCode

/-- Labels begin with a small letter, and the names of the usual fields do not. -/
theorem CfName.lookup?_label (code : StashCode) : lookup? code.label = none := by
  have capitals : ∀ entry ∈ usual, entry.1.toList.head? ≠ some 'm' := by decide
  rw [lookup?, List.lookup_eq_none_iff]
  intro entry listed
  rw [bne_iff_ne]
  intro same
  refine capitals entry listed ?_
  rw [← same, code.toList_label]
  rfl

end Coupling

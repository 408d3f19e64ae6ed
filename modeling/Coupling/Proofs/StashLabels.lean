import Coupling.Proofs.Codes
import Coupling.Proofs.HybridFields

/-!
# Digits and labels of STASH codes

A code is read from five digits and is written in five or more:

* `StashCode.length_text_eq_five_iff`: two digits hold a section up to 99 and three an item up to
  999. A number beyond that is written with all its digits, and the text gets too long to be read;
* `StashCode.eq_of_text_eq`: where the text has five digits, it tells where the item begins. So a
  code is read back exactly if its numbers fit (`StashCode.parse?_text`);
* `Field.cfKey_eq_label`: the key of a field with a code is the label of the code, in which a
  letter stands between the numbers whatever their widths are;
* `StashCode.parse?_text_and_label` puts these together.
-/

namespace Coupling

namespace StashCode

theorem toList_text (code : StashCode) :
    code.text.toList = code.sectionDigits ++ code.itemDigits := by
  rw [text, String.toList_ofList]

theorem length_sectionDigits (code : StashCode) :
    code.sectionDigits.length = max 2 (Text.decimal code.sectionNo.toNat).length :=
  Text.length_padded 2 _

theorem length_itemDigits (code : StashCode) :
    code.itemDigits.length = max 3 (Text.decimal code.itemNo.toNat).length :=
  Text.length_padded 3 _

theorem length_text_eq_five_iff {code : StashCode} :
    code.text.toList.length = 5 ↔ code.sectionNo.toNat ≤ 99 ∧ code.itemNo.toNat ≤ 999 := by
  have two : (Text.decimal code.sectionNo.toNat).length ≤ 2 ↔ code.sectionNo.toNat < 100 :=
    Nat.length_toDigits_le_iff (by decide) (by decide)
  have three : (Text.decimal code.itemNo.toNat).length ≤ 3 ↔ code.itemNo.toNat < 1000 :=
    Nat.length_toDigits_le_iff (by decide) (by decide)
  rw [toList_text, List.length_append, length_sectionDigits, length_itemDigits]
  omega

theorem isDigit_of_mem_text {code : StashCode} {c : Char} (h : c ∈ code.text.toList) :
    c.isDigit = true := by
  rw [toList_text] at h
  rcases List.mem_append.1 h with h | h
  · exact Text.isDigit_of_mem_padded h
  · exact Text.isDigit_of_mem_padded h

/-- Of five digits the first two are the section. -/
theorem eq_of_text_eq {a b : StashCode} (same : a.text = b.text)
    (five : a.text.toList.length = 5) : a = b := by
  have five' : b.text.toList.length = 5 := by rw [← same, five]
  have whole := congrArg String.toList same
  rw [toList_text, List.length_append] at five five'
  rw [toList_text, toList_text] at whole
  -- Two and three are the least widths, so neither part can be longer.
  have two : a.sectionDigits.length = b.sectionDigits.length := by
    have := a.length_sectionDigits
    have := a.length_itemDigits
    have := b.length_sectionDigits
    have := b.length_itemDigits
    omega
  obtain ⟨sections, items⟩ := List.append_inj whole two
  exact eq_of_digits_eq sections items

theorem exists_parse?_text_iff {digits : String} :
    (∃ code, parse? digits = some code) ↔
      digits.toList.length = 5 ∧ ∀ c ∈ digits.toList, c.isDigit = true := by
  rw [← exists_parse?_iff, String.ofList_toList]

theorem parse?_text (code : StashCode) :
    parse? code.text =
      if code.sectionNo.toNat ≤ 99 ∧ code.itemNo.toNat ≤ 999 then some code else none := by
  by_cases fits : code.sectionNo.toNat ≤ 99 ∧ code.itemNo.toNat ≤ 999
  · have five := length_text_eq_five_iff.2 fits
    obtain ⟨read, parsed⟩ := exists_parse?_text_iff.2 ⟨five, fun _ => isDigit_of_mem_text⟩
    have same : code = read := eq_of_text_eq (text_of_parse? parsed).symm five
    rw [if_pos fits, parsed, same]
  · rw [if_neg fits]
    cases parsed : parse? code.text with
    | none => rfl
    | some read =>
      obtain ⟨five, -⟩ := exists_parse?_text_iff.1 ⟨read, parsed⟩
      exact absurd (length_text_eq_five_iff.1 five) fits

end StashCode

section
variable {f g : Field} {ctx ctx' : RunContext} {lookup lookup' : StashCode → Except Error StashEntry}
  {r s : Resolved} {a b : StashCode}

/-- Only hybrid fields have a code, and its label is their key. -/
theorem Field.cfKey_eq_label (h : (f.resolveWith ctx lookup).result = .ok r)
    (code : r.names.stash = some a) : r.names.cfKey = a.label := by
  by_cases hybrid : f.hybrid = true
  · rw [resolveWith, if_pos hybrid, Logged.result_of] at h
    obtain ⟨dest, named, entry, kind, extent, -, -, -, -, rfl⟩ := resolveHybrid_eq_ok_iff.1 h
    obtain rfl : named = a := Option.some.inj code
    rfl
  · rw [resolveWith, if_neg hybrid, resolveTagged_result] at h
    obtain rfl : f.tagged = r := by simpa using h
    cases code

theorem Field.cfKey_eq_iff (h : (f.resolveWith ctx lookup).result = .ok r)
    (h' : (g.resolveWith ctx' lookup').result = .ok s) (code : r.names.stash = some a)
    (code' : s.names.stash = some b) : r.names.cfKey = s.names.cfKey ↔ a = b := by
  rw [cfKey_eq_label h code, cfKey_eq_label h' code']
  constructor
  · exact StashCode.label_injective
  · exact congrArg StashCode.label

end

/-- Exactly the texts of five digits are read, and each is what the code that it names is written
as. A code is read back if its section has two digits at most and its item three, and refused
otherwise. No two codes share a label, whatever their widths are, and no two fields with different
codes share a key, in any runs and with any catalogues. -/
theorem StashCode.parse?_text_and_label :
    (∀ digits : String, (∃ code, parse? digits = some code) ↔
      digits.toList.length = 5 ∧ ∀ c ∈ digits.toList, c.isDigit = true) ∧
      (∀ (digits : String) (code : StashCode), parse? digits = some code → code.text = digits) ∧
      (∀ code : StashCode, parse? code.text =
        if code.sectionNo.toNat ≤ 99 ∧ code.itemNo.toNat ≤ 999 then some code else none) ∧
      Function.Injective label ∧
      ∀ (f g : Field) (ctx ctx' : RunContext) (lookup lookup' : StashCode → Except Error StashEntry)
        (r s : Resolved) (a b : StashCode), (f.resolveWith ctx lookup).result = .ok r →
          (g.resolveWith ctx' lookup').result = .ok s → r.names.stash = some a →
          s.names.stash = some b → (r.names.cfKey = s.names.cfKey ↔ a = b) := by
  refine ⟨?_, ?_, parse?_text, ?_, ?_⟩
  · intro digits
    exact exists_parse?_text_iff
  · intro digits code parsed
    exact text_of_parse? parsed
  · intro a b same
    exact label_injective same
  · intro f g ctx ctx' lookup lookup' r s a b resolved resolved' code code'
    exact Field.cfKey_eq_iff resolved resolved' code code'

-- Without the letter, two codes can share their digits.
example : (StashCode.mk 101 234).text = (StashCode.mk 10 1234).text := by decide

end Coupling

import Coupling.Text.Numeral

/-!
# STASH codes

A diagnostic of the atmosphere is identified by a section and an item number. The digits `SSIII`
name it in field names, the label `m01sSSiIII` in tables.
-/

namespace Coupling

/-- A section number and an item number. -/
structure StashCode where
  sectionNo : UInt16
  itemNo : UInt16
  deriving DecidableEq, Repr

namespace StashCode

/-- The code that exactly five digits name. -/
def parse? (digits : String) : Option StashCode :=
  match digits.toList with
  | [a, b, c, d, e] => do
    let sectionNo ← Text.digits? [a, b]
    let itemNo ← Text.digits? [c, d, e]
    return ⟨UInt16.ofNat sectionNo, UInt16.ofNat itemNo⟩
  | _ => none

/-- The section in at least two digits. -/
def sectionDigits (code : StashCode) : List Char := Text.padded 2 code.sectionNo.toNat

/-- The item in at least three digits. -/
def itemDigits (code : StashCode) : List Char := Text.padded 3 code.itemNo.toNat

def text (code : StashCode) : String := String.ofList (code.sectionDigits ++ code.itemDigits)

def label (code : StashCode) : String :=
  String.ofList (['m', '0', '1', 's'] ++ code.sectionDigits ++ 'i' :: code.itemDigits)

/-- The number that orders codes by section, then by item. -/
def rank (code : StashCode) : Nat := code.sectionNo.toNat * UInt16.size + code.itemNo.toNat

instance : Ord StashCode := ⟨compareOn rank⟩

instance : Std.TransOrd StashCode := inferInstanceAs (Std.TransCmp (compareOn rank))

theorem rank_injective {a b : StashCode} (h : a.rank = b.rank) : a = b := by
  have parts {m m' n n' : Nat} (same : m * 65536 + n = m' * 65536 + n') (small : n < 65536)
      (small' : n' < 65536) : m = m' ∧ n = n' := by omega
  obtain ⟨sections, items⟩ := parts h a.itemNo.toNat_lt b.itemNo.toNat_lt
  obtain ⟨sectionNo, itemNo⟩ := a
  obtain ⟨sectionNo', itemNo'⟩ := b
  obtain rfl : sectionNo = sectionNo' := UInt16.toNat_inj.1 sections
  obtain rfl : itemNo = itemNo' := UInt16.toNat_inj.1 items
  rfl

instance : Std.LawfulEqOrd StashCode where
  eq_of_compare {a b} h := by
    -- for any key: the rank itself would be computed with
    have equal {key : StashCode → Nat} (h : compareOn key a b = .eq) : key a = key b :=
      Std.LawfulEqOrd.eq_of_compare h
    exact rank_injective (equal h)

end StashCode

instance : ToString StashCode := ⟨StashCode.text⟩

end Coupling

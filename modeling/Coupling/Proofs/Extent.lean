import Coupling.Proofs.Outcome
import Coupling.Stash.Extent

/-!
# Extents

Which levels the markers of a catalogue entry stand for, as rules beside the look-ups:

* `Spans first last modelLevels count`: the markers of an atmosphere field enclose `count` levels;
* `Extents ctx c first last kind extent`: one rule for atmosphere fields and one each for the two
  kinds of land fields. `resolve_eq_ok_iff` says that an extent is found exactly by these rules;
* `Extents.levels_eq_zero_iff`: a field has no levels at all in one case only, the soil column of
  a component that is configured with none.
-/

namespace Coupling

theorem GridKind.ofCode_land_iff {code : Int} :
    GridKind.ofCode code = .ok .land ↔ code = 21 := by
  constructor
  · intro h
    unfold ofCode at h
    split at h
    · cases h
    · split at h
      · cases h
      · split at h
        · cases h
        · split at h
          · assumption
          · cases h
  · rintro rfl
    rfl

namespace Extent

/-- The markers enclose `count` levels, at least one and no more than 31 bits count. -/
def Spans (first last : Int) (modelLevels : UInt32) (count : Nat) : Prop :=
  ∃ low high, lowest? first = some low ∧ highest? last modelLevels = some high ∧
    (count : Int) = high - low + 1 ∧ 0 < count ∧ (count : Int) ≤ Int32.maxValue.toInt

theorem atmosphereLevels?_eq_some_iff {first last : Int} {modelLevels levels : UInt32} :
    atmosphereLevels? first last modelLevels = some levels ↔
      Spans first last modelLevels levels.toNat := by
  have top : Int32.maxValue.toInt < UInt32.size := by decide
  unfold atmosphereLevels? Spans
  cases hlow : lowest? first with
  | none => simp
  | some low =>
    cases hhigh : highest? last modelLevels with
    | none => simp
    | some high =>
      simp only [Option.bind_eq_bind, Option.bind_some, Option.some.injEq, exists_eq_left',
        exists_and_left]
      constructor
      · intro h
        split at h
        · next bounds =>
          obtain rfl := Option.some.inj h
          rw [UInt32.toNat_ofNat_of_lt' (by omega)]
          omega
        · cases h
      · rintro ⟨count, positive, bound⟩
        rw [if_pos (by omega), ← count, Int.toNat_natCast, UInt32.ofNat_toNat]

/-- The levels between two markers for a field sent by `c`: atmosphere fields count them within
the model levels, land fields have one level or the soil column. -/
inductive Extents (ctx : RunContext) (c : Component) (first last : Int) :
    GridKind → Extent → Prop
  | atmosphere {kind : GridKind} {modelLevels levels : UInt32} (above : kind ≠ .land)
      (configured : ctx.modelLevels c = .ok modelLevels)
      (spans : Spans first last modelLevels levels.toNat) :
      Extents ctx c first last kind ⟨levels, false⟩
  | surface (from_ : first = -1) (to_ : last = -1) : Extents ctx c first last .land ⟨1, false⟩
  | soil {levels : UInt32} (from_ : first = 8) (to_ : last = 9)
      (configured : ctx.soilLevels c = .ok levels) : Extents ctx c first last .land ⟨levels, true⟩

theorem ofLand_eq_ok_iff {ctx : RunContext} {c : Component} {first last : Int} {extent : Extent} :
    ofLand first last (ctx.soilLevels c) = .ok extent ↔
      Extents ctx c first last .land extent := by
  constructor
  · intro h
    unfold ofLand at h
    split at h
    · next surface =>
      cases h
      exact .surface surface.1 surface.2
    · split at h
      · next soil =>
        obtain ⟨levels, configured, rfl⟩ := by simpa only [bind_eq_ok, pure_eq_ok] using h
        exact .soil soil.1 soil.2 configured
      · cases h
  · intro h
    cases h with
    | atmosphere above => exact absurd rfl above
    | surface from_ to_ => simp [ofLand, from_, to_]
    | soil from_ to_ configured =>
      simp only [ofLand, from_, to_, configured]
      rfl

theorem resolve_eq_ok_iff {ctx : RunContext} {c : Component} {kind : GridKind} {first last : Int}
    {extent : Extent} :
    resolve kind first last c ctx = .ok extent ↔ Extents ctx c first last kind extent := by
  by_cases land : kind = .land
  · subst land
    rw [resolve, if_pos rfl, ofLand_eq_ok_iff]
  · rw [resolve, if_neg land, bind_eq_ok]
    constructor
    · rintro ⟨modelLevels, configured, h⟩
      cases counted : atmosphereLevels? first last modelLevels with
      | none => simp [counted] at h
      | some levels =>
        obtain rfl : ⟨levels, false⟩ = extent := by simpa [counted] using h
        exact .atmosphere land configured (atmosphereLevels?_eq_some_iff.1 counted)
    · intro h
      cases h with
      | atmosphere _ configured spans =>
        refine ⟨_, configured, ?_⟩
        simp only [atmosphereLevels?_eq_some_iff.2 spans]
      | surface => exact absurd rfl land
      | soil => exact absurd rfl land

/-- The markers of an atmosphere field enclose a level or have no meaning, and only the soil
column takes a configured number of levels as it is. -/
theorem Extents.levels_eq_zero_iff {ctx : RunContext} {c : Component} {kind : GridKind}
    {first last : Int} {extent : Extent} (h : Extents ctx c first last kind extent) :
    extent.levels = 0 ↔ kind = .land ∧ first = 8 ∧ last = 9 ∧ ctx.soilLevels c = .ok 0 := by
  cases h with
  | @atmosphere _ _ levels above _ spans =>
    obtain ⟨_, _, -, -, -, positive, -⟩ := spans
    have nonzero : levels ≠ 0 := by
      rintro rfl
      exact absurd positive (by decide)
    simp [nonzero, above]
  | surface from_ to_ =>
    subst from_
    simp
  | soil from_ to_ configured => simp [from_, to_, configured]

end Extent

end Coupling

import Coupling.Proofs.Outcome
import Coupling.Resolution

/-!
# Resolved fields

What resolving a field does to it:

* `resolveTagged_result`: a field without the hybrid flag always resolves, to the names that its
  tag gives and the metadata of its key;
* `resolveHybrid_eq_ok_iff`: a hybrid field resolves exactly when its ends, its code, the
  catalogue and the codes of its entry allow it;
* `Fills f r`: the resolved field `r` is `f` with grid, levels and soil flag filled in, sent under
  the name of `f`. Every field that resolves is filled in this way (`fills_of_resolveWith`).
-/

namespace Coupling

namespace Field

/-- Metadata is always found, if only the unknown entry. -/
theorem metadata_result (name key : String) :
    (metadata name key).result = .ok ((CfName.lookup? key).getD .unknown) := by
  unfold metadata
  cases CfName.lookup? key with
  | some cf => rfl
  | none => rfl

/-- What a field without the hybrid flag resolves to. -/
def tagged (f : Field) : Resolved where
  field := { f with levels := some (f.levels.getD 1), soil := some (f.soil.getD false) }
  names := {
    source := f.name
    target := counterpart f.name f.origin f.dest
    cfKey := cfKey f.name f.origin
    cf := (CfName.lookup? (cfKey f.name f.origin)).getD .unknown
    stash := none }

theorem resolveTagged_result (f : Field) : f.resolveTagged.result = .ok f.tagged := by
  simp only [resolveTagged, Logged.result_bind, metadata_result, Logged.result_pure]
  rfl

/-- What a hybrid field of a code resolves to on a kind of grid with some levels. -/
def catalogued (f : Field) (dest : Char) (code : StashCode) (entry : StashEntry)
    (kind : GridKind) (extent : Extent) : Resolved where
  field := { f with grid := kind.letter, levels := some extent.levels, soil := some extent.soil }
  names := {
    source := f.name
    target := String.ofList (dest :: code.text.toList)
    cfKey := code.label
    cf := ⟨entry.longName, CfName.unknownWord⟩
    stash := some code }

theorem resolveEntry_eq_ok_iff {f : Field} {ctx : RunContext} {dest : Char} {code : StashCode}
    {entry : StashEntry} {r : Resolved} :
    f.resolveEntry ctx dest code entry = .ok r ↔
      ∃ kind extent, GridKind.ofCode entry.grid = .ok kind ∧
        Extent.resolve kind entry.firstLevel entry.lastLevel f.origin ctx = .ok extent ∧
        r = f.catalogued dest code entry kind extent := by
  simp only [resolveEntry, bind_eq_ok, noting_eq_ok, pure_eq_ok]
  constructor
  · rintro ⟨kind, hkind, extent, hextent, rfl⟩
    exact ⟨kind, extent, hkind, hextent, rfl⟩
  · rintro ⟨kind, extent, hkind, hextent, rfl⟩
    exact ⟨kind, hkind, extent, hextent, rfl⟩

/-- A hybrid field resolves exactly when each of its look-ups succeeds. -/
theorem resolveHybrid_eq_ok_iff {f : Field} {ctx : RunContext}
    {lookup : StashCode → Except Error StashEntry} {r : Resolved} :
    f.resolveHybrid ctx lookup = .ok r ↔
      ∃ dest code entry kind extent, f.hybridParts = .ok (dest, code) ∧ lookup code = .ok entry ∧
        GridKind.ofCode entry.grid = .ok kind ∧
        Extent.resolve kind entry.firstLevel entry.lastLevel f.origin ctx = .ok extent ∧
        r = f.catalogued dest code entry kind extent := by
  simp only [resolveHybrid, bind_eq_ok, noting_eq_ok, resolveEntry_eq_ok_iff]
  constructor
  · rintro ⟨⟨dest, code⟩, hparts, entry, hentry, kind, extent, hkind, hextent, rfl⟩
    exact ⟨dest, code, entry, kind, extent, hparts, hentry, hkind, hextent, rfl⟩
  · rintro ⟨dest, code, entry, kind, extent, hparts, hentry, hkind, hextent, rfl⟩
    exact ⟨(dest, code), hparts, entry, hentry, kind, extent, hkind, hextent, rfl⟩

/-- `r` is `f` with grid, levels and soil flag filled in, sent under the name of `f`. -/
structure Fills (f : Field) (r : Resolved) : Prop where
  source : r.names.source = f.name
  field : ∃ grid levels soil,
    r.field = { f with grid := grid, levels := some levels, soil := some soil }

/-- Resolving fills a field in and changes nothing else. -/
theorem fills_of_resolveWith {f : Field} {ctx : RunContext}
    {lookup : StashCode → Except Error StashEntry} {r : Resolved}
    (h : (f.resolveWith ctx lookup).result = .ok r) : f.Fills r := by
  by_cases hybrid : f.hybrid = true
  · rw [resolveWith, if_pos hybrid, Logged.result_of] at h
    obtain ⟨dest, code, entry, kind, extent, -, -, -, -, rfl⟩ := resolveHybrid_eq_ok_iff.1 h
    exact ⟨rfl, _, _, _, rfl⟩
  · rw [resolveWith, if_neg hybrid, resolveTagged_result] at h
    obtain rfl : f.tagged = r := by simpa using h
    exact ⟨rfl, f.grid, _, _, rfl⟩

theorem Fills.origin {f : Field} {r : Resolved} (h : f.Fills r) : r.field.origin = f.origin := by
  obtain ⟨_, _, _, filled⟩ := h.field
  rw [filled]

end Field

end Coupling

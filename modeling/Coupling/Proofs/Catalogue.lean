import Coupling.Proofs.Outcome
import Coupling.Stash.Master

/-!
# Catalogues on file

When the catalogue of a run can be read, and what it then says:

* `FileReader.text_eq_ok_iff`: a file is read as a text exactly when it holds that text in UTF-8;
* `Stashmaster.load_eq_ok_iff`: a run has a catalogue exactly when its directory is configured and
  the file there is a text;
* `Stashmaster.find_eq_ok_iff`: a code is found exactly when the catalogue has an entry for it.
-/

namespace Coupling

theorem FileReader.text_eq_ok_iff {read : FileReader} {path text : String} :
    read.text path = .ok text ↔ read path = .ok text.toUTF8 := by
  unfold FileReader.text
  cases content : read path with
  | error fault => simp [bind, Except.bind]
  | ok bytes =>
    simp only [bind, Except.bind, Except.ok.injEq]
    by_cases valid : bytes.IsValidUTF8
    · have decoded : String.fromUTF8? bytes = some (String.fromUTF8 bytes valid) := dif_pos valid
      rw [decoded]
      constructor
      · rintro ⟨⟩
        rfl
      · rintro rfl
        rfl
    · have refused : String.fromUTF8? bytes = none := dif_neg valid
      rw [refused]
      constructor
      · rintro ⟨⟩
      · rintro rfl
        exact absurd text.isValidUTF8 valid

namespace Stashmaster

theorem load_eq_ok_iff {read : FileReader} {ctx : RunContext} {m : Stashmaster} :
    load read ctx = .ok m ↔
      ∃ path text, ctx.stashmasterPath = .ok path ∧ read.text path = .ok text ∧ m = parse text := by
  rw [load, bind_eq_ok]
  constructor
  · rintro ⟨path, hpath, h⟩
    cases htext : read.text path with
    | error fault => simp [htext] at h
    | ok text =>
      obtain rfl : parse text = m := by simpa [htext] using h
      exact ⟨path, text, hpath, htext, rfl⟩
  · rintro ⟨path, text, hpath, htext, rfl⟩
    refine ⟨path, hpath, ?_⟩
    simp only [htext]

theorem find_eq_ok_iff {m : Stashmaster} {code : StashCode} {entry : StashEntry} :
    m.find code = .ok entry ↔ m.entries.get? code = some entry := by
  unfold find
  cases m.entries.get? code with
  | none => simp
  | some found => simp

end Stashmaster

end Coupling

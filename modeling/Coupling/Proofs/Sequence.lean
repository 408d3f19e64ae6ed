import Coupling.Proofs.Layout
import Mathlib.Data.List.Induction
import Mathlib.Data.List.SplitBy

/-!
# Sequence numbers

The writer counts with a number and the last origin; what it counts is said here without either:

* `originRuns fields` is the number of maximal runs of fields from one origin;
* `Written.seq`: after any fields the counter stands at the number of their runs, as far as
  32 bits can hold it;
* `seq_eq_originRuns`: so the sequence number of a field is the number of runs up to it. Removed
  fields are not among the fields that are written, and so they neither end a run nor begin one.
-/

namespace Coupling

/-- The number of maximal runs of fields from one origin. -/
def originRuns (fields : List Field) : Nat :=
  ((fields.map Field.origin).splitBy (· == ·)).length

/-- One more element begins a group of its own unless it goes with the element before it. -/
theorem length_splitBy_loop_append {α : Type} (same : α → α → Bool) (l : List α) (a b : α)
    (group : List α) (groups : List (List α)) :
    (List.splitBy.loop same (l ++ [b]) a group groups).length =
      (List.splitBy.loop same l a group groups).length +
        if same ((a :: l).getLast (by simp)) b then 0 else 1 := by
  induction l generalizing a group groups with
  | nil => cases h : same a b <;> simp [List.splitBy.loop, h]
  | cons c l ih =>
    rw [List.cons_append, List.splitBy.loop, List.splitBy.loop, List.getLast_cons (by simp)]
    cases same a c with
    | true => exact ih c (a :: group) groups
    | false => exact ih c [] ((a :: group).reverse :: groups)

/-- A field continues the last run or begins the next one. -/
theorem originRuns_append (fields : List Field) (f : Field) :
    originRuns (fields ++ [f]) =
      if fields.getLast?.map Field.origin = some f.origin then originRuns fields
      else originRuns fields + 1 := by
  cases fields with
  | nil => rfl
  | cons g fields =>
    have step := length_splitBy_loop_append (· == ·) (fields.map Field.origin) g.origin f.origin [] []
    have last : ((g :: fields).getLast?).map Field.origin =
        some ((g.origin :: fields.map Field.origin).getLast (by simp)) := by
      rw [← List.getLast?_map, List.map_cons, List.getLast?_eq_some_getLast]
    simp only [originRuns, List.cons_append, List.map_cons, List.map_append, List.map_nil,
      List.splitBy, last, Option.some.injEq] at step ⊢
    rw [step]
    split <;> simp_all

/-- The runs up to a field are those up to the field before it, and one more where the origin
changes. -/
theorem originRuns_take_succ {fields : List Field} {i : Nat} {f g : Field}
    (hf : fields[i + 1]? = some f) (hg : fields[i]? = some g) :
    originRuns (fields.take (i + 2)) =
      if g.origin = f.origin then originRuns (fields.take (i + 1))
      else originRuns (fields.take (i + 1)) + 1 := by
  have last : (fields.take (i + 1)).getLast? = some g := by
    rw [List.take_add_one, hg]
    simp
  rw [List.take_add_one, hf, Option.toList_some, originRuns_append, last]
  simp

theorem originRuns_le_length (fields : List Field) : originRuns fields ≤ fields.length := by
  induction fields using List.reverseRecOn with
  | nil => exact Nat.le_refl 0
  | append_singleton fields f ih =>
    rw [originRuns_append, List.length_append, List.length_singleton]
    split <;> omega

section
variable {ctx : RunContext} {lookup : StashCode → Except Error StashEntry}

theorem Emission.Of.origin {f : Field} {e : Emission} (of : e.Of ctx lookup f) :
    e.resolved.field.origin = f.origin :=
  (Field.fills_of_resolveWith of.resolved).origin

namespace Written

theorem previous {fields : List Field} {p : Progress} (h : Written ctx lookup fields p) :
    p.previous = fields.getLast?.map Field.origin := by
  cases h with
  | start => rfl
  | next _ of => simp [Emission.after, of.origin]

/-- The counter stands at the number of runs. The induction is on the fields written so far; the
last origin is what decides whether the next field begins a run. -/
theorem seq {fields : List Field} {p : Progress} (h : Written ctx lookup fields p) :
    p.seq = UInt32.ofNat (originRuns fields) := by
  induction h with
  | start => rfl
  | @next fields f e before of ih =>
    rw [originRuns_append]
    simp only [Emission.after, Progress.seqOf, of.origin, before.previous]
    split
    · exact ih
    · rw [ih, UInt32.ofNat_add]
      rfl

end Written

theorem Emission.Of.seq {f : Field} {e : Emission} {fields : List Field} (of : e.Of ctx lookup f)
    (before : Written ctx lookup fields e.before) :
    e.summary.seq = UInt32.ofNat (originRuns (fields ++ [f])) :=
  (before.next of).seq

theorem Written.seq_summary {fields : List Field} {p : Progress}
    (h : Written ctx lookup fields p) {i : Nat} {f : Field} {s : Summary}
    (hf : fields[i]? = some f) (hs : p.summaries[i]? = some s) :
    s.seq = UInt32.ofNat (originRuns (fields.take (i + 1))) := by
  obtain ⟨e, before, of, summary, -⟩ := h.emission hf
  obtain rfl : s = e.summary := Option.some.inj (hs.symm.trans summary)
  rw [of.seq before, List.take_add_one, hf]
  rfl

/-- The sixth line of a block ends in the sequence sign and `seq`. -/
def ShowsSequence (block : String) (seq : Nat) : Prop :=
  ∃ (above : List String) (grids : String) (below : List String), above.length = 5 ∧
    block = unlines (above ++ [s!" {grids} SEQ=+{seq}"] ++ below)

theorem Field.WrittenAs.showsSequence {f : Field} {s : Summary} {block : String}
    (h : f.WrittenAs ctx lookup s block) : ShowsSequence block s.seq.toNat := by
  obtain ⟨r, g, -, -, -, -, text, -⟩ := h
  refine ⟨r.bannerLines s.numbers ++ [r.connectionLine ctx s.numbers g.transfer],
    s!"{g.sizes} {g.source} {g.target}", g.overlapLines ++ g.transfer.lines, rfl, ?_⟩
  simp [text, Resolved.lines, GridPair.lines, GridPair.sequenceLine, Summary.numbers,
    String.append_assoc]

/-- The sequence number of a written field is the number of runs of one origin among the written
fields up to it, and it is the number in its block. The first field has number 1; every other one
has the number of the field before it if the two have one origin, and the next number if not. -/
theorem seq_eq_originRuns {fields : List Field} {out : Rendered}
    (h : (render ctx lookup fields).result = .ok out) (few : fields.length < UInt32.size) :
    (retained fields).length = out.fields.length ∧
      ∃ blocks, out.Blocks ctx blocks ∧
        ∀ (i : Nat) (f : Field) (s : Summary) (block : String), (retained fields)[i]? = some f →
          out.fields[i]? = some s → blocks[i]? = some block →
          s.seq.toNat = originRuns ((retained fields).take (i + 1)) ∧
          (i = 0 → s.seq = 1) ∧
          (∀ (j : Nat) (g : Field) (t : Summary), i = j + 1 → (retained fields)[j]? = some g →
            out.fields[j]? = some t →
            s.seq.toNat = if g.origin = f.origin then t.seq.toNat else t.seq.toNat + 1) ∧
          f.WrittenAs ctx lookup s block ∧ ShowsSequence block s.seq.toNat := by
  obtain ⟨p, written, rfl⟩ := render_eq_ok_iff.1 h
  have bound (i : Nat) : originRuns ((retained fields).take (i + 1)) < UInt32.size := by
    have runs := originRuns_le_length ((retained fields).take (i + 1))
    have kept : (retained fields).length ≤ fields.length := List.length_filter_le _ _
    rw [List.length_take] at runs
    omega
  have value {i : Nat} {f : Field} {s : Summary} (hf : (retained fields)[i]? = some f)
      (hs : p.summaries[i]? = some s) :
      s.seq.toNat = originRuns ((retained fields).take (i + 1)) := by
    rw [written.seq_summary hf hs, UInt32.toNat_ofNat_of_lt' (bound i)]
  refine ⟨written.lengths.1.symm, p.blocks, written.blocks, ?_⟩
  intro i f s block hf hs hblock
  have writtenAs := written.writtenAs hf hs hblock
  refine ⟨value hf hs, ?_, ?_, writtenAs, writtenAs.showsSequence⟩
  · rintro rfl
    rw [written.seq_summary hf hs, List.take_add_one, hf]
    rfl
  · rintro j g t rfl hg ht
    rw [value hf hs, value hg ht]
    exact originRuns_take_succ hf hg

end

/-- Two fields of the atmosphere around a removed one of the ocean, and then one of the ocean. -/
def resumedFields : List Field :=
  [windStress, { surfaceTemperature with mapping := .remove }, { windStress with weight := 4 },
   surfaceTemperature]

/-- The removed field does not end the run of the atmosphere. -/
theorem seq_eq_originRuns_resumed :
    resumedFields.length < UInt32.size ∧
      ∃ out, (render exchangeRun noCatalogue resumedFields).result = .ok out ∧
        ∃ blocks, out.Blocks exchangeRun blocks ∧
          ∃ s block, out.fields[1]? = some s ∧ blocks[1]? = some block ∧
            s.seq.toNat = originRuns [windStress, { windStress with weight := 4 }] ∧
            ShowsSequence block s.seq.toNat ∧ s.seq.toNat = 1 := by
  have few : resumedFields.length < UInt32.size := by decide
  obtain ⟨out, rendered⟩ :
      ∃ out, (render exchangeRun noCatalogue resumedFields).result = .ok out := ⟨_, rfl⟩
  obtain ⟨total, blocks, parts, each⟩ := seq_eq_originRuns rendered few
  have three : out.fields.length = 3 := total.symm
  have same := parts.length
  obtain ⟨runs, -, -, -, shown⟩ := each 1 _ _ _ rfl
    (List.getElem?_eq_getElem (by omega)) (List.getElem?_eq_getElem (by omega))
  refine ⟨few, out, rendered, blocks, parts, out.fields[1], blocks[1], ?_, ?_, runs, shown, ?_⟩
  · exact List.getElem?_eq_getElem _
  · exact List.getElem?_eq_getElem _
  · rw [runs]
    decide

end Coupling

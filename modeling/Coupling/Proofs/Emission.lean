import Coupling.Proofs.Outcome
import Coupling.Rendering

/-!
# Emissions

Writing fields one after another, as a relation:

* an `Emission` is what goes into the output for one field: the progress it is added to, the
  resolved field, its period and its block;
* `add_eq_ok_iff`: adding a field succeeds exactly when there is an emission of it;
* `Written fields p`: emissions of `fields`, from first to last, lead from nothing to `p`;
  `render_eq_ok_iff` says that rendering succeeds exactly when they do;
* `Written.emission` recovers, from what has been written, the emission of the field at any
  position and the progress that it was added to.
-/

namespace Coupling

/-- A field on its way into the output. -/
structure Emission where
  /-- What had been written before. -/
  before : Progress
  resolved : Resolved
  period : UInt32
  block : String

namespace Emission

def cfIndex (e : Emission) : Nat :=
  (e.before.table.insert e.resolved.names.cfKey e.resolved.names.cf).1

def summary (e : Emission) : Summary := e.before.summary e.resolved e.period e.cfIndex

def after (e : Emission) : Progress where
  table := (e.before.table.insert e.resolved.names.cfKey e.resolved.names.cf).2
  blocks := e.before.blocks ++ [e.block]
  summaries := e.before.summaries ++ [e.summary]
  seq := e.before.seqOf e.resolved.field.origin
  previous := some e.resolved.field.origin

/-- The emission is one of `f`: every look-up that it rests on succeeds. -/
structure Of (ctx : RunContext) (lookup : StashCode → Except Error StashEntry) (f : Field)
    (e : Emission) : Prop where
  period : ctx.period f = .ok e.period
  resolved : (f.resolveWith ctx lookup).result = .ok e.resolved
  block : e.resolved.block ctx e.summary = .ok e.block

end Emission

section
variable {ctx : RunContext} {lookup : StashCode → Except Error StashEntry}

theorem append_eq_ok_iff {p q : Progress} {r : Resolved} {period : UInt32} :
    p.append ctx r period = .ok q ↔ ∃ block, r.block ctx (Emission.summary ⟨p, r, period, block⟩) =
      .ok block ∧ q = Emission.after ⟨p, r, period, block⟩ := by
  simp only [Progress.append, bind_eq_ok, pure_eq_ok]
  constructor
  · rintro ⟨block, hblock, rfl⟩
    exact ⟨block, hblock, rfl⟩
  · rintro ⟨block, hblock, rfl⟩
    exact ⟨block, hblock, rfl⟩

/-- Adding a field succeeds exactly when there is an emission of it, and then leads to what the
emission leaves. -/
theorem add_eq_ok_iff {p q : Progress} {f : Field} :
    (p.add ctx lookup f).result = .ok q ↔
      ∃ e : Emission, e.Of ctx lookup f ∧ e.before = p ∧ e.after = q := by
  simp only [Progress.add, Logged.result_noting, noting_eq_ok, Logged.result_bind,
    Logged.result_of, bind_eq_ok, append_eq_ok_iff]
  constructor
  · rintro ⟨period, hperiod, r, hr, block, hblock, rfl⟩
    exact ⟨⟨p, r, period, block⟩, ⟨hperiod, hr, hblock⟩, rfl, rfl⟩
  · rintro ⟨e, he, rfl, rfl⟩
    exact ⟨e.period, he.period, e.resolved, he.resolved, e.block, he.block, rfl⟩

theorem addAll_append (p : Progress) (fields others : List Field) :
    (p.addAll ctx lookup (fields ++ others)).result =
      (p.addAll ctx lookup fields).result >>= fun q => (q.addAll ctx lookup others).result := by
  induction fields generalizing p with
  | nil => rfl
  | cons f fields ih =>
    simp only [List.cons_append, Progress.addAll, Logged.result_bind]
    cases (p.add ctx lookup f).result with
    | error e => rfl
    | ok q => exact ih q

/-- Writing `fields` from first to last, with nothing written before, leads to `p`. -/
inductive Written (ctx : RunContext) (lookup : StashCode → Except Error StashEntry) :
    List Field → Progress → Prop
  | start : Written ctx lookup [] {}
  | next {fields : List Field} {f : Field} {e : Emission} :
      Written ctx lookup fields e.before → e.Of ctx lookup f →
      Written ctx lookup (fields ++ [f]) e.after

namespace Written

theorem addAll {fields : List Field} {p : Progress} (h : Written ctx lookup fields p) :
    (Progress.addAll ctx lookup {} fields).result = .ok p := by
  induction h with
  | start => rfl
  | @next fields f e _ he ih =>
    have last : (e.before.add ctx lookup f).result = .ok e.after :=
      add_eq_ok_iff.2 ⟨e, he, rfl, rfl⟩
    rw [addAll_append, bind_eq_ok]
    refine ⟨e.before, ih, ?_⟩
    simp only [Progress.addAll, Logged.result_bind, bind_eq_ok, Logged.result_pure]
    exact ⟨e.after, last, rfl⟩

/-- What is written continues through every further field that can be added. -/
theorem extend {fields others : List Field} {p q : Progress} (h : Written ctx lookup fields p)
    (more : (p.addAll ctx lookup others).result = .ok q) :
    Written ctx lookup (fields ++ others) q := by
  induction others generalizing fields p with
  | nil =>
    simp only [Progress.addAll, Logged.result_pure, Except.ok.injEq] at more
    simpa [more] using h
  | cons f others ih =>
    simp only [Progress.addAll, Logged.result_bind, bind_eq_ok] at more
    obtain ⟨p', first, rest⟩ := more
    obtain ⟨e, he, rfl, rfl⟩ := add_eq_ok_iff.1 first
    simpa using ih (h.next he) rest

end Written

theorem addAll_eq_ok_iff {fields : List Field} {p : Progress} :
    (Progress.addAll ctx lookup {} fields).result = .ok p ↔ Written ctx lookup fields p :=
  ⟨fun h => by simpa using Written.start.extend h, Written.addAll⟩

/-- Rendering succeeds exactly when the retained fields can be written one after another. -/
theorem render_eq_ok_iff {fields : List Field} {out : Rendered} :
    (render ctx lookup fields).result = .ok out ↔
      ∃ p, Written ctx lookup (retained fields) p ∧ out = p.finish ctx := by
  simp only [render, Logged.result_bind, bind_eq_ok, addAll_eq_ok_iff, Logged.result_pure,
    Except.ok.injEq]
  constructor
  · rintro ⟨p, hp, rfl⟩
    exact ⟨p, hp, rfl⟩
  · rintro ⟨p, hp, rfl⟩
    exact ⟨p, hp, rfl⟩

namespace Written

theorem lengths {fields : List Field} {p : Progress} (h : Written ctx lookup fields p) :
    p.summaries.length = fields.length ∧ p.blocks.length = fields.length := by
  induction h with
  | start => exact ⟨rfl, rfl⟩
  | next _ _ ih =>
    obtain ⟨summaries, blocks⟩ := ih
    simp [Emission.after, summaries, blocks]

/-- What the field at position `i` was written as: its emission followed the emissions of the
fields before it, and its summary and block stand at the same position. -/
theorem emission {fields : List Field} {p : Progress} (h : Written ctx lookup fields p)
    {i : Nat} {f : Field} (hf : fields[i]? = some f) :
    ∃ e : Emission, Written ctx lookup (fields.take i) e.before ∧ e.Of ctx lookup f ∧
      p.summaries[i]? = some e.summary ∧ p.blocks[i]? = some e.block := by
  induction h with
  | start => simp at hf
  | @next fields g e before he ih =>
    obtain ⟨summaries, blocks⟩ := before.lengths
    have bound : i < fields.length + 1 := by
      obtain ⟨inside, -⟩ := List.getElem?_eq_some_iff.1 hf
      simpa using inside
    by_cases last : i = fields.length
    · -- The field was added last.
      subst last
      obtain rfl : g = f := by simpa using hf
      refine ⟨e, by simpa using before, he, ?_, ?_⟩
      · simp [Emission.after, ← summaries]
      · simp [Emission.after, ← blocks]
    · have earlier : i < fields.length := by omega
      rw [List.getElem?_append_left earlier] at hf
      obtain ⟨e', written, of, summary, block⟩ := ih hf
      refine ⟨e', ?_, of, ?_, ?_⟩
      · rwa [List.take_append_of_le_length (by omega)]
      · rwa [Emission.after, List.getElem?_append_left (by omega)]
      · rwa [Emission.after, List.getElem?_append_left (by omega)]

end Written

end

end Coupling

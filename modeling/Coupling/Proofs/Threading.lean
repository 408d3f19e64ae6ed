import Coupling.Proofs.Attempts

/-!
# Rendering with a catalogue that is handed on

`render` looks codes up in a function, and `renderWith` in the catalogue on file. It makes no
difference to read the catalogue when a field first needs it, and to hand it on from one field to
the next:

* `Progress.attemptAll` appends fields by attempts to resolve them, each with the catalogue that the
  attempt before it left, and `renderThreaded` renders them like that;
* `StashCatalogue.answers`: an attempt may load a catalogue, and its answers stay the same
  (`answers_after`), so they are all that a rendering sees of it (`renderThreaded_eq_render`);
* `renderThreaded_fresh`: with a catalogue that has not been used, rendering comes to what
  `renderWith` comes to, reports included.
-/

namespace Coupling

namespace StashCatalogue

variable {read : FileReader} {ctx : RunContext}

/-- What look-ups are answered. -/
def answers (c : StashCatalogue) (read : FileReader) (ctx : RunContext) (code : StashCode) :
    Except Error StashEntry :=
  (c.lookup read ctx code).1

theorem answers_lookup (c : StashCatalogue) (code : StashCode) :
    (c.lookup read ctx code).2.answers read ctx = c.answers read ctx := by
  funext other
  unfold answers lookup
  cases loaded : c.loaded with
  | some m => simp only [loaded]
  | none =>
    cases Stashmaster.load read ctx with
    | ok m => rfl
    | error e => simp only [loaded]

/-- An attempt to resolve a field looks up one code at most. -/
theorem answers_after (c : StashCatalogue) (f : Field) :
    (f.resolve ctx read c).catalogue.answers read ctx = c.answers read ctx := by
  show (f.catalogueAfter ctx read c).answers read ctx = c.answers read ctx
  unfold Field.catalogueAfter
  by_cases hybrid : f.hybrid = true
  · rw [if_pos hybrid]
    cases f.hybridParts with
    | ok parts => exact c.answers_lookup parts.2
    | error e => rfl
  · rw [if_neg hybrid]

theorem answers_fresh (read : FileReader) (ctx : RunContext) :
    answers {} read ctx = catalogue read ctx := by
  funext code
  unfold answers lookup catalogue
  cases Stashmaster.load read ctx <;> rfl

end StashCatalogue

namespace Progress

/-- Appends a field: its period first, then what an attempt to resolve it makes of it. -/
def attempt (ctx : RunContext) (read : FileReader) (c : StashCatalogue) (p : Progress)
    (f : Field) : Logged Progress :=
  Logged.noting "weight" s!"{f.weight.toInt}" do
    let period ← Logged.of (ctx.period f)
    let attempt := f.resolve ctx read c
    let names ← attempt.names
    Logged.of (p.append ctx ⟨attempt.field, names⟩ period)

def attemptAll (ctx : RunContext) (read : FileReader) (c : StashCatalogue) (p : Progress) :
    List Field → Logged Progress
  | [] => pure p
  | f :: fields => do
    let p ← p.attempt ctx read c f
    p.attemptAll ctx read (f.resolve ctx read c).catalogue fields

variable (ctx : RunContext) (read : FileReader) (c : StashCatalogue) (p : Progress)

theorem attempt_eq_add (f : Field) :
    p.attempt ctx read c f = p.add ctx (c.answers read ctx) f := by
  have handed : (fun code => (c.lookup read ctx code).1) = c.answers read ctx := rfl
  unfold attempt add
  simp only [Field.resolve, handed]
  obtain ⟨result, events⟩ := f.resolveWith ctx (c.answers read ctx)
  cases result <;> rfl

/-- The catalogue changes from field to field, and its answers do not. -/
theorem attemptAll_eq_addAll (fields : List Field) :
    p.attemptAll ctx read c fields = p.addAll ctx (c.answers read ctx) fields := by
  induction fields generalizing p c with
  | nil => rfl
  | cons f fields ih =>
    rw [attemptAll, addAll, attempt_eq_add]
    apply congrArg
    funext later
    rw [ih, c.answers_after]

end Progress

/-- Renders the fields that are not removed with a catalogue that is handed on. -/
def renderThreaded (read : FileReader) (ctx : RunContext) (c : StashCatalogue)
    (fields : List Field) : Logged Rendered := do
  let p ← Progress.attemptAll ctx read c {} (retained fields)
  return p.finish ctx

theorem renderThreaded_eq_render (read : FileReader) (ctx : RunContext) (c : StashCatalogue)
    (fields : List Field) :
    renderThreaded read ctx c fields = render ctx (c.answers read ctx) fields := by
  rw [renderThreaded, Progress.attemptAll_eq_addAll, render]

/-- It makes no difference when the catalogue is read. -/
theorem renderThreaded_fresh (read : FileReader) (ctx : RunContext) (fields : List Field) :
    renderThreaded read ctx {} fields = renderWith read ctx fields := by
  rw [renderThreaded_eq_render, StashCatalogue.answers_fresh, renderWith_eq]

end Coupling

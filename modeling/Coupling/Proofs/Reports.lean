import Coupling.Proofs.Schedules
import Coupling.Proofs.Weights

/-!
# Reports of computations

Which computations pass without a warning:

* `Logged.Quiet x`: nothing that `x` reports is a warning. A sequence is quiet when its parts are
  (`Quiet.bind`);
* a field is added quietly where it is hybrid or has metadata (`Field.Named`), and every other stage
  of a compilation is quiet anyway. So a compilation is quiet where all its fields are named
  (`compile_quiet`).
-/

namespace Coupling

/-- No warning is reported. -/
def Logged.Quiet {α : Type} (x : Logged α) : Prop := ∀ e ∈ x.events, e.severity = .info

namespace Logged.Quiet

variable {α β : Type}

theorem of (result : Except Error α) : (Logged.of result).Quiet := nofun

theorem report {e : Event} (h : e.severity = .info) : (Logged.report e).Quiet := by
  intro e' he
  obtain rfl := List.mem_singleton.1 he
  exact h

theorem bind {x : Logged α} {next : α → Logged β} (h : x.Quiet)
    (rest : ∀ a, x.result = .ok a → (next a).Quiet) : (x >>= next).Quiet := by
  have shape : x >>= next = x.andThen next := rfl
  rw [shape, Logged.andThen]
  cases outcome : x.result with
  | error e => exact h
  | ok a =>
    intro e he
    rcases List.mem_append.1 he with he | he
    · exact h e he
    · exact rest a outcome e he

theorem noting {x : Logged α} {key value : String} (h : x.Quiet) : (x.noting key value).Quiet := h

end Logged.Quiet

/-- The field is hybrid, or has metadata. -/
def Field.Named (f : Field) : Prop :=
  f.hybrid = false → ∃ name, CfName.lookup? (cfKey f.name f.origin) = some name

open Logged (Quiet)

theorem Field.resolveWith_quiet {f : Field} (named : f.Named) (ctx : RunContext)
    (lookup : StashCode → Except Error StashEntry) : (f.resolveWith ctx lookup).Quiet := by
  unfold resolveWith
  split
  · exact .of _
  · next plain =>
    obtain ⟨name, known⟩ := named (by simpa using plain)
    have found : metadata f.name (cfKey f.name f.origin) = pure name := by
      rw [metadata, known]
    unfold resolveTagged
    dsimp only
    rw [found]
    exact .of _

section
variable {ctx : RunContext} {lookup : StashCode → Except Error StashEntry}

theorem Progress.add_quiet {f : Field} (named : f.Named) (p : Progress) :
    (p.add ctx lookup f).Quiet := by
  refine Quiet.noting (.bind (.of _) ?_)
  intro period _
  exact .bind (f.resolveWith_quiet named ctx lookup) fun r _ => .of _

theorem Progress.addAll_quiet {fields : List Field} (named : ∀ f ∈ fields, f.Named)
    (p : Progress) : (p.addAll ctx lookup fields).Quiet := by
  induction fields generalizing p with
  | nil => exact .of _
  | cons f fields ih =>
    obtain ⟨first, others⟩ := List.forall_mem_cons.1 named
    exact .bind (p.add_quiet first) fun q _ => ih others q

theorem render_quiet {fields : List Field} (named : ∀ f ∈ retained fields, f.Named) :
    (render ctx lookup fields).Quiet :=
  .bind (Progress.addAll_quiet named {}) fun _ _ => .of _

end

theorem expandDefaults_quiet (ctx : RunContext) (fields : List Field) :
    (expandDefaults ctx fields).Quiet := by
  unfold expandDefaults
  split
  · exact .bind (.of _) fun _ _ => .bind (.report rfl) fun _ _ => .of _
  · exact .of _

theorem check_quiet (ctx : RunContext) (fields : List Field) :
    (ctx.check fields).outcome.Quiet := by
  unfold RunContext.check
  cases ctx.checkLevels with
  | error e => exact .of _
  | ok =>
    intro e he
    have tightened : e ∈ ctx.tightening.events := he
    rw [ctx.tightening_eq] at tightened
    obtain ⟨⟨d, s⟩, -, changed⟩ := List.mem_filterMap.1 tightened
    obtain ⟨statistics, -, rfl⟩ := Option.map_eq_some_iff.1 changed
    rfl

/-- A compilation warns of nothing but fields without metadata. -/
theorem compile_quiet {read : FileReader} {ctx : RunContext} {requests : List Request}
    (named : ∀ explicit records, Request.buildAll requests = .ok explicit →
      (expandDefaults ctx explicit).result = .ok records → ∀ f ∈ records, f.Named) :
    (compile read ctx requests).Quiet := by
  refine .bind (.of _) fun explicit built => ?_
  refine .bind (expandDefaults_quiet ctx explicit) fun records expanded => ?_
  refine .bind (check_quiet ctx records) fun _ _ => ?_
  refine .bind (render_quiet ?_) fun _ _ => .bind (.report rfl) fun _ _ => .of _
  intro f hf
  have member := (orderByWeight_perm records).mem_iff.1 (List.mem_filter.1 hf).1
  exact named explicit records built expanded f member

end Coupling

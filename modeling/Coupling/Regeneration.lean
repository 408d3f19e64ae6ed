import Coupling.Event

/-!
# Regeneration

After the files are written a program may be started that regenerates what depends on them. How
it ends is only reported: it never turns into an error.
-/

namespace Coupling

/-- How a started program ends. -/
inductive Regeneration where
  | finished
  /-- The program ended with a status other than success. -/
  | failed (status : String)
  /-- The program could not be started. -/
  | notStarted (reason : String)
  deriving DecidableEq, Repr

/-- The report on a program that was to be started. -/
def Regeneration.report (program : String) : Regeneration → Event
  | .finished => ⟨.info, "regeneration finished", [("command", program)]⟩
  | .failed status =>
    ⟨.warning, "regeneration reported failure", [("command", program), ("status", status)]⟩
  | .notStarted reason =>
    ⟨.warning, "regeneration could not start", [("command", program), ("error", reason)]⟩

/-- The report on a program that was left out on request. -/
def Regeneration.skipped : Event := ⟨.info, "regeneration skipped", []⟩

end Coupling

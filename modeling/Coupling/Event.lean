import Coupling.Error

/-!
# Logged computations

A computation reports events while it runs and ends in a value or an error. `Logged` pairs the
two; what was reported before an error stays reported. Events are never read back, so the result
of a sequence is the sequence of the results (`result_bind`).
-/

namespace Coupling

/-- How much an event matters. -/
inductive Severity where
  | info | warning
  deriving DecidableEq, Repr

/-- A line of the log: a message with named values. -/
structure Event where
  severity : Severity
  message : String
  fields : List (String × String)
  deriving DecidableEq, Repr

/-- A result and the events reported on the way to it. -/
structure Logged (α : Type) where
  result : Except Error α
  events : List Event

namespace Logged

/-- A result without events. -/
def of {α : Type} (result : Except Error α) : Logged α := ⟨result, []⟩

def report (event : Event) : Logged Unit := ⟨.ok (), [event]⟩

/-- Runs `next` on the value, unless there is none. -/
def andThen {α β : Type} (x : Logged α) (next : α → Logged β) : Logged β :=
  match x.result with
  | .ok a => ⟨(next a).result, x.events ++ (next a).events⟩
  | .error e => ⟨.error e, x.events⟩

instance : Monad Logged where
  pure a := of (.ok a)
  bind := andThen

instance : MonadLift (Except Error) Logged := ⟨of⟩

@[simp] theorem result_pure {α : Type} (a : α) : (pure a : Logged α).result = .ok a := rfl

@[simp] theorem result_bind {α β : Type} (x : Logged α) (next : α → Logged β) :
    (x >>= next).result = x.result >>= fun a => (next a).result := by
  show (andThen x next).result = _
  unfold andThen
  cases x.result <;> rfl

/-- Adds a note to the condition that stopped the computation, if one did. -/
def noting {α : Type} (key value : String) (x : Logged α) : Logged α :=
  ⟨Coupling.noting key value x.result, x.events⟩

end Logged

end Coupling

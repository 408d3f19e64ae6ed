import Coupling.Spec

/-!
# Coupling requests

The specifications that one component contributes, with the settings that apply to all of them.
-/

namespace Coupling

/-- A sender and its specifications. -/
structure Request where
  sender : Sender
  specs : List String
  deriving DecidableEq, Repr

/-- The fields of a request; an error says whose request it was. -/
def Request.build (r : Request) : Except Error (List Field) :=
  noting "origin" r.sender.origin.tag (Spec.build r.sender r.specs)

end Coupling

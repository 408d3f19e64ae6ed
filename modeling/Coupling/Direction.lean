import Coupling.Component
import Coupling.Text.Cut

/-!
# Directions

An ordered pair of components, written `ATM2OCN`. Reading accepts any blanks and letter case
around the two tags; writing gives the one normal form.
-/

namespace Coupling

/-- The way a field travels. -/
structure Direction where
  origin : Component
  dest : Component
  deriving DecidableEq, Repr, Inhabited

namespace Direction

/-- The normal form: the two tags joined by a `2`. -/
def text (d : Direction) : String := s!"{d.origin}2{d.dest}"

/-- Directions are ordered by origin, then by destination. -/
def order : Direction → Direction → Ordering :=
  compareLex (compareOn origin) (compareOn dest)

instance : Ord Direction := ⟨order⟩

instance : Std.TransOrd Direction :=
  inferInstanceAs (Std.TransCmp (compareLex (compareOn origin) (compareOn dest)))

instance : Std.LawfulEqOrd Direction where
  eq_of_compare {a b} h := by
    have both := Ordering.then_eq_eq.1 h
    obtain ⟨o, d⟩ := a
    obtain ⟨o', d'⟩ := b
    have origins : o = o' := Std.LawfulEqOrd.eq_of_compare both.1
    have dests : d = d' := Std.LawfulEqOrd.eq_of_compare both.2
    rw [origins, dests]

/-- Reads one end of the direction written `whole`. -/
def readEnd (whole part : String) : Except Error Component :=
  match Component.read part with
  | .ok component => .ok component
  | .error e => .error ((Error.of .invalidInput e.message).note "direction" whole)

/-- Reads a direction, separated at the first `2`. -/
def read (text : String) : Except Error Direction :=
  match Text.cut? ['2'] text.toList with
  | none => .error (.of .invalidInput s!"direction '{text}' is not of the form ORIGIN2DEST")
  | some (before, after) => do
    let origin ← readEnd text (String.ofList before)
    let dest ← readEnd text (String.ofList after)
    return ⟨origin, dest⟩

end Direction

instance : ToString Direction := ⟨Direction.text⟩

end Coupling
